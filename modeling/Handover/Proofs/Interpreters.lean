/-
  Which interpreter answers.

  The interpreters are asked in order, and the first that is there decides alone.

  1. **Specification** — `Asks` says which command asks an interpreter.  How a start can end is told
     in two relations that share no outcome: `NotThere` tells the starts that are passed over,
     `Answers` all others, each with what is reported on the way (`Remarks` for a document).
     `PassedOver` chains the first along a list of names and through the states of the system.
  2. **One name** — `querySnapshot` goes past a name that is not there
     (`querySnapshot_cons_notThere`) and ends at one that answers (`querySnapshot_cons_answers`);
     one of the two holds of every start (`notThere_or_answers`).
  3. **A list of names** — `querySnapshot_first_available`, by induction on the names.
-/
import Mathlib.Data.List.Forall2
import Handover.Host.Discovery
import Handover.Proofs.Documents

namespace Handover

/-- The command that a step starts. -/
def Step.started? : Step → Option Command
  | .started command => some command
  | _ => none

/-- The commands that were started, in order. -/
def Traced.started {α : Type} (x : Traced α) : List Command := x.steps.filterMap Step.started?

namespace Host

/-! ## Specification -/

/-- The command asks an interpreter about a package.  The program is the name as it stands; the
    arguments are the query program behind its option, and the package. -/
structure Asks (package interpreter : String) (command : Command) : Prop where
  program : command.program = Text.encode interpreter
  args : command.args = [Text.encode "-c", Text.encode queryProgram, Text.encode package]

/-- What is reported of a document that was answered. -/
inductive Remarks (document : String) : List Event → Prop where
  /-- The text is no object. -/
  | unreadable {e : Error} (hobject : ∀ members, Json.read document ≠ .ok (.object members))
      (hread : readDocument document = .error e) :
      Remarks document [.documentUnreadable e.message]
  /-- The text is an object, and a member of it is of the wrong kind. -/
  | illTyped {members : Json.Members} {fault : Settings.TypeFault} {e : Error}
      (hobject : Json.read document = .ok (.object members))
      (htable : Draft.ofTable (Settings.Table.ofMembers members) = .error fault)
      (hread : readDocument document = .error e) :
      Remarks document [.documentIllTyped e.message]
  /-- Every member is of the right kind.  What the members hold is not remarked upon. -/
  | none {members : Json.Members} {d : Draft}
      (hobject : Json.read document = .ok (.object members))
      (htable : Draft.ofTable (Settings.Table.ofMembers members) = .ok d) : Remarks document []

/-- An interpreter that is not there: it could not be found, or it exited with one of the two codes
    that say that nothing is installed.  The list holds what is reported of it. -/
inductive NotThere (interpreter : String) : Except OsError Finished → List Event → Prop where
  | notFound : NotThere interpreter (.error .notFound) [.interpreterUnavailable interpreter]
  | notInstalled {f : Finished} {code : Int} (hend : f.ending = .exited code)
      (hcode : code = 127 ∨ code = 9009) :
      NotThere interpreter (.ok f)
        [.exitedAsNotInstalled interpreter code, .interpreterUnavailable interpreter]

/-- The answer of an interpreter that is there, and what is reported of it. -/
inductive Answers (interpreter : String) :
    Except OsError Finished → Except Error Snapshot → List Event → Prop where
  /-- It could not be started for another reason than that it was not found. -/
  | spawnFailed {e : OsError} (hother : e ≠ .notFound) :
      Answers interpreter (.error e) (.error (.interpreterSpawn interpreter e)) []
  /-- It was killed. -/
  | killed {f : Finished} {signal : Nat} (hend : f.ending = .killed signal) :
      Answers interpreter (.ok f)
        (.error (.queryFailed interpreter none (Text.trim (Text.display f.errors)))) []
  /-- It failed with a code of its own. -/
  | failed {f : Finished} {code : Int} (hend : f.ending = .exited code) (hsuccess : code ≠ 0)
      (hinstalled : code ≠ 127 ∧ code ≠ 9009) :
      Answers interpreter (.ok f)
        (.error (.queryFailed interpreter (some code) (Text.trim (Text.display f.errors)))) []
  /-- It succeeded: its document decides, in order or not. -/
  | succeeded {f : Finished} {remarks : List Event} (hend : f.ending = .exited 0)
      (hremarks : Remarks (Text.display f.output) remarks) :
      Answers interpreter (.ok f) (readDocument (Text.display f.output))
        (.configurationLoaded interpreter :: remarks)

variable {σ : Type} {start : Command → σ → Except OsError Finished × σ} {package : String}

/-- None of the names is there.  Asking them one after another takes these steps and leads from one
    state to the other. -/
inductive PassedOver (start : Command → σ → Except OsError Finished × σ) (package : String) :
    List String → σ → List Step → σ → Prop where
  | nil (s : σ) : PassedOver start package [] s [] s
  | cons {name : String} {rest : List String} {s s' s'' : σ} {command : Command}
      {outcome : Except OsError Finished} {events : List Event} {steps : List Step}
      (hasks : Asks package name command) (hstart : start command s = (outcome, s'))
      (hgone : NotThere name outcome events) (hrest : PassedOver start package rest s' steps s'') :
      PassedOver start package (name :: rest) s
        (.started command :: events.map .emitted ++ steps) s''

/-! ## Commands and documents -/

/-- One command asks an interpreter. -/
theorem asks_iff {name : String} {command : Command} :
    Asks package name command ↔ command = queryCommand name package := by
  constructor
  · rintro ⟨hprogram, hargs⟩
    cases command with
    | mk program args =>
      subst hprogram hargs
      rfl
  · rintro rfl
    exact ⟨rfl, rfl⟩

/-- A text that is no object is not read as a table of settings. -/
theorem reading_of_no_object {document : String}
    (h : ∀ members, Json.read document ≠ .ok (.object members)) :
    ∃ fault, Reading.of document = .unreadable fault := by
  unfold Reading.of
  cases hjson : Json.read document with
  | error fault => exact ⟨_, rfl⟩
  | ok value =>
    cases value with
    | object members => exact absurd hjson (h members)
    | null | bool | integer | float | string | array => exact ⟨_, rfl⟩

/-- What is remarked upon a document is what reading it reports. -/
theorem remarks_iff {document : String} {events : List Event} :
    Remarks document events ↔ events = (Reading.of document).events := by
  constructor
  · intro h
    cases h with
    | unreadable hobject hread =>
      obtain ⟨fault, hreading⟩ := reading_of_no_object hobject
      unfold readDocument at hread
      rw [hreading] at hread ⊢
      cases hread
      rfl
    | illTyped hobject htable hread =>
      unfold readDocument at hread
      rw [reading_of_object hobject, htable] at hread ⊢
      cases hread
      rfl
    | none hobject htable =>
      rw [reading_of_object hobject, htable]
      rfl
  · rintro rfl
    by_cases hobject : ∃ members, Json.read document = .ok (.object members)
    · obtain ⟨members, hobject⟩ := hobject
      have hreading := reading_of_object hobject
      cases htable : Draft.ofTable (Settings.Table.ofMembers members) with
      | error fault =>
        rw [htable] at hreading
        rw [hreading]
        exact .illTyped hobject htable (congrArg Reading.snapshot hreading)
      | ok d =>
        rw [htable] at hreading
        rw [hreading]
        exact .none hobject htable
    · obtain ⟨fault, hreading⟩ := reading_of_no_object (not_exists.mp hobject)
      rw [hreading]
      exact .unreadable (not_exists.mp hobject) (congrArg Reading.snapshot hreading)

/-! ## The two kinds of outcomes -/

/-- Every start is one of a name that is not there, or has an answer. -/
theorem notThere_or_answers (name : String) (outcome : Except OsError Finished) :
    (∃ events, NotThere name outcome events) ∨
      ∃ result events, Answers name outcome result events := by
  cases outcome with
  | error e =>
    by_cases he : e = .notFound
    · subst he
      exact Or.inl ⟨_, .notFound⟩
    · exact Or.inr ⟨_, _, .spawnFailed he⟩
  | ok f =>
    cases hend : f.ending with
    | killed signal => exact Or.inr ⟨_, _, .killed hend⟩
    | exited code =>
      by_cases hgone : code = 127 ∨ code = 9009
      · exact Or.inl ⟨_, .notInstalled hend hgone⟩
      · rw [not_or] at hgone
        by_cases hzero : code = 0
        · subst hzero
          exact Or.inr ⟨_, _, .succeeded hend (remarks_iff.mpr rfl)⟩
        · exact Or.inr ⟨_, _, .failed hend hzero hgone⟩

/-- A name with an answer is there. -/
theorem Answers.there {name : String} {outcome : Except OsError Finished}
    {result : Except Error Snapshot} {events : List Event}
    (h : Answers name outcome result events) (events' : List Event) :
    ¬ NotThere name outcome events' := by
  intro hgone
  cases hgone with
  | notFound =>
    cases h with
    | spawnFailed hother => exact hother rfl
  | notInstalled hend' hcode =>
    cases h with
    | killed hend => rw [hend] at hend'; cases hend'
    | failed hend _ hinstalled =>
      rw [hend] at hend'
      cases hend'
      exact hcode.elim hinstalled.1 hinstalled.2
    | succeeded hend =>
      rw [hend] at hend'
      cases hend'
      omega

/-! ## One name -/

/-- A name that is not there is gone past: what is reported of it comes first, and the names after
    it are asked in the state that it left. -/
theorem querySnapshot_cons_notThere (tried rest : List String) {name : String} {s s' : σ}
    {command : Command} {outcome : Except OsError Finished} {events : List Event}
    (hasks : Asks package name command) (hstart : start command s = (outcome, s'))
    (h : NotThere name outcome events) :
    (querySnapshot start package tried (name :: rest) s).value
        = (querySnapshot start package tried rest s').value ∧
      (querySnapshot start package tried (name :: rest) s).steps
        = .started command :: events.map .emitted
          ++ (querySnapshot start package tried rest s').steps := by
  obtain rfl := asks_iff.mp hasks
  cases h with
  | notFound =>
    have hattempt : Attempt.of name (.error .notFound) = .absent := rfl
    simp only [querySnapshot, Traced.bind_value, Traced.bind_steps, hstart, hattempt]
    exact ⟨trivial, rfl⟩
  | @notInstalled f code hend hcode =>
    have hattempt : Attempt.of name (.ok f) = .notInstalled code := by
      have hmem : code ∈ notInstalledCodes := by rcases hcode with rfl | rfl <;> decide
      simp only [Attempt.of, hend, Ending.code?, if_pos hmem]
    simp only [querySnapshot, Traced.bind_value, Traced.bind_steps, hstart, hattempt]
    exact ⟨trivial, rfl⟩

/-- What an answer makes of the attempt. -/
theorem Answers.attempt {name : String} {outcome : Except OsError Finished}
    {result : Except Error Snapshot} {events : List Event}
    (h : Answers name outcome result events) :
    (∃ e, Attempt.of name outcome = .failed e ∧ result = .error e ∧ events = []) ∨
      ∃ document, Attempt.of name outcome = .answered document ∧
        result = readDocument document ∧
        events = .configurationLoaded name :: (Reading.of document).events := by
  cases h with
  | spawnFailed hother =>
    refine Or.inl ⟨_, ?_, rfl, rfl⟩
    simp only [Attempt.of, if_neg hother]
  | killed hend =>
    refine Or.inl ⟨_, ?_, rfl, rfl⟩
    simp only [Attempt.of, hend, Ending.code?]
  | @failed f code hend hsuccess hinstalled =>
    refine Or.inl ⟨_, ?_, rfl, rfl⟩
    have hmem : code ∉ notInstalledCodes := by
      intro hin
      rcases List.mem_cons.mp hin with h | hin
      · exact hinstalled.1 h
      · exact hinstalled.2 (List.mem_singleton.mp hin)
    simp only [Attempt.of, hend, Ending.code?, if_neg hmem, if_neg hsuccess]
  | succeeded hend hremarks =>
    refine Or.inr ⟨_, ?_, rfl, by rw [remarks_iff.mp hremarks]⟩
    have hmem : (0 : Int) ∉ notInstalledCodes := by decide
    simp only [Attempt.of, hend, Ending.code?, if_neg hmem, if_pos]

/-- A name with an answer ends the asking, whatever names come after it. -/
theorem querySnapshot_cons_answers (tried rest : List String) {name : String} {s s' : σ}
    {command : Command} {outcome : Except OsError Finished} {result : Except Error Snapshot}
    {events : List Event} (hasks : Asks package name command)
    (hstart : start command s = (outcome, s')) (h : Answers name outcome result events) :
    (querySnapshot start package tried (name :: rest) s).value = (result, s') ∧
      (querySnapshot start package tried (name :: rest) s).steps
        = .started command :: events.map .emitted := by
  obtain rfl := asks_iff.mp hasks
  rcases h.attempt with ⟨e, hattempt, rfl, rfl⟩ | ⟨document, hattempt, rfl, rfl⟩
  · simp only [querySnapshot, Traced.bind_value, Traced.bind_steps, hstart, hattempt]
    exact ⟨rfl, rfl⟩
  · simp only [querySnapshot, Traced.bind_value, Traced.bind_steps, hstart, hattempt]
    refine ⟨rfl, ?_⟩
    simp [readReported]

/-! ## A list of names -/

/-- Some name of a list is the first that is there, or none of them is. -/
theorem firstThere_or_passedOver (start : Command → σ → Except OsError Finished × σ)
    (package : String) (names : List String) (s : σ) :
    (∃ skipped name rest, names = skipped ++ name :: rest ∧
      ∃ steps s₁, PassedOver start package skipped s steps s₁ ∧
      ∃ command outcome s₂, Asks package name command ∧ start command s₁ = (outcome, s₂) ∧
      ∃ result events, Answers name outcome result events) ∨
      ∃ steps s₁, PassedOver start package names s steps s₁ := by
  induction names generalizing s with
  | nil => exact Or.inr ⟨[], s, .nil s⟩
  | cons name names ih =>
    have hasks : Asks package name (queryCommand name package) := asks_iff.mpr rfl
    obtain ⟨outcome, s', hstart⟩ :
        ∃ outcome s', start (queryCommand name package) s = (outcome, s') := ⟨_, _, rfl⟩
    rcases notThere_or_answers name outcome with ⟨events, hgone⟩ | ⟨result, events, hanswer⟩
    · rcases ih s' with ⟨skipped, first, rest, rfl, steps, s₁, hpassed, hfirst⟩ |
        ⟨steps, s₁, hpassed⟩
      · exact Or.inl ⟨name :: skipped, first, rest, rfl, _, s₁,
          .cons hasks hstart hgone hpassed, hfirst⟩
      · exact Or.inr ⟨_, s₁, .cons hasks hstart hgone hpassed⟩
    · exact Or.inl ⟨[], name, names, rfl, [], s, .nil s, _, outcome, s', hasks, hstart, result,
        events, hanswer⟩

/-- Names that are not there are gone past, whatever comes after them. -/
theorem PassedOver.querySnapshot {skipped : List String} {s s₁ : σ} {steps : List Step}
    (h : PassedOver start package skipped s steps s₁) (tried rest : List String) :
    (querySnapshot start package tried (skipped ++ rest) s).value
        = (querySnapshot start package tried rest s₁).value ∧
      (querySnapshot start package tried (skipped ++ rest) s).steps
        = steps ++ (querySnapshot start package tried rest s₁).steps := by
  induction h with
  | nil s => exact ⟨rfl, rfl⟩
  | @cons name names _ _ _ _ _ _ _ hasks hstart hgone hpassed ih =>
    obtain ⟨hvalue, hsteps⟩ :=
      querySnapshot_cons_notThere tried (names ++ rest) hasks hstart hgone
    rw [List.cons_append, hvalue, hsteps, ih.1, ih.2]
    exact ⟨rfl, by rw [List.append_assoc]⟩

/-- Events are nothing to a view that looks at other steps. -/
theorem filterMap_emitted {β : Type} {view : Step → Option β}
    (hblind : ∀ e, view (.emitted e) = none) (events : List Event) :
    (events.map Step.emitted).filterMap view = [] := by
  rw [List.filterMap_map]
  exact List.filterMap_eq_nil_iff.mpr fun e _ => hblind e

/-- One start, and what is reported of it, is one start. -/
theorem started_of_one (command : Command) (events : List Event) :
    (Step.started command :: events.map .emitted).filterMap Step.started? = [command] :=
  congrArg (command :: ·) (filterMap_emitted (fun _ => rfl) events)

/-- Each of the names was asked once, in order. -/
theorem PassedOver.started {names : List String} {s s₁ : σ} {steps : List Step}
    (h : PassedOver start package names s steps s₁) :
    List.Forall₂ (Asks package) names (steps.filterMap Step.started?) := by
  induction h with
  | nil s => exact .nil
  | cons hasks hstart hgone hpassed ih =>
    rw [List.filterMap_append, started_of_one]
    exact .cons hasks ih

/-- **The first interpreter that is there decides.**  Either some name is the first that is there:
    the names before it are passed over, the result is its own answer, the state is the one it left
    behind, and no later name is started.  Or none is there, and the error tells all names that were
    tried.  In both cases the steps are those of the names that were started, and no others; what
    was started is the names in order, each with the query program and the package. -/
theorem querySnapshot_first_available (start : Command → σ → Except OsError Finished × σ)
    (package : String) (names : List String) (s : σ) :
    (∃ skipped name rest, names = skipped ++ name :: rest ∧
      ∃ steps s₁, PassedOver start package skipped s steps s₁ ∧
      ∃ command outcome s₂, Asks package name command ∧ start command s₁ = (outcome, s₂) ∧
        (∀ events, ¬ NotThere name outcome events) ∧
      ∃ result events, Answers name outcome result events ∧
        (querySnapshot start package names names s).value = (result, s₂) ∧
        (querySnapshot start package names names s).steps
          = steps ++ .started command :: events.map .emitted ∧
        List.Forall₂ (Asks package) (skipped ++ [name])
          (querySnapshot start package names names s).started) ∨
    (∃ steps s₁, PassedOver start package names s steps s₁ ∧
      (querySnapshot start package names names s).value
        = (.error (.interpreterUnavailable names), s₁) ∧
      (querySnapshot start package names names s).steps = steps ∧
      List.Forall₂ (Asks package) names (querySnapshot start package names names s).started ∧
      (Error.interpreterUnavailable names).message
        = "No Python interpreter found on PATH (tried: " ++ ", ".intercalate names ++ ")") := by
  rcases firstThere_or_passedOver start package names s with
    ⟨skipped, name, rest, hnames, steps, s₁, hpassed, command, outcome, s₂, hasks, hstart, result,
      events, hanswer⟩ |
    ⟨steps, s₁, hpassed⟩
  · left
    obtain ⟨hvalue, hsteps⟩ := hpassed.querySnapshot names (name :: rest)
    obtain ⟨hvalue', hsteps'⟩ := querySnapshot_cons_answers names rest hasks hstart hanswer
    rw [← hnames] at hvalue hsteps
    rw [hvalue'] at hvalue
    rw [hsteps'] at hsteps
    refine ⟨skipped, name, rest, hnames, steps, s₁, hpassed, command, outcome, s₂, hasks, hstart,
      hanswer.there, result, events, hanswer, hvalue, hsteps, ?_⟩
    unfold Traced.started
    rw [hsteps, List.filterMap_append, started_of_one]
    exact List.rel_append hpassed.started (.cons hasks .nil)
  · right
    obtain ⟨hvalue, hsteps⟩ := hpassed.querySnapshot names []
    rw [List.append_nil] at hvalue hsteps
    have hend : (querySnapshot start package names [] s₁).steps = [] := rfl
    rw [hend, List.append_nil] at hsteps
    refine ⟨steps, s₁, hpassed, hvalue, hsteps, ?_, rfl⟩
    unfold Traced.started
    rw [hsteps]
    exact hpassed.started

end Host

end Handover
