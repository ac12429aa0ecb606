/-
  What the search does on its way.

  A lazy search and a search that always works every place out end with the same file; what tells
  them apart is what they ask the host for, and what they report.

  1. **Routes** — the events of a search that never finds anything, in order, with a gap where a
     directory cannot be had (`eventRoute`; `route` has all steps).  A search goes along its route
     up to the first hit or the first gap (`travelled`).  A hit can only come last
     (`exists_append_of_hit`, by induction on the route).
  2. **Endings** — what the ending of a search tells of its steps: that it went along its route
     (`SearchEnds.travels`), what it asked the host for (`SearchEnds.asked`), and that a file was
     reported exactly if it is the answer (`SearchEnds.found_mem_iff`).
  3. **Trace and answer** — `searched_and_answered` puts these together, and compares the steps of
     the list of places.
-/
import Handover.Proofs.Search

namespace Handover

/-! ## Routes -/

/-- A place was looked at, and a file was there. -/
def Event.isHit : Event → Bool
  | .probed _ _ found => found
  | _ => false

/-- A place was looked at. -/
def Event.isProbe : Event → Bool
  | .probed .. => true
  | _ => false

/-- A step is a hit if its event is one. -/
def Step.isHit (s : Step) : Bool := s.event?.any Event.isHit

/-- A step looks at a place if its event tells so. -/
def Step.isProbe (s : Step) : Bool := s.event?.any Event.isProbe

section Hits

variable {kind : CandidateKind} {path : Path} {found : Bool} {scheme : Host.Scheme} {e : Event}

@[simp] theorem Event.isHit_probed : (Event.probed kind path found).isHit = found := rfl

@[simp] theorem Event.isHit_userSchemeSelected : (Event.userSchemeSelected scheme).isHit = false :=
  rfl

@[simp] theorem Event.isHit_packageRootUnknown : Event.packageRootUnknown.isHit = false := rfl

@[simp] theorem Step.isHit_emitted : (Step.emitted e).isHit = e.isHit := rfl

@[simp] theorem Step.isHit_askedScriptsDir : (Step.askedScriptsDir scheme).isHit = false := rfl

@[simp] theorem Step.isHit_askedPackageRoot : Step.askedPackageRoot.isHit = false := rfl

end Hits

/-- The part of a route that is gone: up to the first hit, which is the last step then, or up to the
    first gap. -/
@[simp] def travelled {α : Type} (hit : α → Bool) : List (Option α) → List α
  | [] => []
  | none :: _ => []
  | some a :: rest => if hit a then [a] else a :: travelled hit rest

section Travelling

variable {α β : Type} {hit : α → Bool}

/-- **A hit is the last step**, and all before it are misses. -/
theorem exists_append_of_hit {line : List (Option α)} {a : α} (ha : a ∈ travelled hit line)
    (hhit : hit a = true) :
    ∃ before, travelled hit line = before ++ [a] ∧ ∀ b ∈ before, hit b = false := by
  induction line with
  | nil => cases ha
  | cons stop rest ih =>
    cases stop with
    | none => cases ha
    | some b =>
      rw [travelled] at ha ⊢
      by_cases hb : hit b = true
      · rw [if_pos hb] at ha ⊢
        rw [List.mem_singleton] at ha
        exact ⟨[], by rw [ha, List.nil_append], fun _ h => absurd h List.not_mem_nil⟩
      · rw [if_neg hb] at ha ⊢
        rcases List.mem_cons.mp ha with rfl | hrest
        · exact absurd hhit hb
        · obtain ⟨before, hline, hmiss⟩ := ih hrest
          refine ⟨b :: before, by rw [hline, List.cons_append], ?_⟩
          exact List.forall_mem_cons.mpr ⟨Bool.not_eq_true _ ▸ hb, hmiss⟩

/-- A route seen through a view that may pass steps over, but no hits and no gaps. -/
def viewed (view : α → Option β) : List (Option α) → List (Option β)
  | [] => []
  | none :: rest => none :: viewed view rest
  | some a :: rest =>
    match view a with
    | none => viewed view rest
    | some b => some b :: viewed view rest

/-- What is seen of the part that is gone is the part that is gone of what is seen. -/
theorem filterMap_travelled {view : α → Option β} {hit' : β → Bool}
    (hview : ∀ a, hit a = (view a).any hit') (line : List (Option α)) :
    (travelled hit line).filterMap view = travelled hit' (viewed view line) := by
  induction line with
  | nil => rfl
  | cons stop rest ih =>
    cases stop with
    | none => rfl
    | some a =>
      rw [travelled, viewed, hview a]
      cases hb : view a with
      | none =>
        simp only [Option.any_none, Bool.false_eq_true, if_false, List.filterMap_cons, hb]
        exact ih
      | some b =>
        simp only [Option.any_some, travelled]
        by_cases hhit : hit' b = true
        · simp only [if_pos hhit, List.filterMap_cons, hb, List.filterMap_nil]
        · simp only [if_neg hhit, List.filterMap_cons, hb, ih]

end Travelling

section Search

variable (p : Host.Provider) (isFile : Path → Bool) (baseName : String)

/-- The event of looking at a place. -/
def look (c : Candidate) : Event := .probed c.kind c.path (isFile c.path)

/-- The event of looking beside the package. -/
def lookBeside : Event :=
  match adjacentPlace p baseName with
  | some c => look isFile c
  | none => .packageRootUnknown

/-- The events of a search that is not cut short.  A gap stands where a directory cannot be had. -/
def eventRoute : List (Option Event) :=
  [(standardPlace p baseName).toOption.map (look isFile),
   some (.userSchemeSelected p.userScheme),
   (userPlace p baseName).toOption.map (look isFile),
   some (lookBeside p isFile baseName)]

/-- All steps of a search that is not cut short: what the host is asked for, and the events. -/
def route : List (Option Step) :=
  [some (.askedScriptsDir .active),
   (standardPlace p baseName).toOption.map fun c => .emitted (look isFile c),
   some (.emitted (.userSchemeSelected p.userScheme)),
   some (.askedScriptsDir p.userScheme),
   (userPlace p baseName).toOption.map fun c => .emitted (look isFile c),
   some .askedPackageRoot,
   some (.emitted (lookBeside p isFile baseName))]

/-- The events of the route are those among its steps. -/
theorem viewed_route :
    viewed Step.event? (route p isFile baseName) = eventRoute p isFile baseName := by
  unfold route eventRoute
  cases standardPlace p baseName with
  | error e => cases userPlace p baseName <;> rfl
  | ok standard => cases userPlace p baseName <;> rfl

/-! ## What an ending tells -/

variable {p isFile baseName}

theorem kind_of_standardPlace {c : Candidate} (h : standardPlace p baseName = .ok c) :
    c.kind = .standard := by
  cases ha : p.scriptsDir .active with
  | error e => rw [standardPlace_of_error ha] at h; cases h
  | ok dir => rw [standardPlace_of_ok ha] at h; cases h; rfl

namespace SearchEnds

variable {steps : List Step} {answer : Except ResolveError Candidate}

/-- **A search goes along its route**, up to the first hit or the first gap. -/
theorem travels (h : SearchEnds p isFile baseName steps answer) :
    steps = travelled Step.isHit (route p isFile baseName) := by
  unfold route lookBeside look
  cases h with
  | noStandard hstandard => simp [Except.toOption, hstandard]
  | standard hstandard hfile => simp [Except.toOption, hstandard, hfile]
  | noUser hstandard hmiss huser => simp [Except.toOption, hstandard, hmiss, huser]
  | user hstandard hmiss huser hfile => simp [Except.toOption, hstandard, hmiss, huser, hfile]
  | noPackage hstandard hmiss huser hmiss' hadjacent =>
    simp [Except.toOption, hstandard, hmiss, huser, hmiss', hadjacent]
  | adjacent hstandard hmiss huser hmiss' hadjacent hfile =>
    simp [Except.toOption, hstandard, hmiss, huser, hmiss', hadjacent, hfile]
  | nowhere hstandard hmiss huser hmiss' hadjacent hmiss'' =>
    simp [Except.toOption, hstandard, hmiss, huser, hmiss', hadjacent, hmiss'']

/-- The directory of the user scheme is asked for only when the standard place is no file. -/
theorem asked (h : SearchEnds p isFile baseName steps answer) :
    steps.filterMap Step.scheme? =
      match standardPlace p baseName with
      | .error _ => [.active]
      | .ok c => if isFile c.path then [.active] else [.active, p.userScheme] := by
  cases h with
  | noStandard hstandard => rw [hstandard]; rfl
  | standard hstandard hfile => simp only [hstandard, hfile]; rfl
  | noUser hstandard hmiss => simp only [hstandard, hmiss]; rfl
  | user hstandard hmiss => simp only [hstandard, hmiss]; rfl
  | noPackage hstandard hmiss => simp only [hstandard, hmiss]; rfl
  | adjacent hstandard hmiss => simp only [hstandard, hmiss]; rfl
  | nowhere hstandard hmiss => simp only [hstandard, hmiss]; rfl

/-- The package is asked for exactly when both schemes have been missed. -/
theorem askedPackageRoot_mem_iff (h : SearchEnds p isFile baseName steps answer) :
    .askedPackageRoot ∈ steps ↔
      ∃ standard user, standardPlace p baseName = .ok standard ∧ isFile standard.path = false ∧
        userPlace p baseName = .ok user ∧ isFile user.path = false := by
  cases h with
  | noStandard hstandard => simp [hstandard]
  | standard hstandard hfile => simp [hstandard, hfile]
  | noUser hstandard hmiss huser => simp [huser]
  | user hstandard hmiss huser hfile => simp [huser, hfile]
  | noPackage hstandard hmiss huser hmiss' => simp [hstandard, hmiss, huser, hmiss']
  | adjacent hstandard hmiss huser hmiss' => simp [hstandard, hmiss, huser, hmiss']
  | nowhere hstandard hmiss huser hmiss' => simp [hstandard, hmiss, huser, hmiss']

/-- A file is reported exactly if it is the answer. -/
theorem found_mem_iff (h : SearchEnds p isFile baseName steps answer) {c : Candidate} :
    .emitted (.probed c.kind c.path true) ∈ steps ↔ answer = .ok c := by
  have hext : ∀ d : Candidate, c.kind = d.kind ∧ c.path = d.path ↔ d = c := by
    rintro ⟨kind, path⟩
    cases c
    simp [eq_comm]
  cases h with
  | noStandard => simp
  | standard => simp [hext]
  | noUser => simp
  | user => simp [hext]
  | noPackage => simp
  | adjacent => simp [hext]
  | nowhere => simp

/-- A search that finds nothing has looked at the place that it names before all others. -/
theorem first_of_notFound {primary : Path}
    (h : SearchEnds p isFile baseName steps (.error (.notFound primary))) :
    ∃ later, steps.filterMap Step.event? = .probed .standard primary false :: later := by
  cases h with
  | noStandard hstandard =>
    obtain ⟨e, he⟩ := standardPlace_error_is_host hstandard
    cases he
  | noUser hstandard hmiss huser =>
    obtain ⟨e, he⟩ := userPlace_error_is_host huser
    cases he
  | noPackage hstandard =>
    rw [← kind_of_standardPlace hstandard]
    exact ⟨_, rfl⟩
  | nowhere hstandard =>
    rw [← kind_of_standardPlace hstandard]
    exact ⟨_, rfl⟩

/-- **The list of places is made as a search is that finds nothing, without looking.** -/
theorem candidates_steps (h : SearchEnds p (fun _ => false) baseName steps answer) :
    (candidates p baseName).steps = steps.filter fun s => !s.isProbe := by
  unfold candidates
  simp only [Traced.bind_steps, standardCandidate_value]
  cases h with
  | noStandard hstandard => rw [hstandard]; rfl
  | noUser hstandard hmiss huser =>
    rw [hstandard]
    simp only [Traced.bind_steps, userCandidate_value, huser]
    rfl
  | noPackage hstandard hmiss huser hmiss' hadjacent =>
    rw [hstandard]
    simp only [Traced.bind_steps, userCandidate_value, huser, adjacentCandidate_steps, hadjacent]
    rfl
  | nowhere hstandard hmiss huser hmiss' hadjacent =>
    rw [hstandard]
    simp only [Traced.bind_steps, userCandidate_value, huser, adjacentCandidate_steps, hadjacent]
    rfl
  | standard hstandard hfile => cases hfile
  | user hstandard hmiss huser hfile => cases hfile
  | adjacent hstandard hmiss huser hmiss' hadjacent hfile => cases hfile

end SearchEnds

/-- So its events are those of such a search that look at nothing. -/
theorem candidates_events : (candidates p baseName).events
    = (resolve p (fun _ => false) baseName).events.filter fun e => !e.isProbe := by
  unfold Traced.events
  rw [SearchEnds.candidates_steps resolve_ends, List.filterMap_filter, List.filter_filterMap]
  congr 1
  funext s
  unfold Step.isProbe
  cases hs : s.event? with
  | none => rfl
  | some e => cases he : e.isProbe <;> simp [he, Option.filter_some]

end Search

/-! ## Trace and answer -/

/-- The steps of a search account for its answer. -/
structure Accounts (p : Host.Provider) (isFile : Path → Bool) (baseName : String)
    (search : Traced (Except ResolveError Candidate)) : Prop where
  /-- The search goes along its route up to the first hit or the first gap, and no further. -/
  steps : search.steps = travelled Step.isHit (route p isFile baseName)
  /-- So do its events. -/
  events : search.events = travelled Event.isHit (eventRoute p isFile baseName)
  /-- The user scheme is asked about only if there is a standard place that is no file. -/
  asked : search.asked =
    match standardPlace p baseName with
    | .error _ => [.active]
    | .ok c => if isFile c.path then [.active] else [.active, p.userScheme]
  /-- The package is asked for only if there are two places that are no files. -/
  package : .askedPackageRoot ∈ search.steps ↔
    ∃ standard user, standardPlace p baseName = .ok standard ∧ isFile standard.path = false ∧
      userPlace p baseName = .ok user ∧ isFile user.path = false
  /-- A file is reported exactly if it is the answer. -/
  found : ∀ c : Candidate,
    .probed c.kind c.path true ∈ search.events ↔ search.value = .ok c
  /-- The file is reported at the end, and nothing before it was one. -/
  found_last : ∀ c, search.value = .ok c → ∃ before,
    search.events = before ++ [.probed c.kind c.path true] ∧ ∀ e ∈ before, e.isHit = false
  /-- Where nothing is found the first look was at the place that the error names. -/
  missed : ∀ primary, search.value = .error (.notFound primary) →
    (∀ e ∈ search.events, e.isHit = false) ∧
      ∃ later, search.events = .probed .standard primary false :: later

theorem emitted_mem_steps_iff {α : Type} {x : Traced α} {e : Event} :
    .emitted e ∈ x.steps ↔ e ∈ x.events := by
  unfold Traced.events
  rw [List.mem_filterMap]
  constructor
  · intro h
    exact ⟨.emitted e, h, rfl⟩
  · rintro ⟨s, hs, he⟩
    cases s <;> cases he
    exact hs

/-- **The steps of every search account for its answer.** -/
theorem resolve_accounts (p : Host.Provider) (isFile : Path → Bool) (baseName : String) :
    Accounts p isFile baseName (resolve p isFile baseName) := by
  have hends : SearchEnds p isFile baseName _ _ := resolve_ends
  have hevents : (resolve p isFile baseName).events
      = travelled Event.isHit (eventRoute p isFile baseName) := by
    have hview : ∀ s : Step, s.isHit = s.event?.any Event.isHit := fun _ => rfl
    rw [← viewed_route, ← filterMap_travelled hview, ← hends.travels]
    rfl
  have hfound : ∀ c : Candidate, .probed c.kind c.path true ∈ (resolve p isFile baseName).events ↔
      (resolve p isFile baseName).value = .ok c := fun c =>
    emitted_mem_steps_iff.symm.trans hends.found_mem_iff
  refine ⟨hends.travels, hevents, hends.asked, hends.askedPackageRoot_mem_iff, hfound, ?_, ?_⟩
  · intro c hc
    have hmem := (hfound c).mpr hc
    rw [hevents] at hmem ⊢
    exact exists_append_of_hit hmem rfl
  · intro primary hmissed
    rw [hmissed] at hends
    refine ⟨fun e he => ?_, hends.first_of_notFound⟩
    -- A hit would have been the answer.
    rw [← Bool.not_eq_true]
    intro hhit
    cases e with
    | probed kind path found =>
      obtain rfl : found = true := hhit
      have hanswer := (hfound ⟨kind, path⟩).mp he
      rw [hmissed] at hanswer
      cases hanswer
    | _ => cases hhit

/-- **What a search does on its way is exactly the part of its route up to its end, and agrees with
    its answer.**  The list of places is made with the steps of a search that finds nothing, except
    that no place is looked at. -/
theorem searched_and_answered (p : Host.Provider) (isFile : Path → Bool) (baseName : String) :
    Accounts p isFile baseName (resolve p isFile baseName) ∧
    (∀ e ∈ (candidates p baseName).events, e.isProbe = false) ∧
    (candidates p baseName).steps
      = (resolve p (fun _ => false) baseName).steps.filter fun s => !s.isProbe := by
  have hlist : (candidates p baseName).steps
      = (resolve p (fun _ => false) baseName).steps.filter fun s => !s.isProbe :=
    SearchEnds.candidates_steps resolve_ends
  refine ⟨resolve_accounts p isFile baseName, fun e he => ?_, hlist⟩
  rw [candidates_events, List.mem_filter] at he
  simpa using he.2

/-- A host with two schemes and a package. -/
def threePlaces : Host.Snapshot where
  exeSuffix := ""
  scripts := Path.ofString "/s"
  schemes := [("posix_user", Path.ofString "/u")]
  preferredUserScheme := none
  platform := ⟨"posix", "linux", false⟩
  packageDir := some (Path.ofString "/p")

/-- A search that finds its file in the second place tells of two looks and never asks for the
    package; the list of the three places tells of no look. -/
theorem found_in_second_place :
    (resolve threePlaces.provider (· == Path.ofString "/u/tool") "tool").events
      = [.probed .standard (Path.ofString "/s/tool") false, .userSchemeSelected .posixUser,
          .probed .user (Path.ofString "/u/tool") true] ∧
    (resolve threePlaces.provider (· == Path.ofString "/u/tool") "tool").value
      = .ok ⟨.user, Path.ofString "/u/tool"⟩ ∧
    (candidates threePlaces.provider "tool").events = [.userSchemeSelected .posixUser] ∧
    (Event.userSchemeSelected .posixUser).isProbe = false := by
  obtain ⟨haccounts, hlist, -⟩ :=
    searched_and_answered threePlaces.provider (· == Path.ofString "/u/tool") "tool"
  have hroute : travelled Event.isHit
      (eventRoute threePlaces.provider (· == Path.ofString "/u/tool") "tool")
        = [.probed .standard (Path.ofString "/s/tool") false, .userSchemeSelected .posixUser,
            .probed .user (Path.ofString "/u/tool") true] := by decide
  have hevents := haccounts.events.trans hroute
  have hanswer := (haccounts.found ⟨.user, Path.ofString "/u/tool"⟩).mp (by rw [hevents]; decide)
  exact ⟨hevents, hanswer, rfl, hlist _ List.mem_cons_self⟩

end Handover
