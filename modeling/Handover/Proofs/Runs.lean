/-
  Whole runs of the launcher.

  A run asks interpreters, looks for the executable and hands the process over; every stage may
  fail, and the next one is then not reached.

  1. **Steps** — the steps of a run are read through two views, the programs that were started and
     the handoffs that were made.  The first two stages hand nothing over, and what they start is a
     first part of the list of interpreters (`querySnapshot_starts`, by induction on the names;
     `resolve_startsNothing`).
  2. **Courses** — a run that hands over does so in its last step, a run that fails before does not
     at all (`launch_of_located`, `launch_of_undiscovered`, `launch_of_unlocated`).
  3. **Endings** — `Takes` and `Fails` tell how a run ends from what the system did, and
     `ReportedAs` what a process that failed has left behind.
  4. **Runs** — `invoke_hands_over_once` puts the three together for every system, every argument
     vector and every state; `arguments_written_out` is a run that reaches the executable.  That a
     report holds the words of a failure letter for letter is true of words of one line only:
     `several_lines_moved_in` is a run that shows it.
-/
import Handover.Launch.Run
import Handover.Proofs.Documents
import Handover.Proofs.Interpreters
import Handover.Proofs.Report
import Handover.Proofs.Search

namespace Handover

/-! ## Handoffs among the steps -/

/-- A command is told by its argument vector. -/
theorem Command.eq_mk_iff {command : Command} {path : Path} {args : List Bytes} :
    command = ⟨path, args⟩ ↔ command.argv = path :: args := by
  cases command with
  | mk program args' => rw [Command.mk.injEq, argv, List.cons.injEq]

/-- The handoff of a step. -/
def Step.handoff? : Step → Option (Handoff × Command)
  | .handedOver mode command => some (mode, command)
  | _ => none

namespace Traced

variable {α β : Type}

/-- The handoffs that were made, in order. -/
def handoffs (x : Traced α) : List (Handoff × Command) := x.steps.filterMap Step.handoff?

theorem handoffs_bind (x : Traced α) (f : α → Traced β) :
    (x >>= f).handoffs = x.handoffs ++ (f x.value).handoffs := List.filterMap_append

theorem started_bind (x : Traced α) (f : α → Traced β) :
    (x >>= f).started = x.started ++ (f x.value).started := List.filterMap_append

end Traced

/-! ## Asking the host -/

section Asking

open Host

variable {σ : Type} {start : Command → σ → Except OsError Finished × σ} {package : String}

/-- A start and events are no handoffs. -/
theorem handoffs_of_one (command : Command) (events : List Event) :
    (Step.started command :: events.map .emitted).filterMap Step.handoff? = [] :=
  filterMap_emitted (fun _ => rfl) events

/-- **What is started to find a host that answers is a first part of the names**, in order, and
    nothing is handed over meanwhile. -/
theorem querySnapshot_starts (start : Command → σ → Except OsError Finished × σ)
    (package : String) (tried names : List String) (s : σ) :
    ∃ asked, asked <+: names ∧
      List.Forall₂ (Asks package) asked (querySnapshot start package tried names s).started ∧
      (querySnapshot start package tried names s).handoffs = [] := by
  induction names generalizing s with
  | nil => exact ⟨[], List.prefix_refl [], .nil, rfl⟩
  | cons name rest ih =>
    unfold Traced.started Traced.handoffs at *
    have hasks : Asks package name (queryCommand name package) := asks_iff.mpr rfl
    obtain ⟨outcome, s', hstart⟩ :
        ∃ outcome s', start (queryCommand name package) s = (outcome, s') := ⟨_, _, rfl⟩
    rcases notThere_or_answers name outcome with ⟨events, hgone⟩ | ⟨result, events, hanswer⟩
    · -- The name is gone past, and the names after it are asked.
      obtain ⟨asked, hprefix, hstarted, hhanded⟩ := ih s'
      have hsteps := (querySnapshot_cons_notThere tried rest hasks hstart hgone).2
      refine ⟨name :: asked, List.cons_prefix_cons.mpr ⟨rfl, hprefix⟩, ?_, ?_⟩
      · rw [hsteps, List.filterMap_append, started_of_one]
        exact .cons hasks hstarted
      · rw [hsteps, List.filterMap_append, handoffs_of_one, hhanded]
        rfl
    · have hsteps := (querySnapshot_cons_answers tried rest hasks hstart hanswer).2
      refine ⟨[name], List.cons_prefix_cons.mpr ⟨rfl, List.nil_prefix⟩, ?_, ?_⟩
      · rw [hsteps, started_of_one]
        exact .cons hasks .nil
      · rw [hsteps, handoffs_of_one]

/-- The same of a discovery, which adds no step. -/
theorem discover_starts (start : Command → σ → Except OsError Finished × σ) (package : String)
    (launcherDir : Option Path) (interpreters : List String) (s : σ) :
    ∃ asked, asked <+: interpreters ∧
      List.Forall₂ (Asks package) asked
        (discover start launcherDir interpreters package s).started ∧
      (discover start launcherDir interpreters package s).handoffs = [] := by
  obtain ⟨asked, hprefix, hstarted, hhanded⟩ :=
    querySnapshot_starts start package interpreters interpreters s
  refine ⟨asked, hprefix, ?_, ?_⟩
  · unfold discover
    rw [Traced.started_bind]
    exact (List.append_nil _).symm ▸ hstarted
  · unfold discover
    rw [Traced.handoffs_bind, hhanded]
    rfl

end Asking

/-! ## The search -/

/-- No program is started on the way, and none takes over. -/
def Traced.StartsNothing {α : Type} (x : Traced α) : Prop := x.started = [] ∧ x.handoffs = []

/-- **The search starts nothing and hands nothing over**, wherever it ends. -/
theorem resolve_startsNothing (p : Host.Provider) (isFile : Path → Bool) (baseName : String) :
    (resolve p isFile baseName).StartsNothing := by
  have hends : SearchEnds p isFile baseName _ _ := resolve_ends
  unfold Traced.StartsNothing Traced.started Traced.handoffs
  generalize (resolve p isFile baseName).steps = steps at hends ⊢
  generalize (resolve p isFile baseName).value = answer at hends
  cases hends <;> exact ⟨rfl, rfl⟩

/-! ## Courses -/

section Courses

variable {σ : Type}

/-- What is found out about the host of a system. -/
def System.discovery (sys : System σ) (s : σ) : Traced (Except Host.Error Host.Installation × σ) :=
  Host.discover sys.query sys.launcherDir Host.defaultInterpreters targetBaseName s

/-- The search for the executable on a host. -/
def System.search (sys : System σ) (i : Host.Installation) (s : σ) :
    Traced (Except ResolveError Candidate) :=
  resolve i.provider (sys.isRegularFile s) targetBaseName

variable {sys : System σ} {args : List Bytes} {s s' s'' : σ} {i : Host.Installation}

/-- A run that finds no host ends with the discovery. -/
theorem launch_of_undiscovered {e : Host.Error} (h : (sys.discovery s).value = (.error e, s')) :
    (launch sys args s).value = (.failed .readInstallation (.host e) [] [], s') ∧
      (launch sys args s).steps = (sys.discovery s).steps := by
  unfold System.discovery at h ⊢
  unfold launch
  simp only [Traced.bind_value, Traced.bind_steps, h, Traced.pure_value, Traced.pure_steps,
    List.append_nil, and_self]

/-- A run that does not find the executable ends with the search. -/
theorem launch_of_unlocated {e : ResolveError} (h : (sys.discovery s).value = (.ok i, s'))
    (hsearch : (sys.search i s').value = .error e) :
    (launch sys args s).value = (.failed .locateExecutable (.resolve e) [] [], s') ∧
      (launch sys args s).steps = (sys.discovery s).steps ++ (sys.search i s').steps := by
  unfold System.discovery at h ⊢
  unfold System.search at hsearch ⊢
  unfold launch
  simp only [Traced.bind_value, Traced.bind_steps, h, hsearch, Traced.pure_value,
    Traced.pure_steps, List.append_nil, and_self]

/-- What a run makes of the attempt to hand over to a path. -/
def outcomeAt (path : Path) : Except OsError Finished → Outcome
  | .error source => .failed (.launch path) (.launch (.replace path source)) [] []
  | .ok finished => .handedOver (.replaced finished)

/-- **A run that finds the executable hands over to it in its last step**, after the event that
    tells where it is. -/
theorem launch_of_located {c : Candidate} {outcome : Except OsError Finished}
    (h : (sys.discovery s).value = (.ok i, s')) (hsearch : (sys.search i s').value = .ok c)
    (hexec : sys.replace ⟨c.path, args⟩ s' = (outcome, s'')) :
    (launch sys args s).value = (outcomeAt c.path outcome, s'') ∧
      (launch sys args s).steps = (sys.discovery s).steps ++ (sys.search i s').steps
        ++ [.emitted (.resolved c.kind c.path),
          .emitted (.handingOff .replace c.path args.length),
          .handedOver .replace ⟨c.path, args⟩] := by
  unfold System.discovery at h ⊢
  unfold System.search at hsearch ⊢
  unfold launch handOff replaceProcess
  cases outcome with
  | error source =>
    simp only [Traced.bind_value, Traced.bind_steps, h, hsearch, Handoff.forHost,
      Traced.pure_value, hexec]
    refine ⟨rfl, ?_⟩
    simp
  | ok finished =>
    simp only [Traced.bind_value, Traced.bind_steps, h, hsearch, Handoff.forHost,
      Traced.pure_value, hexec]
    refine ⟨rfl, ?_⟩
    simp

end Courses

/-! ## Endings -/

section Endings

variable {σ : Type}

/-- The executable takes over: the host is found, the executable is found on it, and the system runs
    it in the launcher's place with the launcher's arguments. -/
inductive Takes (sys : System σ) (argv : List Bytes) (s : σ) : Finished → Prop where
  | over {i : Host.Installation} {c : Candidate} {s' s'' : σ} {finished : Finished}
      (hhost : (sys.discovery s).value = (.ok i, s')) (hsearch : (sys.search i s').value = .ok c)
      (hexec : sys.replace ⟨c.path, argv.drop 1⟩ s' = (.ok finished, s'')) :
      Takes sys argv s finished

/-- A stage of the run fails. -/
inductive Fails (sys : System σ) (argv : List Bytes) (s : σ) : Stage → Failure → Prop where
  | undiscovered {e : Host.Error} {s' : σ} (hhost : (sys.discovery s).value = (.error e, s')) :
      Fails sys argv s .readInstallation (.host e)
  | unlocated {i : Host.Installation} {e : ResolveError} {s' : σ}
      (hhost : (sys.discovery s).value = (.ok i, s'))
      (hsearch : (sys.search i s').value = .error e) :
      Fails sys argv s .locateExecutable (.resolve e)
  | unexecuted {i : Host.Installation} {c : Candidate} {source : OsError} {s' s'' : σ}
      (hhost : (sys.discovery s).value = (.ok i, s')) (hsearch : (sys.search i s').value = .ok c)
      (hexec : sys.replace ⟨c.path, argv.drop 1⟩ s' = (.error source, s'')) :
      Fails sys argv s (.launch c.path) (.launch (.replace c.path source))

/-- What a process has left behind that failed: it exited with code 1 and wrote a report, which
    begins with what the launcher was about to do and contains why it failed. -/
structure ReportedAs (process : Finished) (stage : Stage) (failure : Failure) : Prop where
  ending : process.ending = .exited 1
  output : process.output = []
  context : Text.encode stage.context <+: process.errors
  /-- Every line of the words after the first is moved in. -/
  message : Text.encodeChars
      (Report.indentRest (Report.lineIndent failure.causes) failure.message.toList)
    <:+: process.errors
  /-- Words of one line are there letter for letter. -/
  one_line : '\n' ∉ failure.message.toList → Text.encode failure.message <:+: process.errors

theorem encodeChars_prefix {xs ys : List Char} (h : xs <+: ys) :
    Text.encodeChars xs <+: Text.encodeChars ys := by
  obtain ⟨rest, rfl⟩ := h
  rw [Text.encodeChars_append]
  exact List.prefix_append _ _

theorem encodeChars_infix {xs ys : List Char} (h : xs <:+: ys) :
    Text.encodeChars xs <:+: Text.encodeChars ys := by
  obtain ⟨before, after, rfl⟩ := h
  rw [Text.encodeChars_append, Text.encodeChars_append]
  exact ⟨_, _, rfl⟩

/-- A failed run leaves its report behind. -/
theorem reportedAs_failed (stage : Stage) (failure : Failure) :
    ReportedAs (Outcome.failed stage failure [] []).finished stage failure := by
  have hprinted : (Report.printed (Report.ofFailure [stage.context] failure)).toList
      = (Report.ofFailure [stage.context] failure).toList ++ ['\n'] := String.toList_append
  have hmessage : Text.encodeChars
      (Report.indentRest (Report.lineIndent failure.causes) failure.message.toList)
      <:+: (Outcome.failed stage failure [] []).finished.errors := by
    refine encodeChars_infix ?_
    rw [hprinted]
    exact (Report.message_infix_ofFailure _ _).trans (List.prefix_append _ _).isInfix
  refine ⟨rfl, rfl, ?_, hmessage, ?_⟩
  · refine encodeChars_prefix ?_
    rw [hprinted]
    exact (Report.context_prefix_ofFailure _ _).trans (List.prefix_append _ _)
  · intro hline
    rw [Report.indentRest_of_one_line hline] at hmessage
    exact hmessage

/-- A run ends with the executable in its place or fails at one of the stages. -/
theorem takes_or_fails (sys : System σ) (argv : List Bytes) (s : σ) :
    (∃ finished, Takes sys argv s finished) ∨ ∃ stage failure, Fails sys argv s stage failure := by
  obtain ⟨found, s', hhost⟩ : ∃ found s', (sys.discovery s).value = (found, s') := ⟨_, _, rfl⟩
  cases found with
  | error e => exact Or.inr ⟨_, _, .undiscovered hhost⟩
  | ok i =>
    cases hsearch : (sys.search i s').value with
    | error e => exact Or.inr ⟨_, _, .unlocated hhost hsearch⟩
    | ok c =>
      obtain ⟨outcome, s'', hexec⟩ :
          ∃ outcome s'', sys.replace ⟨c.path, argv.drop 1⟩ s' = (outcome, s'') :=
        ⟨_, _, rfl⟩
      cases outcome with
      | error source => exact Or.inr ⟨_, _, .unexecuted hhost hsearch hexec⟩
      | ok finished => exact Or.inl ⟨_, .over hhost hsearch hexec⟩

variable {sys : System σ} {argv : List Bytes} {s : σ}

/-- The process of a run in whose place the executable runs ends as that does. -/
theorem Takes.finished {finished : Finished} (h : Takes sys argv s finished) :
    (invoke sys argv s).value.1.finished = finished := by
  obtain ⟨hhost, hsearch, hexec⟩ := h
  unfold invoke forwarded
  rw [(launch_of_located hhost hsearch hexec).1]
  rfl

/-- The outcome of a run that fails tells the stage and the failure. -/
theorem Fails.outcome {stage : Stage} {failure : Failure} (h : Fails sys argv s stage failure) :
    (invoke sys argv s).value.1 = .failed stage failure [] [] := by
  unfold invoke forwarded
  cases h with
  | undiscovered hhost => rw [(launch_of_undiscovered hhost).1]
  | unlocated hhost hsearch => rw [(launch_of_unlocated hhost hsearch).1]
  | unexecuted hhost hsearch hexec =>
    rw [(launch_of_located hhost hsearch hexec).1]
    rfl

end Endings

/-! ## Runs -/

section Runs

variable {σ : Type} {sys : System σ} {s : σ}

/-- The host is found, and the executable is found on it. -/
def Locates (sys : System σ) (s : σ) (c : Candidate) : Prop :=
  ∃ i s', (sys.discovery s).value = (.ok i, s') ∧ (sys.search i s').value = .ok c

/-- The executable that is located is one. -/
theorem Locates.unique {c c' : Candidate} (h : Locates sys s c) (h' : Locates sys s c') :
    c' = c := by
  obtain ⟨i, s₁, hhost, hsearch⟩ := h
  obtain ⟨i', s₁', hhost', hsearch'⟩ := h'
  rw [hhost, Prod.mk.injEq, Except.ok.injEq] at hhost'
  obtain ⟨rfl, rfl⟩ := hhost'
  rw [hsearch, Except.ok.injEq] at hsearch'
  exact hsearch'.symm

/-- What a discovery starts, it starts first, and it hands nothing over. -/
theorem System.discovery_starts (sys : System σ) (s : σ) :
    ∃ asked, asked <+: Host.defaultInterpreters ∧
      List.Forall₂ (Host.Asks targetBaseName) asked (sys.discovery s).started ∧
      (sys.discovery s).handoffs = [] :=
  discover_starts sys.query targetBaseName sys.launcherDir Host.defaultInterpreters s

/-- A run that locates the executable: its last step is the one handoff, and everything it has
    started before was started by the discovery. -/
theorem Locates.invoke {c : Candidate} (h : Locates sys s c) (argv : List Bytes) :
    ∃ before, (invoke sys argv s).steps
        = before ++ [.handedOver .replace ⟨c.path, argv.drop 1⟩] ∧
      .emitted (.resolved c.kind c.path) ∈ before ∧
      (invoke sys argv s).handoffs = [(.replace, ⟨c.path, argv.drop 1⟩)] ∧
      (invoke sys argv s).started = (sys.discovery s).started := by
  obtain ⟨i, s', hhost, hsearch⟩ := h
  obtain ⟨outcome, s'', hexec⟩ :
      ∃ outcome s'', sys.replace ⟨c.path, argv.drop 1⟩ s' = (outcome, s'') := ⟨_, _, rfl⟩
  have hsteps := (launch_of_located hhost hsearch hexec).2
  obtain ⟨-, -, -, hfirst⟩ := sys.discovery_starts s
  obtain ⟨hstarted, hsecond⟩ :=
    resolve_startsNothing i.provider (sys.isRegularFile s') targetBaseName
  unfold Handover.invoke forwarded Traced.handoffs Traced.started at *
  refine ⟨(sys.discovery s).steps ++ (sys.search i s').steps ++ [.emitted (.resolved c.kind c.path),
    .emitted (.handingOff .replace c.path (argv.drop 1).length)], ?_, ?_, ?_, ?_⟩
  · rw [hsteps]
    simp
  · simp
  · rw [hsteps, List.filterMap_append, List.filterMap_append, hfirst, System.search, hsecond]
    rfl
  · rw [hsteps, List.filterMap_append, List.filterMap_append, System.search, hstarted,
      List.append_nil]
    exact List.append_nil _

/-- A run that does not locate the executable hands nothing over. -/
theorem invoke_of_not_locates (h : ∀ c, ¬ Locates sys s c) (argv : List Bytes) :
    (invoke sys argv s).handoffs = [] ∧
      (invoke sys argv s).started = (sys.discovery s).started := by
  obtain ⟨-, -, -, hfirst⟩ := sys.discovery_starts s
  obtain ⟨found, s', hhost⟩ : ∃ found s', (sys.discovery s).value = (found, s') := ⟨_, _, rfl⟩
  unfold invoke forwarded Traced.handoffs Traced.started at *
  cases found with
  | error e =>
    rw [(launch_of_undiscovered hhost).2]
    exact ⟨hfirst, rfl⟩
  | ok i =>
    cases hsearch : (sys.search i s').value with
    | ok c => exact absurd ⟨i, s', hhost, hsearch⟩ (h c)
    | error e =>
      obtain ⟨hstarted, hsecond⟩ :=
        resolve_startsNothing i.provider (sys.isRegularFile s') targetBaseName
      unfold Traced.started at hstarted
      unfold Traced.handoffs at hsecond
      rw [(launch_of_unlocated hhost hsearch).2, List.filterMap_append, List.filterMap_append,
        hfirst, System.search, hsecond, hstarted]
      exact ⟨rfl, List.append_nil _⟩

/-- What a run starts is what its discovery starts. -/
theorem started_invoke (sys : System σ) (argv : List Bytes) (s : σ) :
    (invoke sys argv s).started = (sys.discovery s).started := by
  by_cases h : ∃ c, Locates sys s c
  · obtain ⟨c, hc⟩ := h
    obtain ⟨-, -, -, -, hstarted⟩ := hc.invoke argv
    exact hstarted
  · exact (invoke_of_not_locates (not_exists.mp h) argv).2

/-- The handoffs of a run: one if the executable is located, else none. -/
theorem mem_handoffs_invoke_iff {argv : List Bytes} {mode : Handoff} {command : Command} :
    (mode, command) ∈ (invoke sys argv s).handoffs ↔
      mode = .replace ∧ ∃ c, Locates sys s c ∧ command = ⟨c.path, argv.drop 1⟩ := by
  by_cases h : ∃ c, Locates sys s c
  · obtain ⟨c, hc⟩ := h
    obtain ⟨-, -, -, hhandoffs, -⟩ := hc.invoke argv
    rw [hhandoffs, List.mem_singleton, Prod.mk.injEq]
    constructor
    · rintro ⟨hmode, hcommand⟩
      exact ⟨hmode, c, hc, hcommand⟩
    · rintro ⟨hmode, c', hc', hcommand⟩
      rw [hc.unique hc'] at hcommand
      exact ⟨hmode, hcommand⟩
  · rw [(invoke_of_not_locates (not_exists.mp h) argv).1]
    constructor
    · intro hmem
      exact absurd hmem List.not_mem_nil
    · rintro ⟨-, c, hc, -⟩
      exact absurd ⟨c, hc⟩ h

theorem length_handoffs_invoke_le (sys : System σ) (argv : List Bytes) (s : σ) :
    (invoke sys argv s).handoffs.length ≤ 1 := by
  by_cases h : ∃ c, Locates sys s c
  · obtain ⟨c, hc⟩ := h
    obtain ⟨-, -, -, hhandoffs, -⟩ := hc.invoke argv
    rw [hhandoffs]
    exact Nat.le_refl 1
  · rw [(invoke_of_not_locates (not_exists.mp h) argv).1]
    exact Nat.zero_le 1

/-- **A run hands over at most once**, and then in its last step.

  1. What it starts is a first part of the list of interpreters, each with the query program and the
     name of the executable.
  2. It hands over exactly if the host is found and the executable on it; the argument vector is the
     path that was found and the launcher's arguments after argument zero.
  3. No step comes after the handoff, and the event that tells the path comes before it.
  4. If the executable takes over, the process ends as the executable does.
  5. In every other case the process exits with code 1, and its report begins with the context of
     the stage that failed and contains that stage's error with its further lines moved in. -/
theorem invoke_hands_over_once (sys : System σ) (argv : List Bytes) (s : σ) :
    (∃ asked, asked <+: Host.defaultInterpreters ∧
      List.Forall₂ (Host.Asks targetBaseName) asked (invoke sys argv s).started) ∧
    ((invoke sys argv s).handoffs.length ≤ 1 ∧
      ∀ mode command, (mode, command) ∈ (invoke sys argv s).handoffs ↔
        mode = .replace ∧ ∃ c, Locates sys s c ∧ command.argv = c.path :: argv.drop 1) ∧
    (∀ mode command, (mode, command) ∈ (invoke sys argv s).handoffs →
      ∃ before kind, (invoke sys argv s).steps = before ++ [.handedOver mode command] ∧
        .emitted (.resolved kind command.program) ∈ before) ∧
    (∀ finished, Takes sys argv s finished →
      (invoke sys argv s).value.1.finished = finished) ∧
    ((∀ finished, ¬ Takes sys argv s finished) →
      ∃ stage failure, Fails sys argv s stage failure ∧
        ReportedAs (invoke sys argv s).value.1.finished stage failure) := by
  obtain ⟨asked, hprefix, hasked, -⟩ := sys.discovery_starts s
  refine ⟨⟨asked, hprefix, (started_invoke sys argv s).symm ▸ hasked⟩,
    ⟨length_handoffs_invoke_le sys argv s, ?_⟩, ?_, fun finished => Takes.finished, ?_⟩
  · intro mode command
    simp only [mem_handoffs_invoke_iff, Command.eq_mk_iff]
  · intro mode command hmem
    obtain ⟨rfl, c, hc, rfl⟩ := mem_handoffs_invoke_iff.mp hmem
    obtain ⟨before, hsteps, hresolved, -⟩ := hc.invoke argv
    exact ⟨before, c.kind, hsteps, hresolved⟩
  · intro hnot
    rcases takes_or_fails sys argv s with ⟨finished, h⟩ | ⟨stage, failure, h⟩
    · exact absurd h (hnot finished)
    · refine ⟨stage, failure, h, ?_⟩
      rw [h.outcome]
      exact reportedAs_failed stage failure

end Runs

/-- A report of a host whose active scheme has the directory `/s`. -/
def plainReport : String :=
  "\x7b\"exe_suffix\": \"\", \"scripts\": \"L3M=\", \"os_name\": \"posix\", \"platform\": \"linux\"\x7d"

/-- What the report tells. -/
def plainHost : Host.Snapshot where
  exeSuffix := ""
  scripts := Path.ofString "/s"
  schemes := []
  preferredUserScheme := none
  platform := ⟨"posix", "linux", false⟩
  packageDir := none

/-- A system whose interpreters give this report.  The executable that it has in the directory
    writes its arguments out. -/
def obliging : System Unit where
  query _ s := (.ok ⟨.exited 0, Text.encode plainReport, []⟩, s)
  isRegularFile _ path := path == Path.ofString "/s/pymermaider"
  replace command s := (.ok ⟨.exited 0, command.args.flatten, []⟩, s)
  spawn _ s := (.error .notFound, s)
  launcherDir := none

/-- An argument vector, with an empty argument and one with a blank in it. -/
def calledWith : List Bytes := ["launcher", "a b", "", "c"].map Text.encode

/-- A run that finds the executable ends as the executable does, which gets the arguments after
    argument zero. -/
theorem arguments_written_out :
    Takes obliging calledWith () ⟨.exited 0, Text.encode "a bc", []⟩ ∧
    (invoke obliging calledWith ()).value.1.finished = ⟨.exited 0, Text.encode "a bc", []⟩ := by
  have hread : Host.readDocument (Text.display (Text.encode plainReport)) = .ok plainHost :=
    eq_ok_of_toOption (by decide +kernel)
  have hasked : (Host.querySnapshot obliging.query targetBaseName Host.defaultInterpreters
      Host.defaultInterpreters ()).value = (.ok plainHost, ()) := by
    have hanswer : Host.Answers "python3" (.ok ⟨.exited 0, Text.encode plainReport, []⟩) _ _ :=
      .succeeded rfl (Host.remarks_iff.mpr rfl)
    rw [hread] at hanswer
    exact (Host.querySnapshot_cons_answers _ _ (Host.asks_iff.mpr rfl) rfl hanswer).1
  have hhost : (obliging.discovery ()).value = (.ok ⟨plainHost, none⟩, ()) := by
    unfold System.discovery Host.discover
    rw [Traced.bind_value, hasked]
    rfl
  have htakes : Takes obliging calledWith () ⟨.exited 0, Text.encode "a bc", []⟩ :=
    .over (c := ⟨.standard, Path.ofString "/s/pymermaider"⟩) hhost (by rfl) (by rfl)
  exact ⟨htakes, (invoke_hands_over_once obliging _ ()).2.2.2.1 _ htakes⟩

/-- A system whose one interpreter fails and says so on two lines. -/
def grumbling : System Unit where
  query _ s := (.ok ⟨.exited 3, [], Text.encode "one\ntwo"⟩, s)
  isRegularFile _ _ := false
  replace _ s := (.error .notFound, s)
  spawn _ s := (.error .notFound, s)
  launcherDir := none

/-- Words of several lines are not in the report as they are: each further line is moved in. -/
theorem several_lines_moved_in :
    Fails grumbling [] () .readInstallation
      (.host (.queryFailed "python3" (some 3) "one\ntwo")) ∧
    ¬ Text.encode (Failure.host (.queryFailed "python3" (some 3) "one\ntwo")).message
        <:+: (invoke grumbling [] ()).value.1.finished.errors := by
  have hhost : (grumbling.discovery ()).value
      = (.error (.queryFailed "python3" (some 3) "one\ntwo"), ()) := by
    rfl
  refine ⟨.undiscovered hhost, ?_⟩
  decide +kernel

end Handover
