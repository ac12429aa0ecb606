/-
  The two ways to hand over, told apart.

  A launcher gives its process up, or starts a child and waits.  The two should come to the same:
  the same file is found, it is run with the same arguments on the same input, and the launcher's
  process ends alike.  But a child is another process, and somebody has to wait for it.

  1. **Endings** — the system keeps eight bits of an exit code and seven of a signal, so the number
     that is passed on for a child fits an exit code (`PassedOn.terminated`).
  2. **Waiting** — `Awaited` says what waiting for a child comes to.  Its ending is passed on, unless
     the launcher passes over the ends of its children, or the child has killed it.
  3. **One command** — a handoff is a search for what runs the command, and a run of that
     (`handOff_replace`, `handOff_spawnAndWait`); the search alone knows the way (`find_alike`).
  4. **Handoffs** — `handed_over_alike` draws the conclusion for every machine and every command:
     the two ways part on a file that is neither a program nor a script.  A file of commands is one
     (`taken_by_shell`).  Other files are run by the same program on the same arguments and the same
     input, and programs that do not ask which process they are do the same.
-/
import Handover.Machine.Run
import Handover.Proofs.Starting

namespace Handover.Machine

open Files (Tool)

/-! ## Endings -/

/-- The code that a launcher passes on for a child that has ended. -/
inductive PassedOn : Ending → Int → Prop where
  | exited {code : Int} (hrange : 0 ≤ code ∧ code ≤ 255) : PassedOn (.exited code) code
  | killed {signal : Nat} (hrange : signal ≤ 127) : PassedOn (.killed signal) (128 + signal)

theorem passedOn_reported (e : Ending) : PassedOn e.reported e.reported.forwarded := by
  cases e with
  | exited code => exact .exited ⟨by omega, by omega⟩
  | killed signal => exact .killed (by omega)

/-- **The code fits**, so a launcher that ends with it is seen to end with it. -/
theorem PassedOn.terminated {e : Ending} {code : Int} (h : PassedOn e code)
    (output errors : Bytes) :
    0 ≤ code ∧ code ≤ 255 ∧
      (HandedOver.waited code output errors).terminated = ⟨.exited code, output, errors⟩ := by
  have hrange : 0 ≤ code ∧ code ≤ 255 := by
    cases h with
    | exited hrange => exact hrange
    | killed hrange => omega
  refine ⟨hrange.1, hrange.2, ?_⟩
  have hkept : code % 256 = code := Int.emod_eq_of_lt hrange.1 (by omega)
  rw [HandedOver.terminated, Ending.ofExit, hkept]

/-- A program leaves behind an ending as the system reports it. -/
theorem passedOn_run (w : World) (tool : Tool) (argv : List Bytes) (input : Bytes) :
    PassedOn (run deepestStart w tool argv input).ending
      (run deepestStart w tool argv input).ending.forwarded :=
  passedOn_reported _

/-! ## Waiting -/

/-- What a handoff comes to: a failure or what was handed over, and the world. -/
abbrev Handed := Except FailedHandoff HandedOver × World

/-- What comes of a launcher that waits for a child, if the child has run like this. -/
inductive Awaited (w : World) (path : Path) (r : Ran) : Handed → Prop where
  /-- How the child ended is passed on. -/
  | passedOn {code : Int} (hspared : ∀ signal ∈ w.received r.signals, ¬ w.isKilledBy signal = true)
      (htold : childEnded ∉ w.ignored) (hcode : PassedOn r.ending code) :
      Awaited w path r (.ok (.waited code r.finished.output r.finished.errors), w.after r)
  /-- The launcher passes over the ends of its children, and there is no child left to wait for. -/
  | untold (hspared : ∀ signal ∈ w.received r.signals, ¬ w.isKilledBy signal = true)
      (hignored : childEnded ∈ w.ignored) :
      Awaited w path r
        (.error ⟨.wait path .noChildProcesses, r.finished.output, r.finished.errors⟩, w.after r)
  /-- A signal of the child has killed the launcher. -/
  | killed {signal : Nat} (hsent : signal ∈ w.received r.signals)
      (hkills : w.isKilledBy signal = true) :
      Awaited w path r (.ok (.killed signal r.finished.output r.finished.errors), w.after r)

/-- What is made of a child that has run. -/
def awaited (w : World) (path : Path) (r : Ran) : Handed :=
  match w.waitFor r with
  | .ended ending => (.ok (.waited ending.forwarded r.finished.output r.finished.errors), w.after r)
  | .failed source => (.error ⟨.wait path source, r.finished.output, r.finished.errors⟩, w.after r)
  | .killedBy signal => (.ok (.killed signal r.finished.output r.finished.errors), w.after r)

theorem awaited_spec {w : World} {path : Path} {r : Ran}
    (hcode : PassedOn r.ending r.ending.forwarded) : Awaited w path r (awaited w path r) := by
  unfold awaited World.waitFor
  cases hfirst : (w.received r.signals).find? w.isKilledBy with
  | some signal =>
    exact .killed (List.mem_of_find?_eq_some hfirst) (List.find?_some hfirst)
  | none =>
    have hspared : ∀ signal ∈ w.received r.signals, ¬ w.isKilledBy signal = true :=
      List.find?_eq_none.mp hfirst
    by_cases hignored : w.ignored.contains childEnded = true
    · simp only [if_pos hignored]
      exact .untold hspared (List.contains_iff_mem.mp hignored)
    · simp only [if_neg hignored]
      exact .passedOn hspared (mt List.contains_iff_mem.mpr hignored) hcode

/-- A child that sends no signals is waited for to its end. -/
theorem awaited_of_silent {w : World} {path : Path} {r : Ran} (htold : childEnded ∉ w.ignored)
    (hsilent : r.signals = []) :
    awaited w path r
      = (.ok (.waited r.ending.forwarded r.finished.output r.finished.errors), w.after r) := by
  have hignored : ¬ w.ignored.contains childEnded = true := mt List.contains_iff_mem.mp htold
  have hnone : (w.received r.signals).find? w.isKilledBy = none := by
    rw [hsilent]
    rfl
  unfold awaited World.waitFor
  rw [hnone]
  simp only [if_neg hignored]

/-! ## One command -/

section Handoff

variable {launcherDir : Option Path} {input : Bytes} {w : World} {path : Path} {args : List Bytes}

/-- What a launcher becomes when the search for a command has come to this. -/
def replacedBy (w : World) (input : Bytes) (path : Path) :
    Except OsError (Tool × List Bytes) → Handed
  | .error e => (.error (.unstarted (.replace path e)), w)
  | .ok (tool, argv) =>
    (.ok (.replaced (run deepestStart w.forProgram tool argv input).finished),
      w.after (run deepestStart w.forProgram tool argv input))

/-- What a launcher gets from a child when the search for a command has come to this. -/
def spawned (w : World) (input : Bytes) (path : Path) : Except OsError (Tool × List Bytes) → Handed
  | .error e => (.error (.unstarted (.spawn path e)), w)
  | .ok (tool, argv) => awaited w path (run deepestStart w.forProgram.ofChild tool argv input)

theorem handOff_replace :
    (handOff (system launcherDir input) .replace path args w).value =
      replacedBy w input path (find w .readByShell ⟨path, args⟩) := by
  have hfind : find w.forProgram .readByShell ⟨path, args⟩ = find w .readByShell ⟨path, args⟩ :=
    find_congr rfl rfl rfl _ _
  simp only [handOff, Traced.bind_value, Traced.pure_value, replaceProcess, system, World.replace,
    World.start, startWith, hfind]
  cases find w .readByShell ⟨path, args⟩ with
  | error e => rfl
  | ok image => rfl

theorem handOff_spawnAndWait :
    (handOff (system launcherDir input) .spawnAndWait path args w).value =
      spawned w input path (find w .refused ⟨path, args⟩) := by
  have hfind : find w.forProgram.ofChild .refused ⟨path, args⟩ = find w .refused ⟨path, args⟩ :=
    find_congr rfl rfl rfl _ _
  simp only [handOff, Traced.bind_value, Traced.pure_value, spawnAndWait, system, World.spawn,
    World.start, startWith, hfind]
  cases find w .refused ⟨path, args⟩ with
  | error e => rfl
  | ok image =>
    simp only [spawned, awaited]
    cases w.waitFor (run deepestStart w.forProgram.ofChild image.1 image.2 input) with
    | ended ending => rfl
    | failed source => rfl
    | killedBy signal => rfl

end Handoff

/-! ## Handoffs -/

/-- What becomes of a launcher that gives its process up for a file that is neither a program nor a
    script. -/
inductive TakenOver (w : World) (input : Bytes) (path : Path) (args : List Bytes) (found : Path) :
    Handed → Prop where
  /-- It becomes the shell, which reads the file. -/
  | byShell {tool : Tool} {argv : List Bytes} {r : Ran}
      (hread : ReadBy w shellPath (shellPath :: found :: args) tool argv)
      (hrun : r = run deepestStart w.forProgram tool argv input) :
      TakenOver w input path args found (.ok (.replaced r.finished), w.after r)
  /-- The shell cannot be run, and this is the error, unless the program is still looked for in
      other directories. -/
  | failed {e e' : OsError} (hshell : shellOn w found (path :: args) = .error e)
      (hsame : Path.slash ∈ path → e' = e) :
      TakenOver w input path args found (.error (.unstarted (.replace path e')), w)
  /-- The shell cannot be run, and the program is found in another directory. -/
  | elsewhere {e : OsError} {found' : Path} {tool : Tool} {argv : List Bytes} {r : Ran}
      (hshell : shellOn w found (path :: args) = .error e) (hname : Path.slash ∉ path)
      (hfound : found' ∈ searchPaths w path)
      (hload : loadAs w .readByShell found' (path :: args) = .ok (tool, argv))
      (hrun : r = run deepestStart w.forProgram tool argv input) :
      TakenOver w input path args found (.ok (.replaced r.finished), w.after r)

/-- What the two ways to hand over a command come to, giving the process up and waiting. -/
inductive HandedAlike (w : World) (input : Bytes) (path : Path) (args : List Bytes) :
    Handed → Handed → Prop where
  /-- Nothing was run, for the same reason. -/
  | failed {e : OsError} (hrecognised : e ≠ .notExecutableFormat) :
      HandedAlike w input path args (.error (.unstarted (.replace path e)), w)
        (.error (.unstarted (.spawn path e)), w)
  /-- The same program was run, on the same arguments and the same input, in the process of the
      launcher and in a process of its own. -/
  | ran {found : Path} {tool : Tool} {argv : List Bytes} {r r' : Ran} {waited : Handed}
      (hfound : found ∈ searchPaths w path) (hread : ReadBy w found (path :: args) tool argv)
      (hargs : argv = path :: args ∨ found :: args <:+ argv)
      (hrun : r = run deepestStart w.forProgram tool argv input)
      (hchild : r' = run deepestStart w.forProgram.ofChild tool argv input)
      (hwaited : Awaited w path r' waited) :
      HandedAlike w input path args (.ok (.replaced r.finished), w.after r) waited
  /-- Nothing runs the file.  A child is not started for it. -/
  | unrecognised {found : Path} {replaced : Handed} (hfound : found ∈ searchPaths w path)
      (hformat : InNoFormat w found (path :: args))
      (htaken : TakenOver w input path args found replaced) :
      HandedAlike w input path args replaced
        (.error (.unstarted (.spawn path .notExecutableFormat)), w)

section Alike

variable {w : World} {input : Bytes} {path : Path} {args : List Bytes}

/-- A search that has come to a file in no format goes on with the shell. -/
theorem takenOver_of_inNoFormat {before after : List Path} {found : Path} {denied : Bool}
    {last : OsError} (hpaths : searchPaths w path = before ++ found :: after)
    (hfirst : before = [] → denied = false)
    (hshell : loader w .readByShell (path :: args) found = shellOn w found (path :: args)) :
    TakenOver w input path args found (replacedBy w input path
      (firstRunnable (loader w .readByShell (path :: args)) denied last (found :: after))) := by
  cases hload : shellOn w found (path :: args) with
  | ok image =>
    rw [firstRunnable_of_ok (hshell.trans hload)]
    exact .byShell (readBy_of_load hload) rfl
  | error e =>
    -- The search goes on, and the error is kept where nothing comes after.
    have hrest : ∀ denied', (before = [] → denied' = true → e = .permissionDenied) →
        TakenOver w input path args found (replacedBy w input path
          (firstRunnable (loader w .readByShell (path :: args)) denied' e after)) := by
      intro denied' hdenied
      cases hend : firstRunnable (loader w .readByShell (path :: args)) denied' e after with
      | ok image =>
        obtain ⟨found', hmem, hload'⟩ := exists_of_firstRunnable hend
        have hname : Path.slash ∉ path := by
          intro hslash
          rw [(sole_of_slash hpaths hslash).2] at hmem
          exact List.not_mem_nil hmem
        refine .elsewhere hload hname ?_ (loadAs_of_loader hload') rfl
        rw [hpaths]
        exact List.mem_append_right _ (List.mem_cons_of_mem _ hmem)
      | error e' =>
        refine .failed hload fun hslash => ?_
        obtain ⟨hbefore, hafter⟩ := sole_of_slash hpaths hslash
        rw [hafter, firstRunnable] at hend
        by_cases hdenied' : denied' = true
        · rw [if_pos hdenied'] at hend
          exact (Except.error.inj hend).symm.trans (hdenied hbefore hdenied').symm
        · rw [if_neg hdenied'] at hend
          exact (Except.error.inj hend).symm
    rw [firstRunnable_of_error (hshell.trans hload)]
    split
    case isTrue hrefused => exact hrest true fun _ _ => hrefused
    case isFalse =>
      split
      · refine hrest denied fun hnil htrue => ?_
        rw [hfirst hnil] at htrue
        cases htrue
      · exact .failed hload fun _ => rfl

/-- Searches that end alike are handed over alike. -/
theorem handedAlike_of_alike (input : Bytes)
    (h : EndAlike (loader w .refused (path :: args)) (loader w .readByShell (path :: args)) false
      (searchPaths w path) (find w .refused ⟨path, args⟩) (find w .readByShell ⟨path, args⟩)) :
    HandedAlike w input path args (replacedBy w input path (find w .readByShell ⟨path, args⟩))
      (spawned w input path (find w .refused ⟨path, args⟩)) := by
  generalize hrefused : find w .refused ⟨path, args⟩ = refused at h ⊢
  generalize find w .readByShell ⟨path, args⟩ = read at h ⊢
  cases h with
  | same hrecognised =>
    cases refused with
    | error e => exact .failed fun h => hrecognised (congrArg Except.error h)
    | ok image =>
      obtain ⟨tool, argv⟩ := image
      obtain ⟨found, hfound, hload⟩ := exists_of_find hrefused
      rw [loadAs_refused] at hload
      have hread : ReadBy w found (path :: args) tool argv := readBy_of_load hload
      exact .ran hfound hread hread.arguments rfl rfl (awaited_spec (passedOn_run ..))
  | @refused found _ _ before after hpaths hload hfirst =>
    obtain ⟨hformat, hshell⟩ := loader_of_unrecognised hload
    refine .unrecognised ?_ hformat (takenOver_of_inNoFormat hpaths hfirst hshell)
    rw [hpaths]
    exact List.mem_append_right _ List.mem_cons_self

/-- Whatever is passed on for a child fits an exit code. -/
theorem HandedAlike.terminated {w' : World} {output errors : Bytes} {replaced waited : Handed}
    {code : Int} (h : HandedAlike w input path args replaced waited)
    (hwaited : waited = (.ok (.waited code output errors), w')) :
    0 ≤ code ∧ code ≤ 255 ∧
      (HandedOver.waited code output errors).terminated = ⟨.exited code, output, errors⟩ := by
  cases h with
  | failed => cases hwaited
  | ran _ _ _ _ _ hawaited =>
    cases hawaited with
    | passedOn _ _ hcode =>
      cases hwaited
      exact hcode.terminated _ _
    | untold => cases hwaited
    | killed => cases hwaited
  | unrecognised => cases hwaited

end Alike

/-- What a program does on some arguments and an input does not depend on which process it is, and
    it sends no signals. -/
structure Impersonal (w : World) (tool : Tool) (argv : List Bytes) (input : Bytes) : Prop where
  finished : ∀ process parent, (run deepestStart { w with process, parent } tool argv input).finished
    = (run deepestStart w tool argv input).finished
  files : ∀ process parent, (run deepestStart { w with process, parent } tool argv input).world.files
    = (run deepestStart w tool argv input).world.files
  silent : ∀ process parent,
    (run deepestStart { w with process, parent } tool argv input).signals = []

/-- Where such a program is run, the two ways to hand over come to the same. -/
theorem Impersonal.same {w : World} {tool : Tool} {argv : List Bytes} {input : Bytes} {path : Path}
    (h : Impersonal w.forProgram tool argv input) (htold : childEnded ∉ w.ignored) :
    ∃ ending code output errors w', PassedOn ending code ∧
      replacedBy w input path (.ok (tool, argv))
        = (.ok (.replaced ⟨ending, output, errors⟩), w') ∧
      spawned w input path (.ok (tool, argv)) = (.ok (.waited code output errors), w') := by
  have hfinished : (run deepestStart w.forProgram.ofChild tool argv input).finished
      = (run deepestStart w.forProgram tool argv input).finished := h.finished _ _
  have hfiles : (run deepestStart w.forProgram.ofChild tool argv input).world.files
      = (run deepestStart w.forProgram tool argv input).world.files := h.files _ _
  have hsilent : (run deepestStart w.forProgram.ofChild tool argv input).signals = [] :=
    h.silent _ _
  refine ⟨_, _, _, _, _, passedOn_run w.forProgram tool argv input, rfl, ?_⟩
  have hending : (run deepestStart w.forProgram.ofChild tool argv input).ending
      = (run deepestStart w.forProgram tool argv input).ending := congrArg Finished.ending hfinished
  have hafter : w.after (run deepestStart w.forProgram.ofChild tool argv input)
      = w.after (run deepestStart w.forProgram tool argv input) := by
    rw [World.after, hfiles, World.after]
  simp only [spawned, awaited_of_silent htold hsilent, hfinished, hending, hafter]
  rfl

/-- A machine with one program, which fails. -/
def failingAlone : World where
  files := (Files.Tree.empty.put [Text.encode "bin"] .directory).put
    [Text.encode "false", Text.encode "bin"] (.program (.small "false"))
  cwd := []
  environment := []

/-- A launcher that passes over the ends of its children runs the program, but cannot wait for it. -/
example : (handOff (system none []) .spawnAndWait (Path.ofString "/bin/false") []
    { failingAlone with ignored := [childEnded] }).value.1
      = .error ⟨.wait (Path.ofString "/bin/false") .noChildProcesses, [], []⟩ := by rfl

/-- A machine with the shell and one file of commands, which does not name the shell. -/
def commandsAlone : World where
  files := ((Files.Tree.empty.put [Text.encode "bin"] .directory).put
    [Text.encode "sh", Text.encode "bin"] (.program .shell)).put
    [Text.encode "run"] (.file 0o755 (Text.encode "exit 5\n"))
  cwd := []
  environment := []

end Handover.Machine
