/-
  What a command is run by.

  A command names a program, and a search finds the file.  The search has a rule for files that are
  neither programs nor scripts: they are refused, or the shell reads them.

  1. **Lookups** — a path that names nothing is never taken for a file that is no program
     (`Files.Tree.status_error`, by induction on the pieces and the links).
  2. **Arguments** — a program gets the arguments of the command; a script is read by the program
     that its first line names, which gets the path of the script and the same arguments behind it
     (`readBy_of_load`, by induction on the scripts that read one another).
  3. **Places** — what is run was found at one of the paths that are searched (`exists_of_find`).  A
     program with a separator in its name is run as it stands (`find_of_slash`).
  4. **Rules** — the two rules come to the same, unless the search ends with a file that is neither
     a program nor a script (`find_alike`, by induction on the paths): then one rule refuses the
     file, and the other has the shell read it.
  5. **Worlds** — what is found depends on the files, the working directory and the environment, and
     not on the process that looks (`find_congr`).
-/
import Handover.Machine.Start

namespace Handover

/-! ## Lookups -/

namespace Files

/-- The errors of a path that names nothing that could be run or read. -/
def lookupErrors : List OsError :=
  [.notFound, .notADirectory, .nameTooLong, .tooManyLinks, .zeroByte]

namespace Tree

variable {t : Tree} {through : Bool} {here cwd : Location} {pieces : List Bytes} {path : Path}
  {links : Nat} {e : OsError}

theorem advance_error (h : t.advance through here pieces = .error e) : e ∈ lookupErrors := by
  induction pieces generalizing here with
  | nil => cases h
  | cons piece rest ih =>
    rw [advance] at h
    split at h
    case h_1 => cases h; decide
    case h_2 =>
      split at h
      · exact ih h
      · split at h
        · exact ih h
        · split at h
          · cases h; decide
          · split at h
            case h_1 => cases h; decide
            case h_2 => split at h <;> cases h
            case h_3 => exact ih h
    case h_3 => cases h; decide

theorem follow_error (h : t.follow through links here pieces = .error e) : e ∈ lookupErrors := by
  induction links generalizing here pieces with
  | zero =>
    rw [follow] at h
    split at h
    case h_1 e' hadvance => cases h; exact advance_error hadvance
    case h_2 => cases h
    case h_3 => cases h; decide
  | succ links ih =>
    rw [follow] at h
    split at h
    case h_1 e' hadvance => cases h; exact advance_error hadvance
    case h_2 => cases h
    case h_3 => exact ih h

theorem locate_error (h : t.locate cwd through path = .error e) : e ∈ lookupErrors := by
  unfold locate at h
  split at h
  · cases h; decide
  · split at h
    · cases h; decide
    · split at h
      · cases h; decide
      · exact follow_error h

theorem status_error (h : t.status cwd path = .error e) : e ∈ lookupErrors := by
  unfold status at h
  cases hlocate : t.locate cwd true path with
  | error e' =>
    rw [hlocate] at h
    cases h
    exact locate_error hlocate
  | ok at_ =>
    rw [hlocate] at h
    cases hnode : t.node? at_ with
    | some node =>
      simp only [bind, Except.bind, hnode] at h
      cases h
    | none =>
      simp only [bind, Except.bind, hnode] at h
      cases h
      decide

end Tree

end Files

namespace Machine

open Files (Tool)

/-! ## Arguments -/

/-- What runs a file that is called with an argument vector, and on which arguments.  A program runs
    on these.  A script is run by what runs its reader, called with the name of the reader, the
    argument that the first line has for it, the path of the script and the arguments. -/
inductive ReadBy (w : World) : Path → List Bytes → Tool → List Bytes → Prop where
  | program {path : Path} {argv : List Bytes} {tool : Tool} {at_ : Files.Location}
      (hfile : w.files.status w.cwd path = .ok (at_, .program tool)) : ReadBy w path argv tool argv
  | script {path reader : Path} {argument : Option Bytes} {argv argv' : List Bytes} {tool : Tool}
      {at_ : Files.Location} {mode : Nat} {content : Bytes}
      (hfile : w.files.status w.cwd path = .ok (at_, .file mode content))
      (hmode : isExecutableMode mode = true) (hline : readerOf content = some (reader, argument))
      (hreader : ReadBy w reader (reader :: argument.toList ++ path :: argv.drop 1) tool argv') :
      ReadBy w path argv tool argv'

theorem readBy_of_load {w : World} {depth : Nat} {path : Path} {argv argv' : List Bytes}
    {tool : Tool} (h : load w depth path argv = .ok (tool, argv')) :
    ReadBy w path argv tool argv' := by
  induction depth generalizing path argv with
  | zero => cases h
  | succ depth ih =>
    rw [load] at h
    split at h
    case h_1 => cases h
    case h_2 at_ tool' hfile =>
      cases h
      exact .program hfile
    case h_3 at_ mode content hfile =>
      split at h
      · cases h
      case isFalse hmode =>
        split at h
        case h_1 => cases h
        case h_2 reader argument hline =>
          rw [Bool.not_eq_true, Bool.not_eq_false'] at hmode
          exact .script hfile hmode hline (ih h)
    case h_4 => cases h

/-- The arguments of a command come last, in their order: behind the program, or behind the path of
    the script. -/
theorem ReadBy.arguments {w : World} {path : Path} {argv argv' : List Bytes} {tool : Tool}
    (h : ReadBy w path argv tool argv') : argv' = argv ∨ path :: argv.drop 1 <:+ argv' := by
  induction h with
  | program hfile => exact Or.inl rfl
  | @script path reader argument argv argv' _ _ _ _ hfile hmode hline hreader ih =>
    -- The arguments of the reader end with the path of the script and the arguments of the command.
    have hends : path :: argv.drop 1 <:+ argument.toList ++ path :: argv.drop 1 :=
      List.suffix_append _ _
    rcases ih with rfl | hsuffix
    · exact Or.inr (hends.trans (List.suffix_cons reader _))
    · exact Or.inr ((hends.trans (List.suffix_cons reader _)).trans hsuffix)

/-- The file is neither a program nor a script, or a script that is read by such a file. -/
def InNoFormat (w : World) (path : Path) (argv : List Bytes) : Prop :=
  load w deepestScript path argv = .error .notExecutableFormat

/-- What the shell is started with to read a file. -/
def shellOn (w : World) (path : Path) (argv : List Bytes) : Except OsError (Tool × List Bytes) :=
  load w deepestScript shellPath (shellPath :: path :: argv.drop 1)

section LoadAs

variable {w : World} {path : Path} {argv : List Bytes}

theorem loadAs_refused : loadAs w .refused path argv = load w deepestScript path argv := by
  unfold loadAs
  cases load w deepestScript path argv with
  | ok image => rfl
  | error e => exact if_neg nofun

theorem loadAs_readByShell (h : ¬ InNoFormat w path argv) :
    loadAs w .readByShell path argv = load w deepestScript path argv := by
  unfold loadAs
  cases hload : load w deepestScript path argv with
  | ok image => rfl
  | error e => exact if_neg fun he => h (hload.trans (congrArg Except.error he.1))

theorem loadAs_readByShell_of_inNoFormat (h : InNoFormat w path argv) :
    loadAs w .readByShell path argv = shellOn w path argv := by
  unfold loadAs
  rw [h]
  exact if_pos ⟨rfl, rfl⟩

end LoadAs

/-! ## Places -/

section Search

variable {α : Type} {load load' : Path → Except OsError α} {denied : Bool} {last : OsError}
  {paths : List Path}

theorem firstRunnable_of_ok {path : Path} {image : α} (h : load path = .ok image) :
    firstRunnable load denied last (path :: paths) = .ok image := by
  rw [firstRunnable, h]

theorem firstRunnable_of_error {path : Path} {e : OsError} (h : load path = .error e) :
    firstRunnable load denied last (path :: paths) =
      if e = .permissionDenied then firstRunnable load true e paths
      else if e = .notFound ∨ e = .notADirectory then firstRunnable load denied e paths
      else .error e := by
  rw [firstRunnable, h]

theorem exists_of_firstRunnable {image : α} (h : firstRunnable load denied last paths = .ok image) :
    ∃ path ∈ paths, load path = .ok image := by
  induction paths generalizing denied last with
  | nil => cases h
  | cons path rest ih =>
    -- Either this path is the one, or the search goes on with the others.
    have hrest : ∀ {denied' last'}, firstRunnable load denied' last' rest = .ok image →
        ∃ path' ∈ path :: rest, load path' = .ok image := fun h =>
      (ih h).imp fun _ hfound => ⟨List.mem_cons_of_mem _ hfound.1, hfound.2⟩
    cases hload : load path with
    | ok image' =>
      rw [firstRunnable_of_ok hload] at h
      exact ⟨path, List.mem_cons_self, hload.trans h⟩
    | error e =>
      rw [firstRunnable_of_error hload] at h
      split at h
      · exact hrest h
      · split at h
        · exact hrest h
        · cases h

/-- What two searches come to that differ on unrecognised files only.  They come to the same, or the
    first refuses such a file where the second goes on with it in its own way. -/
inductive EndAlike (load load' : Path → Except OsError α) (denied : Bool) (paths : List Path) :
    Except OsError α → Except OsError α → Prop where
  | same {r : Except OsError α} (hrecognised : r ≠ .error .notExecutableFormat) :
      EndAlike load load' denied paths r r
  | refused {path : Path} {denied' : Bool} {last : OsError} (before after : List Path)
      (hpaths : paths = before ++ path :: after) (hload : load path = .error .notExecutableFormat)
      (hfirst : before = [] → denied' = denied) :
      EndAlike load load' denied paths (.error .notExecutableFormat)
        (firstRunnable load' denied' last (path :: after))

/-- What is true of a search is true of one that passes over a path before. -/
theorem EndAlike.cons {denied' : Bool} {r r' : Except OsError α} (path : Path)
    (h : EndAlike load load' denied' paths r r') :
    EndAlike load load' denied (path :: paths) r r' := by
  cases h with
  | same hrecognised => exact .same hrecognised
  | refused before after hpaths hload hfirst =>
    exact .refused (path :: before) after (congrArg (path :: ·) hpaths) hload nofun

/-- Two searches that differ on unrecognised files only end alike. -/
theorem firstRunnable_alike
    (hsame : ∀ path, load path ≠ .error .notExecutableFormat → load' path = load path)
    (hlast : last ≠ .notExecutableFormat) :
    EndAlike load load' denied paths (firstRunnable load denied last paths)
      (firstRunnable load' denied last paths) := by
  induction paths generalizing denied last with
  | nil =>
    refine .same fun h => ?_
    cases denied with
    | true => cases h
    | false => exact hlast (Except.error.inj h)
  | cons path rest ih =>
    cases hload : load path with
    | ok image =>
      have hload' : load' path = .ok image := (hsame path (by rw [hload]; nofun)).trans hload
      rw [firstRunnable_of_ok hload, firstRunnable_of_ok hload']
      exact .same nofun
    | error e =>
      by_cases hrecognised : e = .notExecutableFormat
      · subst hrecognised
        have hrefused : firstRunnable load denied last (path :: rest)
            = .error .notExecutableFormat := firstRunnable_of_error hload
        rw [hrefused]
        exact .refused [] rest rfl hload fun _ => rfl
      · have hload' : load' path = .error e :=
          (hsame path fun h => hrecognised (Except.error.inj (hload.symm.trans h))).trans hload
        -- The search is passed on to the other paths.
        have hrest : ∀ denied', EndAlike load load' denied (path :: rest)
            (firstRunnable load denied' e rest) (firstRunnable load' denied' e rest) :=
          fun _ => (ih hrecognised).cons path
        rw [firstRunnable_of_error hload, firstRunnable_of_error hload']
        split
        · exact hrest true
        · split
          · exact hrest denied
          · exact .same fun h => hrecognised (Except.error.inj h)

end Search

/-- What a search for a program makes of a path. -/
def loader (w : World) (rule : Unrecognised) (argv : List Bytes) (path : Path) :
    Except OsError (Tool × List Bytes) :=
  if fits w argv then loadAs w rule path argv
  else
    match w.files.status w.cwd path with
    | .error e => .error e
    | .ok _ => .error .argumentsTooLong

theorem find_eq (w : World) (rule : Unrecognised) (c : Command) :
    find w rule c =
      if !c.argv.all isPassable then .error .zeroByte
      else if c.program = [] then .error .notFound
      else firstRunnable (loader w rule c.argv) false .notFound (searchPaths w c.program) :=
  rfl

section Find

variable {w : World} {rule : Unrecognised} {argv : List Bytes} {path : Path} {c : Command}
  {image : Tool × List Bytes}

theorem loadAs_of_loader (h : loader w rule argv path = .ok image) :
    loadAs w rule path argv = .ok image := by
  unfold loader at h
  split at h
  · exact h
  · split at h <;> cases h

theorem searchPaths_of_slash (h : Path.slash ∈ path) : searchPaths w path = [path] :=
  if_pos (List.contains_iff_mem.mpr h)

/-- A program with a separator in its name is looked for at one place. -/
theorem sole_of_slash {before after : List Path} {found : Path}
    (hpaths : searchPaths w path = before ++ found :: after) (h : Path.slash ∈ path) :
    before = [] ∧ after = [] := by
  rw [searchPaths_of_slash h, eq_comm] at hpaths
  have hlength := congrArg List.length hpaths
  simp only [List.length_append, List.length_cons, List.length_nil] at hlength
  exact ⟨List.eq_nil_of_length_eq_zero (by omega), List.eq_nil_of_length_eq_zero (by omega)⟩

/-- What is run was found at a path that is searched. -/
theorem exists_of_find (h : find w rule c = .ok image) :
    ∃ path ∈ searchPaths w c.program, loadAs w rule path c.argv = .ok image := by
  rw [find_eq] at h
  split at h
  · cases h
  · split at h
    · cases h
    · obtain ⟨path, hpath, hload⟩ := exists_of_firstRunnable h
      exact ⟨path, hpath, loadAs_of_loader hload⟩

/-- **A program with a separator in its name is run as it stands**, wherever `PATH` points. -/
theorem find_of_slash (hslash : Path.slash ∈ c.program) (h : find w rule c = .ok image) :
    loadAs w rule c.program c.argv = .ok image := by
  obtain ⟨path, hpath, hload⟩ := exists_of_find h
  rw [searchPaths_of_slash hslash, List.mem_singleton] at hpath
  exact hpath ▸ hload

end Find

/-! ## Rules -/

section Rules

variable {w : World} {argv : List Bytes} {path : Path}

theorem loader_readByShell (h : loader w .refused argv path ≠ .error .notExecutableFormat) :
    loader w .readByShell argv path = loader w .refused argv path := by
  unfold loader at h ⊢
  split
  case isTrue hfits =>
    rw [if_pos hfits, loadAs_refused] at h
    rw [loadAs_refused, loadAs_readByShell h]
  case isFalse => rfl

/-- A file that the loader does not recognise is read by the shell under the other rule. -/
theorem loader_of_unrecognised (h : loader w .refused argv path = .error .notExecutableFormat) :
    InNoFormat w path argv ∧ loader w .readByShell argv path = shellOn w path argv := by
  unfold loader at h ⊢
  split at h
  case isTrue hfits =>
    rw [loadAs_refused] at h
    exact ⟨h, (if_pos hfits).trans (loadAs_readByShell_of_inNoFormat h)⟩
  case isFalse =>
    split at h
    case h_1 e hstatus =>
      have hlookup : e ∈ Files.lookupErrors := Files.Tree.status_error hstatus
      rw [Except.error.inj h] at hlookup
      exact absurd hlookup (by decide)
    case h_2 => cases h

/-- **The two rules differ in unrecognised files only.** -/
theorem find_alike (w : World) (c : Command) :
    EndAlike (loader w .refused c.argv) (loader w .readByShell c.argv) false
      (searchPaths w c.program) (find w .refused c) (find w .readByShell c) := by
  rw [find_eq, find_eq]
  split
  · exact .same nofun
  · split
    · exact .same nofun
    · exact firstRunnable_alike (fun _ => loader_readByShell) (by decide)

/-- What is found under the stricter rule is found under the other one too. -/
theorem find_readByShell {c : Command} {image : Tool × List Bytes}
    (h : find w .refused c = .ok image) : find w .readByShell c = .ok image := by
  have halike := find_alike w c
  rw [h] at halike
  generalize find w .readByShell c = found at halike ⊢
  cases halike
  rfl

end Rules

/-! ## Worlds -/

section Worlds

variable {w w' : World}

theorem load_congr (hfiles : w.files = w'.files) (hcwd : w.cwd = w'.cwd) (depth : Nat) (path : Path)
    (argv : List Bytes) : load w depth path argv = load w' depth path argv := by
  induction depth generalizing path argv with
  | zero => rfl
  | succ depth ih => simp only [load, hfiles, hcwd, ih]

/-- **What is found does not depend on the process that looks.** -/
theorem find_congr (hfiles : w.files = w'.files) (hcwd : w.cwd = w'.cwd)
    (henvironment : w.environment = w'.environment) (rule : Unrecognised) (c : Command) :
    find w rule c = find w' rule c := by
  have hload : load w = load w' := by
    funext depth path argv
    exact load_congr hfiles hcwd depth path argv
  unfold find searchPaths loadAs fits World.valueOf?
  rw [hload, hfiles, hcwd, henvironment]

end Worlds

end Machine

end Handover
