/-
  Where the working directory has no say.

  A relative path means one thing in one working directory and another in the next.  The search
  works paths out from the directories of the host, so it can only come to an absolute path if these
  are:

  1. **Absolute paths** — what is joined to an absolute path is absolute, whatever it is itself
     (`Path.isAbsolute_join`), and so is the parent of an absolute path, of whatever spelling
     (`Path.isAbsolute_of_parent?`).
  2. **Places** — so on a host whose directories are absolute every place is absolute, and the place
     that an error names is one of them (`Anchored.isAbsolute_of_mem`).
  3. **Two runs** — an absolute path is followed from the root of a tree of files and from nowhere
     else (`isRegularFile_of_isAbsolute`).  `working_directory_has_no_say` draws the conclusion for
     an installation.
-/
import Handover.Files.Lookup
import Handover.Proofs.MoreFiles
import Handover.Proofs.Parents

namespace Handover

/-! ## Absolute paths -/

namespace Path

variable {p q : Path}

theorem isAbsolute_iff : isAbsolute p = true ↔ ∃ rest, p = slash :: rest := by
  unfold isAbsolute
  rw [beq_iff_eq, List.head?_eq_some_iff]

theorem isAbsolute_append (h : isAbsolute p = true) (more : Bytes) :
    isAbsolute (p ++ more) = true := by
  obtain ⟨rest, rfl⟩ := isAbsolute_iff.mp h
  exact isAbsolute_iff.mpr ⟨rest ++ more, rfl⟩

/-- **What is joined to an absolute path is absolute.** -/
theorem isAbsolute_join (h : isAbsolute p = true) (tail : Path) :
    isAbsolute (join p tail) = true := by
  unfold join
  split
  case isTrue htail => exact htail
  case isFalse =>
    split
    · exact isAbsolute_append h tail
    · exact isAbsolute_append h (slash :: tail)

/-- **The parent of an absolute path is absolute**, however the path is spelled. -/
theorem isAbsolute_of_parent? (h : isAbsolute p = true) (hparent : parent? p = some q) :
    isAbsolute q = true := by
  obtain ⟨rest, rfl⟩ := isAbsolute_iff.mp h
  have hstart : unanchor (slash :: rest) = (.root, rest) := by rw [unanchor, if_pos rfl]
  by_cases hsilent : dropSilent (pieces (unanchor (slash :: rest)).2) = []
  · rw [parent?_of_silent hsilent, hstart] at hparent
    cases hparent
  · obtain ⟨front, last, c, hfront, -⟩ := exists_last_loud hsilent
    rw [parent?_of_loud hfront, hstart] at hparent
    cases hparent
    exact isAbsolute_iff.mpr ⟨_, rfl⟩

end Path

theorem isAbsolute_adjacentBinPath {root : Path} (h : Path.isAbsolute root = true)
    (filename : String) : Path.isAbsolute (adjacentBinPath root filename) = true := by
  have habove : Path.isAbsolute ((Path.parent? root).getD root) = true := by
    cases hparent : Path.parent? root with
    | none => exact h
    | some above => exact Path.isAbsolute_of_parent? h hparent
  exact Path.isAbsolute_join (Path.isAbsolute_join habove _) _

/-! ## Places -/

/-- The directories that the search may ask a host for are absolute. -/
structure Anchored (p : Host.Provider) : Prop where
  active : ∀ dir, p.scriptsDir .active = .ok dir → Path.isAbsolute dir = true
  user : ∀ dir, p.scriptsDir p.userScheme = .ok dir → Path.isAbsolute dir = true
  package : ∀ root, p.packageRoot = some root → Path.isAbsolute root = true

namespace Anchored

variable {p : Host.Provider} {baseName : String} {c : Candidate}

theorem standardPlace (h : Anchored p) (hplace : standardPlace p baseName = .ok c) :
    Path.isAbsolute c.path = true := by
  cases hdir : p.scriptsDir .active with
  | error e => rw [standardPlace_of_error hdir] at hplace; cases hplace
  | ok dir =>
    rw [standardPlace_of_ok hdir] at hplace
    cases hplace
    exact Path.isAbsolute_join (h.active dir hdir) _

theorem userPlace (h : Anchored p) (hplace : userPlace p baseName = .ok c) :
    Path.isAbsolute c.path = true := by
  cases hdir : p.scriptsDir p.userScheme with
  | error e => rw [userPlace_of_error hdir] at hplace; cases hplace
  | ok dir =>
    rw [userPlace_of_ok hdir] at hplace
    cases hplace
    exact Path.isAbsolute_join (h.user dir hdir) _

theorem adjacentPlace (h : Anchored p) (hplace : adjacentPlace p baseName = some c) :
    Path.isAbsolute c.path = true := by
  obtain ⟨root, hroot, rfl⟩ := Option.map_eq_some_iff.mp hplace
  exact isAbsolute_adjacentBinPath (h.package root hroot) _

/-- **Every place that the search can come to is absolute.** -/
theorem isAbsolute_of_mem (h : Anchored p) (hc : c ∈ reachable p baseName) :
    Path.isAbsolute c.path = true := by
  unfold reachable at hc
  cases hs : Handover.standardPlace p baseName with
  | error e => rw [hs] at hc; cases hc
  | ok standard =>
    rw [hs] at hc
    cases hu : Handover.userPlace p baseName with
    | error e =>
      rw [hu] at hc
      rw [List.mem_singleton.mp hc]
      exact h.standardPlace hs
    | ok user =>
      rw [hu, List.mem_cons, List.mem_cons, Option.mem_toList] at hc
      rcases hc with rfl | rfl | ha
      · exact h.standardPlace hs
      · exact h.userPlace hu
      · exact h.adjacentPlace ha

end Anchored

/-- The place that an error names is one that the search has come to. -/
theorem exists_of_missed_notFound {p : Host.Provider} {baseName : String} {primary : Path}
    (h : missed p baseName = .notFound primary) :
    ∃ c ∈ reachable p baseName, c.path = primary := by
  unfold missed at h
  cases hs : standardPlace p baseName with
  | error e =>
    obtain ⟨hostError, rfl⟩ := standardPlace_error_is_host hs
    rw [hs] at h
    cases h
  | ok standard =>
    cases hu : userPlace p baseName with
    | error e =>
      obtain ⟨hostError, rfl⟩ := userPlace_error_is_host hu
      rw [hs, hu] at h
      cases h
    | ok user =>
      rw [hs, hu] at h
      cases h
      exact ⟨standard, mem_reachable_standard hs, rfl⟩

/-! ## Two runs -/

/-- An absolute path names the same file from everywhere. -/
theorem Files.Tree.isRegularFile_of_isAbsolute (t : Tree) (cwd cwd' : Location) {path : Path}
    (h : Path.isAbsolute path = true) : t.isRegularFile cwd path = t.isRegularFile cwd' path := by
  unfold Tree.isRegularFile Tree.status Tree.locate
  rw [h]
  rfl

/-- The facts of an installation, read off its snapshot. -/
theorem Host.Installation.anchored {i : Installation}
    (hscripts : Path.isAbsolute i.snapshot.scripts = true)
    (huser : ∀ name dir, i.provider.userScheme.name? = some name →
      i.snapshot.schemes.find? name = some dir → Path.isAbsolute dir = true)
    (hpackage : ∀ root, i.snapshot.packageDir.or i.launcherDir = some root →
      Path.isAbsolute root = true) : Anchored i.provider where
  active dir hdir := by
    cases hdir
    exact hscripts
  user dir hdir := by
    rw [provider_scriptsDir] at hdir
    unfold Snapshot.scriptsDir at hdir
    cases hname : i.provider.userScheme.name? with
    | none =>
      simp only [hname] at hdir
      cases hdir
      exact hscripts
    | some name =>
      cases hfind : i.snapshot.schemes.find? name with
      | none =>
        simp only [hname, hfind] at hdir
        cases hdir
      | some found =>
        simp only [hname, hfind] at hdir
        cases hdir
        exact huser name _ hname hfind
  package := hpackage

/-- **With absolute directories the working directory has no say.**  If the scripts directory of the
    active scheme, that of the user scheme as far as it is listed, and the package directory or else
    the launcher's are absolute, then

  1. every place in the list is absolute;
  2. so is every path that a search finds, or names when it finds nothing;
  3. two searches that see the same files under absolute paths are the same in every step, and so
     are two searches of one tree of files from two working directories. -/
theorem working_directory_has_no_say {i : Host.Installation}
    (hscripts : Path.isAbsolute i.snapshot.scripts = true)
    (huser : ∀ name dir, i.provider.userScheme.name? = some name →
      i.snapshot.schemes.find? name = some dir → Path.isAbsolute dir = true)
    (hpackage : ∀ root, i.snapshot.packageDir.or i.launcherDir = some root →
      Path.isAbsolute root = true)
    (baseName : String) :
    (∀ cs, (candidates i.provider baseName).value = .ok cs →
      ∀ c ∈ cs, Path.isAbsolute c.path = true) ∧
    (∀ isFile,
      (∀ c, (resolve i.provider isFile baseName).value = .ok c → Path.isAbsolute c.path = true) ∧
      (∀ primary, (resolve i.provider isFile baseName).value = .error (.notFound primary) →
        Path.isAbsolute primary = true)) ∧
    (∀ isFile isFile' : Path → Bool,
      (∀ path, Path.isAbsolute path = true → isFile path = isFile' path) →
        resolve i.provider isFile baseName = resolve i.provider isFile' baseName) ∧
    (∀ (t : Files.Tree) (cwd cwd' : Files.Location),
      resolve i.provider (t.isRegularFile cwd) baseName
        = resolve i.provider (t.isRegularFile cwd') baseName) := by
  have hanchored := Host.Installation.anchored hscripts huser hpackage
  have hsame : ∀ isFile isFile' : Path → Bool,
      (∀ path, Path.isAbsolute path = true → isFile path = isFile' path) →
        resolve i.provider isFile baseName = resolve i.provider isFile' baseName :=
    fun isFile isFile' hfiles =>
      resolve_congr fun c hc => hfiles c.path (hanchored.isAbsolute_of_mem hc)
  refine ⟨fun cs hcs c hc => ?_, fun isFile => ⟨fun c hc => ?_, fun primary hmissed => ?_⟩, hsame,
    fun t cwd cwd' => hsame _ _ fun path => t.isRegularFile_of_isAbsolute cwd cwd'⟩
  · rw [← reachable_of_candidates_ok hcs] at hc
    exact hanchored.isAbsolute_of_mem hc
  · exact hanchored.isAbsolute_of_mem (mem_reachable_of_resolve hc)
  · obtain ⟨c, hc, rfl⟩ := exists_of_missed_notFound (missed_of_error hmissed)
    exact hanchored.isAbsolute_of_mem hc

/-- A host that has not found the package, with a launcher in the root directory. -/
def rootedHost : Host.Installation where
  snapshot :=
    { exeSuffix := ""
      scripts := Path.ofString "//s/."
      schemes := [("posix_user", Path.ofString "/u/..")]
      preferredUserScheme := none
      platform := ⟨"posix", "linux", false⟩
      packageDir := none }
  launcherDir := some (Path.ofString "/")

/-- Its places are absolute, that beside the root too, and every directory is as good as another to
    look for them from. -/
theorem rootedHost_places :
    (candidates rootedHost.provider "tool").value
      = .ok [⟨.standard, Path.ofString "//s/./tool"⟩, ⟨.user, Path.ofString "/u/../tool"⟩,
          ⟨.adjacentBin, Path.ofString "/bin/tool"⟩] ∧
    Path.isAbsolute (Path.ofString "/bin/tool") = true ∧
    ∀ (t : Files.Tree) (cwd cwd' : Files.Location),
      resolve rootedHost.provider (t.isRegularFile cwd) "tool"
        = resolve rootedHost.provider (t.isRegularFile cwd') "tool" := by
  have hplaces : (candidates rootedHost.provider "tool").value
      = .ok [⟨.standard, Path.ofString "//s/./tool"⟩, ⟨.user, Path.ofString "/u/../tool"⟩,
          ⟨.adjacentBin, Path.ofString "/bin/tool"⟩] := rfl
  have huser : ∀ name dir, rootedHost.provider.userScheme.name? = some name →
      rootedHost.snapshot.schemes.find? name = some dir → Path.isAbsolute dir = true := by
    rintro name dir ⟨⟩ ⟨⟩
    rfl
  have hpackage : ∀ root, rootedHost.snapshot.packageDir.or rootedHost.launcherDir = some root →
      Path.isAbsolute root = true := by
    rintro root ⟨⟩
    rfl
  obtain ⟨hlist, -, -, hdirectory⟩ :=
    working_directory_has_no_say (i := rootedHost) rfl huser hpackage "tool"
  exact ⟨hplaces, hlist _ hplaces ⟨.adjacentBin, Path.ofString "/bin/tool"⟩ (by decide),
    hdirectory⟩

end Handover
