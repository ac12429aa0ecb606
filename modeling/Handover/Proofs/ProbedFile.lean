/-
  Whether the file that was found is the file that is run.

  A program is looked for on `PATH` unless there is a separator in its name.  The launcher hands
  over to a path that it has looked at, so it matters that the path has one:

  1. **Places** — the path of a file in a directory has a separator exactly if the directory is not
     the empty path (`Path.slash_mem_join_iff`); beside the package there is always one
     (`slash_mem_adjacentBinPath`).
  2. **Directories** — a scripts directory that was accepted is not empty (`scripts_ne_nil`), and a
     suffix that was accepted brings no separator into the name of the file.  The directory of a
     scheme is empty if the entry of the scheme consists of blanks: such an entry is not dropped,
     unlike a blank text of any other member.
  3. **The file that is run** — a path with a separator is run as it stands (`find_of_slash`).
     `runs_what_was_probed` puts these together; `bare_name_found` is a host where the path that was
     found is a bare name.
-/
import Handover.Proofs.Components
import Handover.Proofs.Documents
import Handover.Proofs.Search
import Handover.Proofs.Starting

namespace Handover

/-! ## Places -/

/-- Beside a package there is always a directory before the name. -/
theorem slash_mem_adjacentBinPath (root : Path) {filename : String}
    (h : Path.slash ∉ Path.ofString filename) : Path.slash ∈ adjacentBinPath root filename := by
  refine (Path.slash_mem_join_iff h).mpr ?_
  unfold Path.join
  split
  · decide
  · split
    · exact List.append_ne_nil_of_right_ne_nil _ (by decide)
    · exact List.append_ne_nil_of_right_ne_nil _ (List.cons_ne_nil _ _)

/-- The search ends with a file, and this is one of the three places. -/
theorem place_of_resolve {p : Host.Provider} {isFile : Path → Bool} {baseName : String}
    {c : Candidate} (h : (resolve p isFile baseName).value = .ok c) :
    isFile c.path = true ∧
      (standardPlace p baseName = .ok c ∨ userPlace p baseName = .ok c ∨
        adjacentPlace p baseName = some c) := by
  have hends : SearchEnds p isFile baseName _ _ := resolve_ends
  rw [h] at hends
  generalize (resolve p isFile baseName).steps = steps at hends
  cases hends with
  | standard hstandard hfile => exact ⟨hfile, Or.inl hstandard⟩
  | user hstandard hmiss huser hfile => exact ⟨hfile, Or.inr (Or.inl huser)⟩
  | adjacent hstandard hmiss huser hmiss' hadjacent hfile =>
    exact ⟨hfile, Or.inr (Or.inr hadjacent)⟩

/-! ## Directories -/

namespace Host

variable {d : Draft} {s : Snapshot}

theorem scripts_ne_nil (h : d.validate = .ok s) : s.scripts ≠ [] := by
  obtain ⟨-, -, ⟨text, ⟨-, hblank⟩, hscripts⟩, -⟩ := validate_eq_ok_iff_steps.mp h
  intro hnil
  rw [hnil] at hscripts
  exact hblank (standsFor_nil_iff.mp hscripts)

/-- The name of the file has no separator in it. -/
theorem slash_notMem_targetFilename (h : d.validate = .ok s) :
    Path.slash ∉ Path.ofString (targetFilename targetBaseName s.exeSuffix) := by
  obtain ⟨-, ⟨hsuffix, -⟩, -⟩ := validate_eq_ok_iff_steps.mp h
  intro hmem
  have hchar := Path.slash_mem_ofString hmem
  rw [targetFilename, String.toList_append, List.mem_append] at hchar
  exact hchar.elim (by decide) hsuffix

/-- The user scheme has a name. -/
theorem exists_name_userScheme (s : Snapshot) :
    ∃ name, s.provider.userScheme.name? = some name := by
  unfold Provider.userScheme
  cases hpreferred : s.preferredUserScheme with
  | some name => exact ⟨name, by simp [Snapshot.provider, hpreferred, Scheme.name?]⟩
  | none =>
    simp only [Snapshot.provider, hpreferred, Option.map_none, Option.getD_none]
    exact s.platform.exists_name_userScheme

/-- The entry of a scheme consists of blanks, but is not empty. -/
def Draft.BlankEntry (d : Draft) (name : String) : Prop :=
  ∃ text, (d.schemes.getD []).find? name = some text ∧ text ≠ "" ∧ Blank text

/-- **A scheme has the empty path for its directory exactly if its entry consists of blanks.** -/
theorem scriptsDir_eq_nil_iff {scheme : Scheme} {name : String} (hname : scheme.name? = some name)
    (hvalid : d.validate = .ok s) (hsorted : ByName.Sorted (d.schemes.getD [])) :
    s.scriptsDir scheme = .ok [] ↔ d.BlankEntry name := by
  have hentry : s.schemes.find? name = some [] ↔
      ∃ t, (d.schemes.getD []).find? name = some t ∧ t ≠ "" ∧ StandsFor t [] :=
    find?_schemes_eq_some_iff hvalid hsorted
  unfold Draft.BlankEntry
  simp only [standsFor_nil_iff] at hentry
  rw [← hentry]
  unfold Snapshot.scriptsDir
  simp only [hname]
  cases s.schemes.find? name with
  | none => exact iff_of_false nofun nofun
  | some dir => rw [Except.ok.injEq, Option.some.injEq]

end Host

/-! ## The file that is run -/

open Host

/-- Where the search can end on an installation. -/
theorem found_of_resolve {s : Snapshot} {launcherDir : Option Path} {isFile : Path → Bool}
    {c : Candidate} {baseName : String}
    (h : (resolve (Installation.mk s launcherDir).provider isFile baseName).value = .ok c) :
    c = candidateIn .standard (targetFilename baseName s.exeSuffix) s.scripts ∨
    (∃ dir, s.scriptsDir s.provider.userScheme = .ok dir ∧
      c = candidateIn .user (targetFilename baseName s.exeSuffix) dir) ∨
    ∃ root, c = ⟨.adjacentBin, adjacentBinPath root (targetFilename baseName s.exeSuffix)⟩ := by
  rcases (place_of_resolve h).2 with hplace | hplace | hplace
  · have hactive : (Installation.mk s launcherDir).provider.scriptsDir .active = .ok s.scripts :=
      rfl
    rw [standardPlace_of_ok hactive] at hplace
    exact Or.inl (Except.ok.inj hplace).symm
  · refine Or.inr (Or.inl ?_)
    cases hdir : s.scriptsDir s.provider.userScheme with
    | error e =>
      rw [userPlace_of_error (p := (Installation.mk s launcherDir).provider) hdir] at hplace
      cases hplace
    | ok dir =>
      rw [userPlace_of_ok (p := (Installation.mk s launcherDir).provider) hdir] at hplace
      exact ⟨dir, rfl, (Except.ok.inj hplace).symm⟩
  · obtain ⟨root, -, hroot⟩ := Option.map_eq_some_iff.mp hplace
    exact Or.inr (Or.inr ⟨root, hroot.symm⟩)

/-- The path that was found is a bare name exactly if it was found in the directory of the user
    scheme and this is the empty path. -/
theorem bare_iff_of_resolve {d : Draft} {s : Snapshot} {launcherDir : Option Path}
    {isFile : Path → Bool} {c : Candidate} (hvalid : d.validate = .ok s)
    (hfound : (resolve (Installation.mk s launcherDir).provider isFile targetBaseName).value
      = .ok c) :
    (Path.slash ∉ c.path ↔ c.kind = .user ∧ s.scriptsDir s.provider.userScheme = .ok []) ∧
    (Path.slash ∉ c.path →
      c.path = Path.ofString (targetFilename targetBaseName s.exeSuffix)) := by
  have hfile := slash_notMem_targetFilename hvalid
  rcases found_of_resolve hfound with rfl | ⟨dir, hdir, rfl⟩ | ⟨root, rfl⟩
  · have hslash := (Path.slash_mem_join_iff hfile).mpr (scripts_ne_nil hvalid)
    exact ⟨iff_of_false (not_not_intro hslash) nofun, fun h => absurd hslash h⟩
  · have hjoin : Path.slash ∈ (candidateIn .user _ dir).path ↔ dir ≠ [] :=
      Path.slash_mem_join_iff hfile
    rw [hdir, Except.ok.injEq, hjoin, not_not]
    refine ⟨(and_iff_right rfl).symm, ?_⟩
    rintro rfl
    exact Path.join_nil hfile
  · have hslash := slash_mem_adjacentBinPath root hfile
    exact ⟨iff_of_false (not_not_intro hslash) nofun, fun h => absurd hslash h⟩

/-- **What was probed is what is run, unless the directory of the user scheme is given as blanks.**
    In every other case the path that was found has a separator in it, and a handoff runs the file
    at that very path.  In this one case the path is the bare name of the file, which a handoff
    looks for on `PATH`. -/
theorem runs_what_was_probed {text : String} {s : Snapshot} (hread : readDocument text = .ok s)
    {launcherDir : Option Path} {isFile : Path → Bool} {c : Candidate}
    (hfound : (resolve (Installation.mk s launcherDir).provider isFile targetBaseName).value
      = .ok c) :
    isFile c.path = true ∧
    ∃ d name, Reading.of text = .draft d ∧ s.provider.userScheme.name? = some name ∧
      (Path.slash ∉ c.path ↔ c.kind = .user ∧ d.BlankEntry name) ∧
      (Path.slash ∉ c.path →
        c.path = Path.ofString (targetFilename targetBaseName s.exeSuffix)) ∧
      (Path.slash ∈ c.path → ∀ w rule args image,
        Machine.find w rule ⟨c.path, args⟩ = .ok image →
          Machine.loadAs w rule c.path (c.path :: args) = .ok image) := by
  obtain ⟨d, hdraft, hvalid⟩ := readDocument_eq_ok_iff.mp hread
  obtain ⟨members, -, htable⟩ := reading_eq_draft_iff.mp hdraft
  obtain ⟨name, hname⟩ := exists_name_userScheme s
  obtain ⟨hbare, hpath⟩ := bare_iff_of_resolve hvalid hfound
  rw [scriptsDir_eq_nil_iff hname hvalid (sorted_schemes htable)] at hbare
  exact ⟨(place_of_resolve hfound).1, d, name, hdraft, hname, hbare, hpath,
    fun hslash w rule args image => Machine.find_of_slash (c := ⟨c.path, args⟩) hslash⟩

/-- The report of a host whose user scheme has the given text for its directory. -/
def reportOf (userDir : String) : String :=
  "\x7b\"exe_suffix\": \"\", \"scripts\": \"L3M=\", \"schemes\": \x7b\"posix_user\": \"" ++ userDir
    ++ "\"\x7d, \"os_name\": \"posix\", \"platform\": \"linux\"\x7d"

/-- What the report tells, with the path that the text stands for. -/
def reported (userDir : Path) : Snapshot where
  exeSuffix := ""
  scripts := Path.ofString "/s"
  schemes := [("posix_user", userDir)]
  preferredUserScheme := none
  platform := ⟨"posix", "linux", false⟩
  packageDir := none

/-- The executable below a user directory is run where it was found. -/
theorem runs_what_was_probed_below_u :
    readDocument (reportOf "L3U=") = .ok (reported (Path.ofString "/u")) ∧
    ∀ w rule args image, Machine.find w rule ⟨Path.ofString "/u/pymermaider", args⟩ = .ok image →
      Machine.loadAs w rule (Path.ofString "/u/pymermaider")
        (Path.ofString "/u/pymermaider" :: args) = .ok image := by
  have hread : readDocument (reportOf "L3U=") = .ok (reported (Path.ofString "/u")) :=
    eq_ok_of_toOption (by decide +kernel)
  have hfound : (resolve (Installation.mk (reported (Path.ofString "/u")) none).provider
      (· == Path.ofString "/u/pymermaider") targetBaseName).value
        = .ok ⟨.user, Path.ofString "/u/pymermaider"⟩ := by rfl
  obtain ⟨-, d, name, -, -, -, -, hrun⟩ := runs_what_was_probed hread hfound
  exact ⟨hread, hrun (by decide)⟩

/-- A user directory of one space is accepted, and leads to a path that `PATH` decides on. -/
theorem bare_name_found :
    readDocument (reportOf " ") = .ok (reported []) ∧
    (resolve (Installation.mk (reported []) none).provider (· == Path.ofString "pymermaider")
      targetBaseName).value = .ok ⟨.user, Path.ofString "pymermaider"⟩ ∧
    Path.slash ∉ Path.ofString "pymermaider" :=
  ⟨eq_ok_of_toOption (by decide +kernel), rfl, by decide⟩

end Handover
