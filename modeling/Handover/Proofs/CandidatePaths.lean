/-
  The path of a place, byte for byte.

  Every place is a directory of the host with one name behind it, and the bytes of both are as they
  were given.

  1. **Fronts** — the bytes before the name, which the host decides alone: the directory and at most
     one separator (`Path.separatorAfter`), or the directory `bin` beside the package (`binBeside`).
     `placesIn` puts one name behind all of them.
  2. **Paths** — the places of a host are these, if the name does not begin with a separator
     (`candidates_eq_placesIn`).
  3. **Two suffixes** — the fronts do not depend on the suffix, so two hosts that differ in nothing
     else have the same fronts (`placesIn_append`).
  4. **Names** — `directory_and_name` puts these together, and adds that a name of one piece is the
     name of every file in the list.
-/
import Handover.Proofs.Components
import Handover.Proofs.Search

namespace Handover

/-! ## Fronts -/

/-- The directory `bin` beside a package. -/
def binBeside (packageRoot : Path) : Path :=
  Path.join ((Path.parent? packageRoot).getD packageRoot) (Path.ofString adjacentBinDir)

/-- The bytes of a file's path before its name, in a directory. -/
def frontOf (dir : Path) : Bytes := dir ++ Path.separatorAfter dir

/-- The path of a file beside a package ends in the name behind `bin/`. -/
theorem bin_suffix_frontOf (packageRoot : Path) :
    Path.ofString "bin/" <:+ frontOf (binBeside packageRoot) := by
  have hbin : Path.isAbsolute (Path.ofString adjacentBinDir) = false := by decide
  unfold binBeside frontOf Path.separatorAfter
  rw [Path.join_of_relative hbin]
  generalize (Path.parent? packageRoot).getD packageRoot = above
  have hlast : (above ++ Path.separatorAfter above ++ Path.ofString adjacentBinDir).getLast?
      = some 0x6E := by
    rw [List.getLast?_append_of_ne_nil _ (by decide)]
    decide
  rw [if_neg]
  · refine ⟨above ++ Path.separatorAfter above, ?_⟩
    rw [List.append_assoc (above ++ Path.separatorAfter above)]
    rfl
  · rintro (hnil | hslash)
    · rw [hnil] at hlast
      cases hlast
    · rw [hlast] at hslash
      exact absurd hslash (by decide)

/-- A name behind the directories of a host: that of the active scheme, that of the user scheme, and
    the one beside the package, if the package is known. -/
def placesIn (active user : Path) (packageRoot : Option Path) (name : Bytes) : List Candidate :=
  [⟨.standard, frontOf active ++ name⟩, ⟨.user, frontOf user ++ name⟩]
    ++ packageRoot.toList.map fun root => ⟨.adjacentBin, frontOf (binBeside root) ++ name⟩

/-- Two places of one kind whose paths differ in their ends at most. -/
def SameButEnd (last last' : Bytes) (c c' : Candidate) : Prop :=
  c.kind = c'.kind ∧ ∃ front, c.path = front ++ last ∧ c'.path = front ++ last'

/-- The places with two names that begin alike. -/
theorem placesIn_append (active user : Path) (packageRoot : Option Path) (name last last' : Bytes) :
    List.Forall₂ (SameButEnd last last') (placesIn active user packageRoot (name ++ last))
      (placesIn active user packageRoot (name ++ last')) := by
  have hsame : ∀ kind front, SameButEnd last last' ⟨kind, front ++ (name ++ last)⟩
      ⟨kind, front ++ (name ++ last')⟩ := fun kind front =>
    ⟨rfl, front ++ name, (List.append_assoc ..).symm, (List.append_assoc ..).symm⟩
  unfold placesIn
  cases packageRoot with
  | none => exact .cons (hsame _ _) (.cons (hsame _ _) .nil)
  | some root => exact .cons (hsame _ _) (.cons (hsame _ _) (.cons (hsame _ _) .nil))

section Places

variable {active user : Path} {packageRoot : Option Path} {name : Path} {c : Candidate}

theorem kinds_placesIn : (placesIn active user packageRoot name).map Candidate.kind
    = if packageRoot = none then [.standard, .user] else [.standard, .user, .adjacentBin] := by
  cases packageRoot with
  | none => rfl
  | some root => rfl

/-- Every place is the name joined to some directory. -/
theorem join_of_mem_placesIn (hrelative : Path.isAbsolute name = false)
    (h : c ∈ placesIn active user packageRoot name) : ∃ dir, c.path = Path.join dir name := by
  simp only [placesIn, List.mem_append, List.mem_cons, List.not_mem_nil, or_false,
    List.mem_map] at h
  rcases h with (rfl | rfl) | ⟨root, -, rfl⟩
  · exact ⟨active, (Path.join_of_relative hrelative).symm⟩
  · exact ⟨user, (Path.join_of_relative hrelative).symm⟩
  · exact ⟨binBeside root, (Path.join_of_relative hrelative).symm⟩

/-- The place beside the package ends in the name behind `bin/`. -/
theorem bin_suffix_of_mem_placesIn (h : c ∈ placesIn active user packageRoot name)
    (hkind : c.kind = .adjacentBin) : Path.ofString "bin/" ++ name <:+ c.path := by
  simp only [placesIn, List.mem_append, List.mem_cons, List.not_mem_nil, or_false,
    List.mem_map] at h
  rcases h with (rfl | rfl) | ⟨root, -, rfl⟩
  · cases hkind
  · cases hkind
  · obtain ⟨front, hfront⟩ := bin_suffix_frontOf root
    exact ⟨front, by rw [← List.append_assoc, hfront]⟩

/-- A name that is a piece of its own is the file name of every place. -/
theorem fileName?_of_mem_placesIn {text : String} (hslash : '/' ∉ text.toList)
    (hname : text ∉ ["", ".", ".."])
    (h : c ∈ placesIn active user packageRoot (Path.ofString text)) :
    Path.fileName? c.path = some (Path.ofString text) := by
  have hloud : Path.isSilent (Path.ofString text) = false :=
    Path.isSilent_ofString fun hmem => hname (List.mem_append_left [".."] hmem)
  have hup : Path.ofString text ≠ Path.ofString ".." := by
    intro heq
    refine hname ?_
    rw [Path.ofString_inj.mp heq]
    decide
  have hbytes : Path.slash ∉ Path.ofString text := fun hmem =>
    hslash (Path.slash_mem_ofString hmem)
  obtain ⟨dir, hdir⟩ := join_of_mem_placesIn (Path.isAbsolute_of_slash_notMem hbytes) h
  rw [hdir]
  exact Path.fileName?_join dir hbytes hloud hup

end Places

/-! ## Paths -/

section Paths

variable {p : Host.Provider} {baseName : String} {active user : Path}

/-- **The places of a host are its directories with the name behind them.** -/
theorem candidates_eq_placesIn (hactive : p.scriptsDir .active = .ok active)
    (huser : p.scriptsDir p.userScheme = .ok user)
    (hname : (targetFilename baseName p.exeSuffix).toList.head? ≠ some '/') :
    (candidates p baseName).value = .ok (placesIn active user p.packageRoot
      (Path.ofString (targetFilename baseName p.exeSuffix))) := by
  have hrelative :
      Path.isAbsolute (Path.ofString (targetFilename baseName p.exeSuffix)) = false := by
    rw [← Bool.not_eq_true, Path.isAbsolute_ofString_iff]
    exact hname
  rw [candidates_value, standardPlace_of_ok hactive, userPlace_of_ok huser]
  have hjoin : ∀ dir, Path.join dir (Path.ofString (targetFilename baseName p.exeSuffix))
      = frontOf dir ++ Path.ofString (targetFilename baseName p.exeSuffix) := fun _ =>
    Path.join_of_relative hrelative
  unfold candidateIn adjacentPlace adjacentBinPath placesIn
  simp only [hjoin]
  cases p.packageRoot with
  | none => rfl
  | some root => rfl

/-- **Every place is a directory of the host, verbatim, with one name behind it.**

  1. The places are the standard one, the user one and, if the package is known, the one beside it;
     the last ends in `bin/` and the name.
  2. The name is the base name and the suffix, byte for byte.  With another suffix the same places
     are listed, and their paths differ in the suffix at their ends only.
  3. A name that is a piece of its own is the file name of every place. -/
theorem directory_and_name (hactive : p.scriptsDir .active = .ok active)
    (huser : p.scriptsDir p.userScheme = .ok user)
    (hname : (targetFilename baseName p.exeSuffix).toList.head? ≠ some '/') :
    ∃ cs, (candidates p baseName).value = .ok cs ∧
      cs = placesIn active user p.packageRoot
        (Path.ofString baseName ++ Path.ofString p.exeSuffix) ∧
      (cs.map Candidate.kind
        = if p.packageRoot = none then [.standard, .user] else [.standard, .user, .adjacentBin]) ∧
      (∀ c ∈ cs, c.kind = .adjacentBin →
        Path.ofString "bin/" ++ Path.ofString baseName ++ Path.ofString p.exeSuffix <:+ c.path) ∧
      (∀ suffix, (targetFilename baseName suffix).toList.head? ≠ some '/' →
        ∃ cs', (candidates { p with exeSuffix := suffix } baseName).value = .ok cs' ∧
          List.Forall₂ (SameButEnd (Path.ofString p.exeSuffix) (Path.ofString suffix)) cs cs') ∧
      (let name := targetFilename baseName p.exeSuffix
       '/' ∉ name.toList → name ∉ ["", ".", ".."] →
        ∀ c ∈ cs, Path.fileName? c.path = some (Path.ofString name)) := by
  have hbytes : ∀ suffix, Path.ofString (targetFilename baseName suffix)
      = Path.ofString baseName ++ Path.ofString suffix := fun suffix =>
    Path.ofString_append baseName suffix
  refine ⟨_, candidates_eq_placesIn hactive huser hname, ?_, ?_, ?_, ?_, ?_⟩
  · rw [hbytes]
  · exact kinds_placesIn
  · intro c hc hkind
    rw [List.append_assoc, ← hbytes]
    exact bin_suffix_of_mem_placesIn hc hkind
  · intro suffix hname'
    refine ⟨_,
      candidates_eq_placesIn (p := { p with exeSuffix := suffix }) hactive huser hname', ?_⟩
    rw [hbytes, hbytes]
    exact placesIn_append ..
  · intro name hslash hpiece c hc
    exact fileName?_of_mem_placesIn hslash hpiece hc

end Paths

/-- A host with unusual directories: one is no text and ends in a separator, one is not named. -/
def oddHost : Host.Snapshot where
  exeSuffix := ".exe"
  scripts := [0xE9, Path.slash]
  schemes := [("nt_user", [])]
  preferredUserScheme := none
  platform := ⟨"nt", "win32", false⟩
  packageDir := some (Path.ofString "/t//pkg/.")

/-- Its places, and those that it would have without a suffix. -/
theorem oddHost_places : ∃ cs cs',
    (candidates oddHost.provider targetBaseName).value = .ok cs ∧
    cs.map Candidate.path = [0xE9 :: Path.ofString "/pymermaider.exe",
      Path.ofString "pymermaider.exe", Path.ofString "/t/bin/pymermaider.exe"] ∧
    (∀ c ∈ cs, Path.fileName? c.path = some (Path.ofString "pymermaider.exe")) ∧
    (candidates { oddHost.provider with exeSuffix := "" } targetBaseName).value = .ok cs' ∧
    List.Forall₂ (SameButEnd (Path.ofString ".exe") []) cs cs' := by
  have hactive : oddHost.provider.scriptsDir .active = .ok [0xE9, Path.slash] := rfl
  have huser : oddHost.provider.scriptsDir oddHost.provider.userScheme = .ok [] := rfl
  have hname : (targetFilename targetBaseName oddHost.exeSuffix).toList.head? ≠ some '/' := by
    decide
  obtain ⟨cs, hcs, hplaces, -, -, hsuffix, hfile⟩ := directory_and_name hactive huser hname
  obtain ⟨cs', hcs', hends⟩ := hsuffix "" (by decide)
  refine ⟨cs, cs', hcs, ?_, hfile (by decide) (by decide), hcs', hends⟩
  rw [hplaces]
  decide

end Handover
