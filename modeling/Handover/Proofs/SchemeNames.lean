/-
  Under which name a scheme is found.

  A host names a scheme twice: as a name in the table of the schemes, and as a text where it says
  which scheme it prefers.  The first is folded to lower case when the document is read and the
  second is not, so the two need not meet:

  1. **Folded names** — everything that stands in a table of a document stands there under a folded
     name, also where a path leads there (`lower_of_mem_steps`, `find?_of_unfolded`).
  2. **Schemes** — so a scheme is found under its folded name, and nothing is found under a name
     that is not folded (`scriptsDir_lower`, `scriptsDir_of_unfolded`).
  3. **The preferred scheme** — its name is kept as the host gives it (`userScheme_of_prefers`).
  4. **The host's own documents** — the document that a host prints of its description lists its
     schemes and says which one it prefers (`listsScheme_document`, `prefersScheme_document`).
  5. **As listed and as found** — `scheme_found_iff_folded` puts these together and says when the
     search fails for the preferred scheme; `capital_scheme_lost` is a host that this happens to.
-/
import Handover.Proofs.Documents
import Handover.Proofs.LowerCase
import Handover.Proofs.RoundTrip
import Handover.Proofs.Search

namespace Handover

/-! ## Folded names -/

namespace Settings

/-- A path goes through folded names only. -/
theorem lower_of_mem_readSteps {fuel : Nat} {cs : List Char} {steps : List PathStep}
    (h : readSteps fuel cs = some steps) {name : String} (hmem : .member name ∈ steps) :
    Text.lower name = name := by
  induction fuel, cs using readSteps.induct generalizing steps with
  | case1 fuel =>
    rw [readSteps] at h
    cases h
    cases hmem
  | case2 cs hne =>
    rw [readSteps] at h
    · cases h
    · exact hne
  | case3 fuel cs ih =>
    rw [readSteps] at h
    simp only [Option.bind_eq_bind, Option.bind_eq_some_iff] at h
    obtain ⟨⟨first, rest⟩, -, later, hlater, h⟩ := h
    cases h
    rcases List.mem_cons.mp hmem with hmem | hmem
    · cases hmem
      exact Text.lower_lower first
    · exact ih rest hlater hmem
  | case4 fuel cs ih =>
    rw [readSteps] at h
    simp only [Option.bind_eq_bind, Option.bind_eq_some_iff] at h
    obtain ⟨⟨index, rest⟩, -, later, hlater, h⟩ := h
    cases h
    rcases List.mem_cons.mp hmem with hmem | hmem
    · cases hmem
    · exact ih rest hlater hmem
  | case5 fuel cs hnil hzero hdot hbracket =>
    rw [readSteps] at h
    · cases h
    all_goals assumption

theorem lower_of_mem_steps {key name : String} (h : .member name ∈ (KeyPath.ofName key).steps) :
    Text.lower name = name := by
  unfold KeyPath.ofName at h
  cases hread : KeyPath.read? key with
  | none =>
    rw [hread] at h
    cases h
  | some path =>
    rw [hread] at h
    unfold KeyPath.read? at hread
    simp only [Option.bind_eq_bind, Option.bind_eq_some_iff] at hread
    obtain ⟨⟨root, rest⟩, -, steps, hsteps, hpath⟩ := hread
    cases hpath
    exact lower_of_mem_readSteps hsteps h

/-- **In the tables of a document nothing stands under a name that is not folded.** -/
theorem find?_of_unfolded (members : Json.Members) (key : String) {name : String}
    (h : Text.lower name ≠ name) :
    Json.Members.find? (entriesOf (Json.Members.find? (Table.ofMembers members) key)) name
      = none := by
  rw [find?_ofMembers]
  refine revisedBy_free rfl fun m _ => ⟨?_, ?_⟩
  · rintro step steps hsteps rfl
    have hmem : .member step ∈ (KeyPath.ofName m.1).steps := hsteps ▸ List.mem_cons_self
    exact h (lower_of_mem_steps hmem)
  · rintro - pairs - e - rfl
    exact h (Text.lower_lower e.1)

end Settings

/-! ## Schemes -/

namespace Host

open Settings (KeyPath SoleEntry)

/-- The table of the schemes in the document has an entry of this name and text, and nothing else in
    the document leads there. -/
def ListsScheme (document name text : String) : Prop :=
  ∃ before after key entries entries',
    Json.read document = .ok (.object
      (before ++ (key, .object (entries ++ (name, .string text) :: entries')) :: after)) ∧
    SoleEntry Field.schemes.name name before after key entries entries'

/-- The document says that the host prefers the scheme of this name, and says it once. -/
def PrefersScheme (document name : String) : Prop :=
  ∃ before after key,
    Json.read document = .ok (.object (before ++ (key, .string name) :: after)) ∧
    KeyPath.ofName key = ⟨Field.preferredUserScheme.name, []⟩ ∧
    ∀ m ∈ before ++ after, KeyPath.ofName m.1 ≠ ⟨Field.preferredUserScheme.name, []⟩

variable {document name text : String} {dir : Path} {s : Snapshot}

/-- **A scheme is found under its folded name.** -/
theorem scriptsDir_lower (hread : readDocument document = .ok s)
    (hlists : ListsScheme document name text) (hdir : StandsFor text dir) (hne : dir ≠ []) :
    s.scriptsDir (.named (Text.lower name)) = .ok dir := by
  obtain ⟨before, after, key, entries, entries', hdoc, hsole⟩ := hlists
  obtain ⟨d, hdraft, hvalid⟩ := readDocument_eq_ok_iff.mp hread
  obtain ⟨members, hdoc', htable⟩ := reading_eq_draft_iff.mp hdraft
  have hmembers : before ++ (key, .object (entries ++ (name, .string text) :: entries')) :: after
      = members := Json.object.inj (Except.ok.inj (hdoc.symm.trans hdoc'))
  obtain ⟨t, t', hfind, -, hwith⟩ := hsole.withEntry (.string text)
  rw [hmembers] at hfind
  obtain ⟨texts, htexts, hschemes⟩ := schemes_of_find? hfind htable
  -- Among the texts of the table, that of the scheme is the only one of its name.
  have halike := Settings.textsOf_withEntry Field.schemes.name hwith
  rw [htexts] at halike
  obtain ⟨texts', -, -, hlist⟩ := halike.exists_of_ok
  have hfound : s.schemes.find? (Text.lower name) = some dir := by
    rw [find?_schemes_eq_some_iff hvalid (sorted_schemes htable), hschemes, Option.getD_some, hlist]
    refine ⟨text, ?_, ?_, hdir⟩
    · rw [ByName.find?_insert, if_pos rfl]
    · rintro rfl
      exact hne (hdir.unique (standsFor_nil_iff.mpr rfl))
  unfold Snapshot.scriptsDir
  simp only [Scheme.name?, hfound]

/-- **Under a name that is not folded no scheme is found**, whatever the document lists. -/
theorem scriptsDir_of_unfolded (hread : readDocument document = .ok s)
    (h : Text.lower name ≠ name) : s.scriptsDir (.named name) = .error (.unknownScheme name) := by
  obtain ⟨d, hdraft, hvalid⟩ := readDocument_eq_ok_iff.mp hread
  obtain ⟨members, -, htable⟩ := reading_eq_draft_iff.mp hdraft
  have hgiven : (d.schemes.getD []).find? name = none := by
    cases hschemes : d.schemes with
    | none => rfl
    | some entries =>
      obtain ⟨t, texts, hfind, htexts, rfl⟩ := schemes_of_ofTable htable hschemes
      refine ByName.find?_ofList_of_notMem ?_
      rw [Settings.names_textsOf htexts]
      have hfree := Settings.find?_of_unfolded members Field.schemes.name h
      rw [hfind] at hfree
      exact findNamed_eq_none_iff.mp hfree
  have hfound : s.schemes.find? name = none := by
    rw [Option.eq_none_iff_forall_ne_some]
    intro path hpath
    obtain ⟨t, ht, -⟩ :=
      (find?_schemes_eq_some_iff hvalid (sorted_schemes htable)).mp hpath
    rw [hgiven] at ht
    cases ht
  unfold Snapshot.scriptsDir
  simp only [Scheme.name?, hfound]

/-- So under the name that the host gives it a scheme is found exactly if the name is folded. -/
theorem scriptsDir_of_lists (hread : readDocument document = .ok s)
    (hlists : ListsScheme document name text) (hdir : StandsFor text dir) (hne : dir ≠ []) :
    s.scriptsDir (.named name)
      = if Text.lower name = name then .ok dir else .error (.unknownScheme name) := by
  by_cases hfolded : Text.lower name = name
  · rw [if_pos hfolded]
    have hlower := scriptsDir_lower hread hlists hdir hne
    rwa [hfolded] at hlower
  · rw [if_neg hfolded]
    exact scriptsDir_of_unfolded hread hfolded

/-! ## The preferred scheme -/

/-- The name of the preferred scheme is kept as it is, unless it is blank. -/
theorem userScheme_of_prefers (hread : readDocument document = .ok s)
    (hprefers : PrefersScheme document name) (hblank : ¬ Blank name) :
    s.provider.userScheme = .named name := by
  obtain ⟨before, after, key, hdoc, hkey, hnames⟩ := hprefers
  obtain ⟨d, hdraft, hvalid⟩ := readDocument_eq_ok_iff.mp hread
  obtain ⟨members, hdoc', htable⟩ := reading_eq_draft_iff.mp hdraft
  have hmembers : before ++ (key, .string name) :: after = members :=
    Json.object.inj (Except.ok.inj (hdoc.symm.trans hdoc'))
  obtain ⟨-, -, -, hfield, -⟩ := ofTable_eq_ok_iff.mp htable
  rw [← hmembers] at hfield
  have hsilent : Settings.Silent Field.preferredUserScheme.name after := by
    rw [List.append_cons] at hfield
    exact Settings.silent_of_asText (fun m hm => hnames m (List.mem_append_right _ hm)) hfield
  have hfind : Json.Members.find?
      (Settings.Table.ofMembers (before ++ (key, .string name) :: after))
      Field.preferredUserScheme.name = some (.string name) :=
    Settings.find?_of_last hkey hsilent nofun
  unfold Settings.Table.field at hfield
  rw [hfind] at hfield
  have hpreferred : d.preferredUserScheme = some name := (Except.ok.inj hfield).symm
  obtain ⟨-, -, -, -, -, -, -, hkept, -⟩ := validate_eq_ok_iff_steps.mp hvalid
  have hs : s.preferredUserScheme = some name :=
    hkept.trans (nonBlank_eq_some_iff.mpr ⟨hpreferred, hblank⟩)
  unfold Provider.userScheme
  simp only [Snapshot.provider, hs, Option.map_some, Option.getD_some]

/-! ## The host's own documents -/

namespace Description

variable {d : Description} {entries : List (String × Path)} {name : String} {path : Path}

/-- **The document of a description lists every scheme that has a directory**, if no other scheme
    has its folded name. -/
theorem listsScheme_document (hnames : (d.schemes.map fun e => Text.lower e.1).Nodup)
    (hmem : (name, some path) ∈ d.schemes) : ListsScheme d.document name (textOf path) := by
  obtain ⟨xs, ys, hschemes⟩ := List.append_of_mem hmem
  have hdistinct : (d.schemes.map Prod.fst).Nodup := by
    refine List.Nodup.of_map Text.lower ?_
    rw [List.map_map]
    exact hnames
  refine ⟨[(Field.exeSuffix.name, .string d.exeSuffix), (Field.scripts.name, directory d.scripts)],
    [(Field.preferredUserScheme.name, optionalText d.preferredUserScheme),
     (Field.osName.name, .string d.osName), (Field.platform.name, .string d.platform),
     (Field.framework.name, .bool d.framework), (Field.packageDir.name, directory d.packageDir)],
    Field.schemes.name, xs.map fun e => (e.1, directory e.2), ys.map fun e => (e.1, directory e.2),
    ?_, ofName_of_mem_names _ (by decide), ?_, ?_⟩
  · rw [read_document hdistinct, toJson, hschemes, List.map_append, List.map_cons]
    rfl
  · -- All other members are about other settings.
    have hother : ∀ n ∈ [Field.exeSuffix.name, Field.scripts.name, Field.preferredUserScheme.name,
        Field.osName.name, Field.platform.name, Field.framework.name, Field.packageDir.name],
        n ∈ names ∧ n ≠ Field.schemes.name := by decide
    exact fun m hm hroot => absurd hroot (root_ne_of_name (hother m.1 (List.mem_map_of_mem hm)))
  · rw [hschemes, List.map_append, List.map_cons, List.nodup_middle, List.nodup_cons,
      ← List.map_append] at hnames
    intro m hm heq
    rw [← List.map_append] at hm
    obtain ⟨e, he, rfl⟩ := List.mem_map.mp hm
    exact hnames.1 (List.mem_map.mpr ⟨e, he, heq⟩)

/-- The document of a description says which scheme is preferred. -/
theorem prefersScheme_document (h : (d.schemes.map Prod.fst).Nodup)
    (hpreferred : d.preferredUserScheme = some name) : PrefersScheme d.document name := by
  refine ⟨[(Field.exeSuffix.name, .string d.exeSuffix), (Field.scripts.name, directory d.scripts),
      (Field.schemes.name, .object (d.schemes.map fun e => (e.1, directory e.2)))],
    [(Field.osName.name, .string d.osName), (Field.platform.name, .string d.platform),
     (Field.framework.name, .bool d.framework), (Field.packageDir.name, directory d.packageDir)],
    Field.preferredUserScheme.name, ?_, ofName_of_mem_names _ (by decide), ?_⟩
  · rw [read_document h, toJson, hpreferred]
    rfl
  · have hother : ∀ n ∈ [Field.exeSuffix.name, Field.scripts.name, Field.schemes.name,
        Field.osName.name, Field.platform.name, Field.framework.name, Field.packageDir.name],
        n ∈ names ∧ n ≠ Field.preferredUserScheme.name := by decide
    intro m hm heq
    exact root_ne_of_name (hother m.1 (List.mem_map_of_mem hm)) (congrArg KeyPath.root heq)

/-- A host with one scheme, which it prefers. -/
def preferring (name : String) : Description where
  exeSuffix := ""
  scripts := some (Path.ofString "/s")
  schemes := [(name, some (Path.ofString "/v"))]
  preferredUserScheme := some name
  osName := "posix"
  platform := "linux"
  framework := false
  packageDir := none

theorem readDocument_preferring (name : String) :
    ∃ s, readDocument (preferring name).document = .ok s := by
  have hcan : (preferring name).Reportable (Path.ofString "/s") [(name, Path.ofString "/v")] :=
    ⟨rfl, by decide, rfl, List.nodup_singleton _, ⟨List.not_mem_nil, List.not_mem_nil⟩,
      show ¬ Blank "posix" by decide +kernel, show ¬ Blank "linux" by decide +kernel⟩
  exact ⟨_, readDocument_eq_ok_iff.mpr
    ⟨_, readingOf_document hcan.schemes hcan.names, validate_draft hcan⟩⟩

theorem preferring_lists (name : String) :
    ListsScheme (preferring name).document name (textOf (Path.ofString "/v")) ∧
      PrefersScheme (preferring name).document name :=
  ⟨listsScheme_document (List.nodup_singleton _) List.mem_cons_self,
    prefersScheme_document (List.nodup_singleton _) rfl⟩

end Description

/-! ## As listed and as found -/

/-- **A scheme that the host lists is found under the name it is listed by exactly if the name is
    folded already.**  Otherwise the folded name leads to it, and the name itself is unknown.  If it
    is the name of the preferred scheme, the search looks for it as it is: it fails for this scheme
    exactly if the name is not folded and the active scheme does not hold the file. -/
theorem scheme_found_iff_folded (hread : readDocument document = .ok s)
    (hlists : ListsScheme document name text) (hdir : StandsFor text dir) (hne : dir ≠ []) :
    s.scriptsDir (.named (Text.lower name)) = .ok dir ∧
    s.scriptsDir (.named name)
      = (if Text.lower name = name then .ok dir else .error (.unknownScheme name)) ∧
    (PrefersScheme document name → ¬ Blank name →
      s.provider.userScheme = .named name ∧
      ∀ launcherDir, ∀ p ∈ [s.provider, (Installation.mk s launcherDir).provider],
        ∀ isFile baseName,
        (resolve p isFile baseName).value = .error (.host (.unknownScheme name)) ↔
          Text.lower name ≠ name ∧
            isFile (candidateIn .standard (targetFilename baseName s.exeSuffix) s.scripts).path
              = false) := by
  have hnamed := scriptsDir_of_lists hread hlists hdir hne
  refine ⟨scriptsDir_lower hread hlists hdir hne, hnamed, fun hprefers hblank => ?_⟩
  have huser := userScheme_of_prefers hread hprefers hblank
  refine ⟨huser, fun launcherDir p hp isFile baseName => ?_⟩
  -- Both providers ask the snapshot for directories.
  have hview : p.scriptsDir = s.scriptsDir ∧ p.userScheme = s.provider.userScheme ∧
      p.exeSuffix = s.exeSuffix := by
    simp only [List.mem_cons, List.not_mem_nil, or_false] at hp
    rcases hp with rfl | rfl
    · exact ⟨rfl, rfl, rfl⟩
    · exact ⟨rfl, rfl, rfl⟩
  obtain ⟨hdirs, hscheme, hsuffix⟩ := hview
  have hactive : p.scriptsDir .active = .ok s.scripts := by rw [hdirs]; rfl
  rw [resolve_eq_host_error_iff, hactive, standardPlace_of_ok hactive, hscheme, huser, hdirs,
    hnamed, hsuffix]
  by_cases hfolded : Text.lower name = name
  · simp [hfolded]
  · simp [hfolded]

open Description in
/-- A scheme with a folded name is found where the host says it is. -/
theorem folded_scheme_found :
    ∃ s, readDocument (preferring "venv").document = .ok s ∧
      s.provider.userScheme = .named "venv" ∧
      s.scriptsDir (.named "venv") = .ok (Path.ofString "/v") := by
  obtain ⟨s, hread⟩ := readDocument_preferring "venv"
  obtain ⟨hlists, hprefers⟩ := preferring_lists "venv"
  obtain ⟨-, hnamed, hpreferred⟩ := scheme_found_iff_folded hread hlists
    (standsFor_textOf (Path.ofString "/v")) (by decide)
  rw [if_pos (by decide +kernel)] at hnamed
  exact ⟨s, hread, (hpreferred hprefers (by decide +kernel)).1, hnamed⟩

open Description in
/-- A scheme with a capital in its name is lost: the host lists it, prefers it and gives it a
    directory, but under its name it is unknown. -/
theorem capital_scheme_lost :
    ListsScheme (preferring "Venv").document "Venv" (textOf (Path.ofString "/v")) ∧
    ∃ s, readDocument (preferring "Venv").document = .ok s ∧
      s.provider.userScheme = .named "Venv" ∧
      s.scriptsDir (.named "Venv") = .error (.unknownScheme "Venv") := by
  obtain ⟨s, hread⟩ := readDocument_preferring "Venv"
  obtain ⟨hlists, hprefers⟩ := preferring_lists "Venv"
  exact ⟨hlists, s, hread, userScheme_of_prefers hread hprefers (by decide +kernel),
    scriptsDir_of_unfolded hread (by decide +kernel)⟩

end Host

end Handover
