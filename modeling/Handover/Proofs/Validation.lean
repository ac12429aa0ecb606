/-
  Which drafts are accepted, and what is said of the others.

  `Draft.validate` stops at the first rule that a draft breaks.  Here the rules stand on their own:

  1. **Texts** — a text is blank if trimming leaves nothing of it, and it stands for a path if what
     trimming leaves is the padded Base64 of the path (`Blank`, `StandsFor`).
  2. **Valid drafts** — `Draft.Valid` says field by field what a draft must have, `Draft.Reports`
     what the snapshot of a valid draft holds.
  3. **Faults** — `Draft.faults` lists everything that is wrong with a draft, in the order of the
     rules, and does not stop at the first.
  4. **Validation** — one lemma for each step says when it succeeds and with what; `FirstOf` says
     that a step fails with the first of a list of faults, and is kept when steps are chained.
     `validate_spec` puts the steps together.
-/
import Mathlib.Data.List.Forall2
import Mathlib.Data.List.TakeWhile
import Handover.Host.Snapshot
import Handover.Proofs.Base64

namespace Handover

/-! ## Blanks -/

namespace Text

/-- A list is stripped of everything exactly when everything in it is to be stripped. -/
theorem stripBoth_eq_nil_iff {p : Char → Bool} {cs : List Char} :
    stripBoth p cs = [] ↔ cs.all p = true := by
  unfold stripBoth
  rw [List.reverse_eq_nil_iff, List.dropWhile_eq_nil_iff, List.all_eq_true]
  constructor
  · intro h c hc
    rw [← List.takeWhile_append_dropWhile (p := p) (l := cs), List.mem_append] at hc
    rcases hc with hc | hc
    · exact List.all_eq_true.mp List.all_takeWhile c hc
    · exact h c (List.mem_reverse.mpr hc)
  · intro h c hc
    exact h c ((List.dropWhile_sublist p).subset (List.mem_reverse.mp hc))

theorem isAllBlank_iff {s : String} : isAllBlank s = true ↔ trim s = "" := by
  unfold isAllBlank trim
  rw [← stripBoth_eq_nil_iff, String.ofList_eq_empty_iff]

end Text

namespace Host

/-- Nothing is left of the text once the blanks around it are taken away. -/
def Blank (text : String) : Prop := Text.trim text = ""

instance (text : String) : Decidable (Blank text) := inferInstanceAs (Decidable (_ = _))

/-- The text is the padded Base64 of the path, with blanks around it or without. -/
def StandsFor (text : String) (path : Path) : Prop :=
  Text.encode (Text.trim text) = Base64.encode path

/-- A text that stands for some path. -/
def Decodable (text : String) : Prop := ∃ path, StandsFor text path

/-- A text, if it is given and not blank. -/
def given (text : Option String) : Option String := text.filter fun s => !decide (Blank s)

theorem nonBlank_eq_given (text : Option String) : nonBlank text = given text := by
  have hsame : ∀ s, Text.isAllBlank s = decide (Blank s) := by
    intro s
    rw [Bool.eq_iff_iff, Text.isAllBlank_iff, decide_eq_true_iff]
    rfl
  unfold nonBlank given
  simp only [hsame]

theorem nonBlank_eq_some_iff {text : Option String} {s : String} :
    nonBlank text = some s ↔ text = some s ∧ ¬ Blank s := by
  rw [nonBlank_eq_given, given, Option.filter_eq_some_iff]
  simp

/-! ## Valid drafts -/

/-- A draft that breaks no rule. -/
structure Draft.Valid (d : Draft) : Prop where
  exeSuffix : ∃ suffix, d.exeSuffix = some suffix ∧ '/' ∉ suffix.toList ∧ '\\' ∉ suffix.toList
  scripts : ∃ text, d.scripts = some text ∧ ¬ Blank text ∧ Decodable text
  osName : ∃ text, d.osName = some text ∧ ¬ Blank text
  platform : ∃ text, d.platform = some text ∧ ¬ Blank text
  schemes : ∀ entries, d.schemes = some entries → ∀ e ∈ entries, e.2 ≠ "" → Decodable e.2
  packageDir : ∀ text, d.packageDir = some text → ¬ Blank text → Decodable text

/-- What a snapshot takes from a valid draft. -/
structure Draft.Reports (d : Draft) (s : Snapshot) : Prop where
  exeSuffix : d.exeSuffix = some s.exeSuffix
  scripts : ∃ text, d.scripts = some text ∧ StandsFor text s.scripts
  /-- The entries that are not empty, under their names, in their order. -/
  schemes : List.Forall₂ (fun e e' => e.1 = e'.1 ∧ StandsFor e.2 e'.2)
    ((d.schemes.getD []).filter fun e => e.2 ≠ "") s.schemes
  preferredUserScheme : ∀ name,
    s.preferredUserScheme = some name ↔ d.preferredUserScheme = some name ∧ ¬ Blank name
  osName : d.osName = some s.platform.osName
  platform : d.platform = some s.platform.platform
  framework : s.platform.framework = d.framework.getD false
  packageDir : ∀ path, s.packageDir = some path ↔
    ∃ text, d.packageDir = some text ∧ ¬ Blank text ∧ StandsFor text path

/-! ## Faults -/

/-- The fault of a member that is not given. -/
def missing (field : Field) : Option String → List Error
  | some _ => []
  | none => [.missingField field]

/-- The fault of a suffix that has a separator in it. -/
def separated (suffix : String) : List Error :=
  if '/' ∈ suffix.toList ∨ '\\' ∈ suffix.toList then [.invalidField .exeSuffix (.separator suffix)]
  else []

/-- The fault of a text that stands for no path. -/
def undecodable (field : Field) (text : String) : List Error :=
  match Base64.decode (Text.encode (Text.trim text)) with
  | .ok _ => []
  | .error fault => [.invalidField field (.encoding fault)]

/-- Everything that is wrong with a draft, in the order of the rules. -/
def Draft.faults (d : Draft) : List Error :=
  missing .exeSuffix d.exeSuffix
  ++ (d.exeSuffix.toList.flatMap separated
  ++ (missing .scripts (given d.scripts)
  ++ ((given d.scripts).toList.flatMap (undecodable .scripts)
  ++ (missing .osName (given d.osName)
  ++ (missing .platform (given d.platform)
  ++ (((d.schemes.getD []).filter fun e => e.2 ≠ "").flatMap (fun e => undecodable .schemes e.2)
  ++ (given d.packageDir).toList.flatMap (undecodable .packageDir)))))))

/-! ## When a step succeeds -/

theorem required_eq_ok_iff {α : Type} {field : Field} {value : Option α} {a : α} :
    required field value = .ok a ↔ value = some a := by
  cases value with
  | none => exact ⟨fun h => (by cases h), fun h => (by cases h)⟩
  | some b =>
    rw [Option.some.injEq]
    exact ⟨fun h => (by cases h; rfl), fun h => (by rw [h]; rfl)⟩

theorem any_isSeparator_iff {suffix : String} :
    suffix.toList.any isSeparator = true ↔ '/' ∈ suffix.toList ∨ '\\' ∈ suffix.toList := by
  rw [List.any_eq_true]
  constructor
  · rintro ⟨c, hc, hsep⟩
    unfold isSeparator at hsep
    rw [Bool.or_eq_true, beq_iff_eq, beq_iff_eq] at hsep
    rcases hsep with rfl | rfl
    · exact Or.inl hc
    · exact Or.inr hc
  · rintro (hc | hc)
    · exact ⟨'/', hc, rfl⟩
    · exact ⟨'\\', hc, rfl⟩

theorem checkSuffix_eq_ok_iff {suffix : String} {u : Unit} :
    checkSuffix suffix = .ok u ↔ '/' ∉ suffix.toList ∧ '\\' ∉ suffix.toList := by
  unfold checkSuffix
  rw [← not_or, ← any_isSeparator_iff]
  by_cases h : suffix.toList.any isSeparator = true
  · rw [if_pos h]
    exact ⟨fun h' => (by cases h'), fun h' => absurd h h'⟩
  · rw [if_neg h]
    exact ⟨fun _ => h, fun _ => rfl⟩

theorem decodePath_eq_ok_iff {field : Field} {text : String} {path : Path} :
    decodePath field text = .ok path ↔ StandsFor text path := by
  unfold StandsFor decodePath
  rw [← Base64.decode_eq_ok_iff]
  cases Base64.decode (Text.encode (Text.trim text)) with
  | ok bytes => exact ⟨fun h => (by cases h; rfl), fun h => (by cases h; rfl)⟩
  | error fault => exact ⟨fun h => (by cases h), fun h => (by cases h)⟩

/-- Entries that are empty are dropped; all others must stand for paths. -/
theorem decodeSchemes_eq_ok_iff {entries : ByName String} {paths : ByName Path} :
    decodeSchemes entries = .ok paths ↔
      List.Forall₂ (fun e e' => e.1 = e'.1 ∧ StandsFor e.2 e'.2)
        (entries.filter fun e => e.2 ≠ "") paths := by
  induction entries generalizing paths with
  | nil =>
    rw [List.filter_nil, List.forall₂_nil_left_iff]
    exact ⟨fun h => (by cases h; rfl), fun h => (by rw [h]; rfl)⟩
  | cons e rest ih =>
    obtain ⟨name, text⟩ := e
    unfold decodeSchemes
    by_cases htext : text = ""
    · rw [if_pos htext, List.filter_cons_of_neg (by simp [htext]), ih]
    · rw [if_neg htext, List.filter_cons_of_pos (by simp [htext]), List.forall₂_cons_left_iff]
      simp only [bind_eq_ok_iff, decodePath_eq_ok_iff, ih]
      constructor
      · rintro ⟨path, hpath, paths', hpaths, h⟩
        cases h
        exact ⟨(name, path), paths', ⟨rfl, hpath⟩, hpaths, rfl⟩
      · rintro ⟨⟨name', path⟩, paths', ⟨hname, hpath⟩, hpaths, rfl⟩
        cases hname
        exact ⟨path, hpath, paths', hpaths, rfl⟩

theorem decodeOptional_eq_ok_iff {field : Field} {text : Option String} {dir : Option Path} :
    decodeOptional field text = .ok dir ↔
      (text = none ∧ dir = none) ∨
        ∃ s path, text = some s ∧ dir = some path ∧ StandsFor s path := by
  cases text with
  | none =>
    constructor
    · intro h
      cases h
      exact Or.inl ⟨rfl, rfl⟩
    · rintro (⟨-, rfl⟩ | ⟨s, path, h, -⟩)
      · rfl
      · cases h
  | some s =>
    show (decodePath field s).map some = .ok dir ↔ _
    cases hpath : decodePath field s with
    | error e =>
      constructor
      · intro h
        cases h
      · rintro (⟨h, -⟩ | ⟨s', path, h, -, hs⟩)
        · cases h
        · cases h
          rw [decodePath_eq_ok_iff.mpr hs] at hpath
          cases hpath
    | ok path =>
      constructor
      · intro h
        cases h
        exact Or.inr ⟨s, path, rfl, rfl, decodePath_eq_ok_iff.mp hpath⟩
      · rintro (⟨h, -⟩ | ⟨s', path', h, rfl, hs⟩)
        · cases h
        · cases h
          rw [decodePath_eq_ok_iff.mpr hs] at hpath
          cases hpath
          rfl

/-- The snapshot of a draft, step by step. -/
theorem validate_eq_ok_iff_steps {d : Draft} {s : Snapshot} :
    d.validate = .ok s ↔
      d.exeSuffix = some s.exeSuffix ∧
      ('/' ∉ s.exeSuffix.toList ∧ '\\' ∉ s.exeSuffix.toList) ∧
      (∃ text, (d.scripts = some text ∧ ¬ Blank text) ∧ StandsFor text s.scripts) ∧
      (d.osName = some s.platform.osName ∧ ¬ Blank s.platform.osName) ∧
      (d.platform = some s.platform.platform ∧ ¬ Blank s.platform.platform) ∧
      List.Forall₂ (fun e e' => e.1 = e'.1 ∧ StandsFor e.2 e'.2)
        ((d.schemes.getD []).filter fun e => e.2 ≠ "") s.schemes ∧
      ((nonBlank d.packageDir = none ∧ s.packageDir = none) ∨
        ∃ text path, nonBlank d.packageDir = some text ∧ s.packageDir = some path ∧
          StandsFor text path) ∧
      s.preferredUserScheme = nonBlank d.preferredUserScheme ∧
      s.platform.framework = d.framework.getD false := by
  unfold Draft.validate
  simp only [bind_eq_ok_iff, required_eq_ok_iff, checkSuffix_eq_ok_iff, nonBlank_eq_some_iff,
    decodePath_eq_ok_iff, decodeSchemes_eq_ok_iff, decodeOptional_eq_ok_iff]
  constructor
  · rintro ⟨suffix, hsuffix, -, hsep, text, htext, scripts, hscripts, osName, hos, platform, hplat,
      schemes, hschemes, packageDir, hdir, h⟩
    cases h
    exact ⟨hsuffix, hsep, ⟨text, htext, hscripts⟩, hos, hplat, hschemes, hdir, rfl, rfl⟩
  · obtain ⟨suffix, scripts, schemes, preferred, ⟨osName, platform, framework⟩, packageDir⟩ := s
    rintro ⟨hsuffix, hsep, ⟨text, htext, hscripts⟩, hos, hplat, hschemes, hdir, hpref, hframe⟩
    refine ⟨suffix, hsuffix, (), hsep, text, htext, scripts, hscripts, osName, hos, platform, hplat,
      schemes, hschemes, packageDir, hdir, ?_⟩
    rw [← hpref, ← hframe]
    rfl

/-! ## What a failing step says -/

/-- The step fails exactly with the first of the faults, and succeeds where there is none. -/
def FirstOf {ε α : Type} (x : Except ε α) (faults : List ε) : Prop :=
  ∀ e, x = .error e ↔ faults.head? = some e

namespace FirstOf

variable {ε α β : Type} {x : Except ε α} {fs gs : List ε}

theorem ok (a : α) : FirstOf (.ok a) ([] : List ε) :=
  fun e => ⟨fun h => (by cases h), fun h => (by cases h)⟩

theorem error (e : ε) : FirstOf (.error e : Except ε α) [e] :=
  fun e' => ⟨fun h => (by cases h; rfl), fun h => (by cases h; rfl)⟩

/-- A step that can be finished has no fault. -/
theorem eq_nil_iff (h : FirstOf x fs) : fs = [] ↔ ∃ a, x = .ok a := by
  cases x with
  | ok a =>
    refine ⟨fun _ => ⟨a, rfl⟩, fun _ => ?_⟩
    cases fs with
    | nil => rfl
    | cons e fs => cases (h e).mpr rfl
  | error e =>
    constructor
    · intro hnil
      rw [hnil] at h
      cases (h e).mp rfl
    · rintro ⟨a, ha⟩
      cases ha

/-- A step fails with one of its faults. -/
theorem mem_of_error {e : ε} (h : FirstOf x fs) (hx : x = .error e) : e ∈ fs :=
  List.mem_of_head? ((h e).mp hx)

/-- The faults of a second step come after those of the first. -/
theorem bind {f : α → Except ε β} (hx : FirstOf x fs) (hf : ∀ a, x = .ok a → FirstOf (f a) gs) :
    FirstOf (x >>= f) (fs ++ gs) := by
  intro e
  cases x with
  | ok a =>
    rw [hx.eq_nil_iff.mpr ⟨a, rfl⟩, List.nil_append]
    exact hf a rfl e
  | error e' =>
    obtain ⟨later, rfl⟩ := List.head?_eq_some_iff.mp ((hx e').mp rfl)
    rw [List.cons_append, List.head?_cons]
    constructor
    · intro h
      cases h
      rfl
    · intro h
      cases h
      rfl

/-- What is made of a result at the end can have no fault. -/
theorem map {f : α → β} (hx : FirstOf x fs) : FirstOf (x >>= fun a => pure (f a)) fs := by
  rw [← List.append_nil fs]
  exact hx.bind fun a _ => ok (f a)

end FirstOf

theorem firstOf_required {field : Field} {text : Option String} :
    FirstOf (required field text) (missing field text) := by
  cases text with
  | none => exact .error _
  | some s => exact .ok s

theorem firstOf_checkSuffix {suffix : String} :
    FirstOf (checkSuffix suffix) (separated suffix) := by
  unfold checkSuffix separated
  by_cases h : suffix.toList.any isSeparator = true
  · rw [if_pos h, if_pos (any_isSeparator_iff.mp h)]
    exact .error _
  · rw [if_neg h, if_neg fun h' => h (any_isSeparator_iff.mpr h')]
    exact .ok ()

theorem firstOf_decodePath {field : Field} {text : String} :
    FirstOf (decodePath field text) (undecodable field text) := by
  unfold decodePath undecodable
  cases Base64.decode (Text.encode (Text.trim text)) with
  | ok path => exact .ok path
  | error fault => exact .error _

theorem firstOf_decodeSchemes {entries : ByName String} :
    FirstOf (decodeSchemes entries)
      ((entries.filter fun e => e.2 ≠ "").flatMap fun e => undecodable .schemes e.2) := by
  induction entries with
  | nil => exact .ok []
  | cons e rest ih =>
    obtain ⟨name, text⟩ := e
    unfold decodeSchemes
    by_cases htext : text = ""
    · rw [if_pos htext, List.filter_cons_of_neg (by simp [htext])]
      exact ih
    · rw [if_neg htext, List.filter_cons_of_pos (by simp [htext]), List.flatMap_cons]
      exact firstOf_decodePath.bind fun path _ => ih.map

theorem firstOf_decodeOptional {field : Field} {text : Option String} :
    FirstOf (decodeOptional field text) (text.toList.flatMap (undecodable field)) := by
  cases text with
  | none => exact .ok none
  | some s =>
    have hmap : decodeOptional field (some s)
        = (decodePath field s >>= fun path => pure (some path)) := by
      show (decodePath field s).map some = _
      cases decodePath field s with
      | ok path => rfl
      | error e => rfl
    rw [hmap, Option.toList_some, List.flatMap_cons, List.flatMap_nil, List.append_nil]
    exact firstOf_decodePath.map

/-- Validation fails with the first fault of the draft. -/
theorem firstOf_validate (d : Draft) : FirstOf d.validate d.faults := by
  unfold Draft.validate Draft.faults
  -- Rule by rule: the faults of a rule come first in what is left of the list.
  refine firstOf_required.bind fun suffix hsuffix => ?_
  rw [required_eq_ok_iff.mp hsuffix, Option.toList_some, List.flatMap_cons, List.flatMap_nil,
    List.append_nil]
  refine firstOf_checkSuffix.bind fun _ _ => ?_
  simp only [nonBlank_eq_given]
  refine firstOf_required.bind fun scripts hscripts => ?_
  rw [required_eq_ok_iff.mp hscripts, Option.toList_some, List.flatMap_cons, List.flatMap_nil,
    List.append_nil]
  refine firstOf_decodePath.bind fun _ _ => ?_
  refine firstOf_required.bind fun _ _ => ?_
  refine firstOf_required.bind fun _ _ => ?_
  refine firstOf_decodeSchemes.bind fun _ _ => ?_
  exact firstOf_decodeOptional.map

/-! ## Validation -/

theorem missing_eq_nil_iff {field : Field} {text : Option String} :
    missing field text = [] ↔ ∃ s, text = some s := by
  cases text with
  | none => simp [missing]
  | some s => simp [missing]

theorem separated_eq_nil_iff {suffix : String} :
    separated suffix = [] ↔ '/' ∉ suffix.toList ∧ '\\' ∉ suffix.toList := by
  rw [firstOf_checkSuffix.eq_nil_iff]
  exact ⟨fun ⟨_, h⟩ => checkSuffix_eq_ok_iff.mp h, fun h => ⟨(), checkSuffix_eq_ok_iff.mpr h⟩⟩

theorem undecodable_eq_nil_iff {field : Field} {text : String} :
    undecodable field text = [] ↔ Decodable text := by
  rw [firstOf_decodePath.eq_nil_iff]
  exact ⟨fun ⟨path, h⟩ => ⟨path, decodePath_eq_ok_iff.mp h⟩,
    fun ⟨path, h⟩ => ⟨path, decodePath_eq_ok_iff.mpr h⟩⟩

theorem given_eq_some_iff {text : Option String} {s : String} :
    given text = some s ↔ text = some s ∧ ¬ Blank s := by
  rw [← nonBlank_eq_given, nonBlank_eq_some_iff]

/-- Nothing is wrong with a draft exactly when it is valid. -/
theorem Draft.faults_eq_nil_iff {d : Draft} : d.faults = [] ↔ d.Valid := by
  unfold Draft.faults
  simp only [List.append_eq_nil_iff, List.flatMap_eq_nil_iff, Option.mem_toList,
    missing_eq_nil_iff, separated_eq_nil_iff, undecodable_eq_nil_iff, given_eq_some_iff]
  constructor
  · rintro ⟨⟨suffix, hsuffix⟩, hsep, ⟨text, hscripts, hblank⟩, hdec, hos, hplat, hschemes, hdir⟩
    refine ⟨⟨suffix, hsuffix, hsep suffix hsuffix⟩,
      ⟨text, hscripts, hblank, hdec text ⟨hscripts, hblank⟩⟩, hos, hplat, ?_,
      fun text htext hblank => hdir text ⟨htext, hblank⟩⟩
    intro entries hentries e he hne
    refine hschemes e (List.mem_filter.mpr ⟨?_, decide_eq_true hne⟩)
    rw [hentries]
    exact he
  · rintro ⟨⟨suffix, hsuffix, hsep⟩, ⟨text, hscripts, hblank, hdec⟩, hos, hplat, hschemes, hdir⟩
    refine ⟨⟨suffix, hsuffix⟩, ?_, ⟨text, hscripts, hblank⟩, ?_, hos, hplat, ?_,
      fun text h => hdir text h.1 h.2⟩
    · intro suffix' hsuffix'
      rw [hsuffix, Option.some.injEq] at hsuffix'
      rw [← hsuffix']
      exact hsep
    · rintro text' ⟨htext', -⟩
      rw [hscripts, Option.some.injEq] at htext'
      rw [← htext']
      exact hdec
    · intro e he
      obtain ⟨he, hne⟩ := List.mem_filter.mp he
      cases hentries : d.schemes with
      | none =>
        rw [hentries] at he
        cases he
      | some entries =>
        rw [hentries] at he
        exact hschemes entries hentries e he (of_decide_eq_true hne)

/-- A snapshot takes from its draft what it reports. -/
theorem reports_of_validate {d : Draft} {s : Snapshot} (h : d.validate = .ok s) : d.Reports s := by
  obtain ⟨hsuffix, -, ⟨text, ⟨htext, -⟩, hscripts⟩, ⟨hos, -⟩, ⟨hplat, -⟩, hschemes, hdir, hpref,
    hframe⟩ := validate_eq_ok_iff_steps.mp h
  refine ⟨hsuffix, ⟨text, htext, hscripts⟩, hschemes, ?_, hos, hplat, hframe, ?_⟩
  · intro name
    rw [hpref, nonBlank_eq_some_iff]
  · intro path
    rcases hdir with ⟨hnone, hdir⟩ | ⟨text, path', htext, hdir, hpath⟩
    · rw [hdir]
      constructor
      · intro h
        cases h
      · rintro ⟨text, htext, hblank, -⟩
        rw [nonBlank_eq_some_iff.mpr ⟨htext, hblank⟩] at hnone
        cases hnone
    · obtain ⟨htext, hblank⟩ := nonBlank_eq_some_iff.mp htext
      rw [hdir, Option.some.injEq]
      constructor
      · rintro rfl
        exact ⟨text, htext, hblank, hpath⟩
      · rintro ⟨text', htext', -, hpath'⟩
        rw [htext, Option.some.injEq] at htext'
        rw [← htext'] at hpath'
        -- The padded form of a path is the form of that path alone.
        exact Except.ok.inj ((Base64.decode_eq_ok_iff.mpr hpath).symm.trans
          (Base64.decode_eq_ok_iff.mpr hpath'))

/-- **Validation accepts exactly the valid drafts and reports the first broken rule.**  The
    snapshot holds what the draft reports; the error is the first of everything that is wrong with
    the draft. -/
theorem validate_spec (d : Draft) :
    ((∃ s, d.validate = .ok s) ↔ d.Valid) ∧
    (∀ s, d.validate = .ok s → d.Reports s) ∧
    (∀ e, d.validate = .error e ↔ d.faults.head? = some e) := by
  refine ⟨?_, fun s => reports_of_validate, firstOf_validate d⟩
  rw [← (firstOf_validate d).eq_nil_iff, Draft.faults_eq_nil_iff]

end Host

end Handover
