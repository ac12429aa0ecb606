/-
  A description of the host survives the trip through its document.

  The host prints its description as a document and the document is read as a snapshot.  On the way
  directories become Base64, names are folded, the text is printed and read, blanks are taken away
  and blank texts are dropped; each layer has its lemma elsewhere, and here they are chained.

  1. **Directories** — the Base64 of a path consists of signs that are neither blank nor outside
     ASCII, so trimming leaves it alone, it stands for the path, and it is blank only for the empty
     path (`standsFor_textOf`, `blank_textOf_iff`).
  2. **Reading** — the document of a description is read as the draft one expects
     (`readingOf_document`): its value is plain, and its names are distinct even when folded.
  3. **The trip** — `readDocument_document`: of a description that a report can carry, the snapshot
     keeps every directory byte for byte and every text.
-/
import Mathlib.Data.List.Nodup
import Handover.Host.Description
import Handover.Host.Document
import Handover.Proofs.PrintedJson
import Handover.Proofs.Tables
import Handover.Proofs.Validation

namespace Handover

/-! ## Directories -/

namespace Text

theorem dropWhile_of_none {p : Char → Bool} {cs : List Char} (h : ∀ c ∈ cs, p c = false) :
    cs.dropWhile p = cs := by
  cases cs with
  | nil => rfl
  | cons c cs =>
    exact List.dropWhile_cons_of_neg (Bool.not_eq_true _ ▸ h c List.mem_cons_self)

/-- Where nothing is to be stripped, nothing is. -/
theorem stripBoth_of_none {p : Char → Bool} {cs : List Char} (h : ∀ c ∈ cs, p c = false) :
    stripBoth p cs = cs := by
  unfold stripBoth
  rw [dropWhile_of_none h, dropWhile_of_none fun c hc => h c (List.mem_reverse.mp hc),
    List.reverse_reverse]

end Text

namespace Base64

/-- A symbol, or the sign that fills the last group. -/
def IsSign (b : UInt8) : Prop := b = pad ∨ ∃ n < 64, b = symbol n

theorem isSign_symbol {n : Nat} (h : n < 64) : IsSign (symbol n) := Or.inr ⟨n, h, rfl⟩

/-- Padded Base64 is made of signs. -/
theorem isSign_of_mem_encode (bytes : Bytes) : ∀ b ∈ encode bytes, IsSign b := by
  induction bytes using encode.induct with
  | case1 => exact fun b hb => absurd hb List.not_mem_nil
  | case2 a =>
    have ha := a.toNat_lt
    rw [encode]
    simp only [List.forall_mem_cons]
    exact ⟨isSign_symbol (by omega), isSign_symbol (by omega), Or.inl rfl, Or.inl rfl,
      List.forall_mem_nil _⟩
  | case3 a b =>
    have ha := a.toNat_lt
    have hb := b.toNat_lt
    rw [encode]
    simp only [List.forall_mem_cons]
    exact ⟨isSign_symbol (by omega), isSign_symbol (by omega), isSign_symbol (by omega), Or.inl rfl,
      List.forall_mem_nil _⟩
  | case4 a b c rest ih =>
    have ha := a.toNat_lt
    have hb := b.toNat_lt
    have hc := c.toNat_lt
    rw [encode]
    simp only [List.forall_mem_cons]
    exact ⟨isSign_symbol (by omega), isSign_symbol (by omega), isSign_symbol (by omega),
      isSign_symbol (by omega), ih⟩

/-- A sign is an ASCII character, and no blank. -/
theorem char_of_isSign {b : UInt8} (h : IsSign b) :
    String.utf8EncodeChar (Char.ofNat b.toNat) = [b] ∧
      Text.isBlank (Char.ofNat b.toNat) = false := by
  have hall : ∀ n < 64, String.utf8EncodeChar (Char.ofNat (symbol n).toNat) = [symbol n] ∧
      Text.isBlank (Char.ofNat (symbol n).toNat) = false := by decide +kernel
  rcases h with rfl | ⟨n, hn, rfl⟩
  · decide +kernel
  · exact hall n hn

end Base64

namespace Host.Description

/-- Text of signs has their bytes. -/
theorem encode_asciiText {bytes : Bytes} (h : ∀ b ∈ bytes, Base64.IsSign b) :
    Text.encode (asciiText bytes) = bytes := by
  unfold Text.encode asciiText
  rw [String.toList_ofList]
  induction bytes with
  | nil => rfl
  | cons b rest ih =>
    obtain ⟨hb, hrest⟩ := List.forall_mem_cons.mp h
    rw [List.map_cons, Text.encodeChars_cons, (Base64.char_of_isSign hb).1, ih hrest,
      List.singleton_append]

/-- There is no blank among signs. -/
theorem isBlank_of_mem_asciiText {bytes : Bytes} (h : ∀ b ∈ bytes, Base64.IsSign b) :
    ∀ c ∈ (asciiText bytes).toList, Text.isBlank c = false := by
  intro c hc
  unfold asciiText at hc
  rw [String.toList_ofList, List.mem_map] at hc
  obtain ⟨b, hb, rfl⟩ := hc
  exact (Base64.char_of_isSign (h b hb)).2

theorem trim_asciiText {bytes : Bytes} (h : ∀ b ∈ bytes, Base64.IsSign b) :
    Text.trim (asciiText bytes) = asciiText bytes := by
  unfold Text.trim
  rw [Text.stripBoth_of_none (isBlank_of_mem_asciiText h), String.ofList_toList]

/-- The text of a path in a document. -/
def textOf (path : Path) : String := asciiText (Base64.encode path)

/-- **The text of a path stands for the path**, whatever its bytes are. -/
theorem standsFor_textOf (path : Path) : StandsFor (textOf path) path := by
  have hsigns := Base64.isSign_of_mem_encode path
  unfold StandsFor textOf
  rw [trim_asciiText hsigns, encode_asciiText hsigns]

theorem textOf_eq_empty_iff {path : Path} : textOf path = "" ↔ path = [] := by
  unfold textOf asciiText
  rw [String.ofList_eq_empty_iff, List.map_eq_nil_iff, Base64.encode_eq_nil_iff]

theorem blank_textOf_iff {path : Path} : Blank (textOf path) ↔ path = [] := by
  unfold Blank
  rw [textOf, trim_asciiText (Base64.isSign_of_mem_encode path)]
  exact textOf_eq_empty_iff

/-! ## Reading -/

variable {d : Description} {entries : List (String × Path)}

theorem directory_eq (path : Option Path) : directory path = optionalText (path.map textOf) := by
  cases path with
  | none => rfl
  | some path => rfl

theorem plain_optionalText (n : Nat) (text : Option String) : Json.Plain n (optionalText text) := by
  cases text with
  | none => exact .null n
  | some s => exact .string n s

theorem plain_directory (n : Nat) (path : Option Path) : Json.Plain n (directory path) := by
  rw [directory_eq]
  exact plain_optionalText n _

/-- The names of the members. -/
def names : List String :=
  [Field.exeSuffix.name, Field.scripts.name, Field.schemes.name, Field.preferredUserScheme.name,
   Field.osName.name, Field.platform.name, Field.framework.name, Field.packageDir.name]

theorem names_nodup : names.Nodup := by decide

/-- The names of the members are no paths. -/
theorem ofName_of_mem_names :
    ∀ name ∈ names, Settings.KeyPath.ofName name = ⟨name, []⟩ := by decide +kernel

/-- Members of other names lead to other settings. -/
theorem root_ne_of_name {name key : String} (h : name ∈ names ∧ name ≠ key) :
    (Settings.KeyPath.ofName name).root ≠ key := by
  rw [ofName_of_mem_names name h.1]
  exact h.2

/-- A description without two schemes of one name is a plain value. -/
theorem plain_toJson (h : (d.schemes.map Prod.fst).Nodup) : Json.Plain 2 d.toJson := by
  have hschemes : Json.Plain 1 (.object (d.schemes.map fun e => (e.1, directory e.2))) := by
    refine .object ?_ ?_
    · rw [List.map_map]
      exact h
    · intro m hm
      obtain ⟨e, -, rfl⟩ := List.mem_map.mp hm
      exact plain_directory 0 e.2
  refine .object names_nodup ?_
  simp only [List.forall_mem_cons]
  exact ⟨.string 1 _, plain_directory 1 _, hschemes, plain_optionalText 1 _, .string 1 _,
    .string 1 _, .bool 1 _, plain_directory 1 _, List.forall_mem_nil _⟩

/-- The document of a description is read as the value it was printed from. -/
theorem read_document (h : (d.schemes.map Prod.fst).Nodup) :
    Json.read d.document = .ok d.toJson :=
  Json.read_toDocument (plain_toJson h) (by decide)

/-- The settings in the document of a description. -/
def settings (d : Description) (entries : List (String × Path)) : Settings.Table :=
  [(Field.exeSuffix.name, .string d.exeSuffix),
   (Field.scripts.name, directory d.scripts),
   (Field.schemes.name, .object (entries.map fun e => (Text.lower e.1, .string (textOf e.2)))),
   (Field.preferredUserScheme.name, optionalText d.preferredUserScheme),
   (Field.osName.name, .string d.osName),
   (Field.platform.name, .string d.platform),
   (Field.framework.name, .bool d.framework),
   (Field.packageDir.name, directory d.packageDir)]

/-- The draft that the document of a description is read as. -/
def draft (d : Description) (entries : List (String × Path)) : Draft where
  exeSuffix := some d.exeSuffix
  scripts := d.scripts.map textOf
  schemes := some (ByName.ofList (entries.map fun e => (Text.lower e.1, textOf e.2)))
  preferredUserScheme := d.preferredUserScheme
  osName := some d.osName
  platform := some d.platform
  framework := some d.framework
  packageDir := d.packageDir.map textOf

theorem folded_optionalText (text : Option String) :
    Settings.folded (optionalText text) = optionalText text := by
  cases text with
  | none => rfl
  | some s => rfl

theorem folded_directory (path : Option Path) :
    Settings.folded (directory path) = directory path := by
  rw [directory_eq]
  exact folded_optionalText _

/-- A description whose schemes all have directories is read as its settings. -/
theorem tableOf_toJson (hschemes : d.schemes = entries.map fun e => (e.1, some e.2))
    (hnames : (entries.map fun e => Text.lower e.1).Nodup) :
    tableOf d.toJson = .ok (settings d entries) := by
  have hfolded : Settings.folded (.object (d.schemes.map fun e => (e.1, directory e.2)))
      = .object (entries.map fun e => (Text.lower e.1, .string (textOf e.2))) := by
    rw [hschemes, List.map_map, Settings.folded_object, List.map_map]
    · rfl
    · rw [List.map_map]
      exact hnames
  unfold toJson
  rw [tableOf, Settings.ofMembers_of_plain]
  · simp only [List.map_cons, List.map_nil, hfolded, folded_directory, folded_optionalText]
    rfl
  · intro m hm
    exact ofName_of_mem_names m.1 (List.mem_map_of_mem hm)
  · exact names_nodup

theorem settings_nodup : ((settings d entries).map Prod.fst).Nodup := names_nodup

/-- A text of the settings, if it is there. -/
theorem field_asText {key : String} {text : Option String}
    (h : (key, optionalText text) ∈ settings d entries) :
    (settings d entries).field Settings.asText key = .ok text := by
  rw [Settings.field_eq settings_nodup h]
  cases text with
  | none => rfl
  | some s => rfl

/-- **The settings of a description make up its draft.** -/
theorem ofTable_settings : Draft.ofTable (settings d entries) = .ok (draft d entries) := by
  have hexe : (settings d entries).field Settings.asText Field.exeSuffix.name
      = .ok (some d.exeSuffix) := field_asText (by simp [settings, optionalText])
  have hscripts : (settings d entries).field Settings.asText Field.scripts.name
      = .ok (d.scripts.map textOf) := field_asText (by simp [settings, directory_eq])
  have hpreferred : (settings d entries).field Settings.asText Field.preferredUserScheme.name
      = .ok d.preferredUserScheme := field_asText (by simp [settings])
  have hos : (settings d entries).field Settings.asText Field.osName.name = .ok (some d.osName) :=
    field_asText (by simp [settings, optionalText])
  have hplatform : (settings d entries).field Settings.asText Field.platform.name
      = .ok (some d.platform) := field_asText (by simp [settings, optionalText])
  have hdir : (settings d entries).field Settings.asText Field.packageDir.name
      = .ok (d.packageDir.map textOf) := field_asText (by simp [settings, directory_eq])
  have hframework : (settings d entries).field Settings.asFlag Field.framework.name
      = .ok (some d.framework) := by
    rw [Settings.field_eq settings_nodup
      (show (Field.framework.name, Json.bool d.framework) ∈ settings d entries by simp [settings])]
    rfl
  have hschemes : (settings d entries).field Settings.asTexts Field.schemes.name
      = .ok (some (entries.map fun e => (Text.lower e.1, textOf e.2))) := by
    rw [Settings.field_eq settings_nodup (show (Field.schemes.name, Json.object
      (entries.map fun e => (Text.lower e.1, .string (textOf e.2)))) ∈ settings d entries by
        simp [settings])]
    have htexts := Settings.textsOf_strings Field.schemes.name
      (entries.map fun e => (Text.lower e.1, textOf e.2))
    rw [List.map_map] at htexts
    exact congrArg (Except.map some) htexts
  unfold Draft.ofTable
  rw [hexe, hscripts, hschemes, hpreferred, hos, hplatform, hframework, hdir]
  rfl

/-- **The document of a description is read as its draft.** -/
theorem readingOf_document (hschemes : d.schemes = entries.map fun e => (e.1, some e.2))
    (hnames : (entries.map fun e => Text.lower e.1).Nodup) :
    Reading.of d.document = .draft (draft d entries) := by
  have hdistinct : (d.schemes.map Prod.fst).Nodup := by
    rw [hschemes, List.map_map]
    -- Names that stay distinct when they are folded are distinct.
    have hlower : ((entries.map Prod.fst).map Text.lower).Nodup := by
      rw [List.map_map]
      exact hnames
    exact List.Nodup.of_map Text.lower hlower
  unfold Reading.of
  rw [read_document hdistinct]
  simp only [tableOf_toJson hschemes hnames, ofTable_settings]

/-! ## The trip -/

/-- A description that a report can carry: it knows its scripts directory and a directory of every
    scheme, no two schemes have one name, even when their names are folded, and no text breaks the
    rules of a snapshot. -/
structure Reportable (d : Description) (active : Path) (entries : List (String × Path)) : Prop where
  scripts : d.scripts = some active
  scripts_ne_nil : active ≠ []
  schemes : d.schemes = entries.map fun e => (e.1, some e.2)
  names : (entries.map fun e => Text.lower e.1).Nodup
  exeSuffix : '/' ∉ d.exeSuffix.toList ∧ '\\' ∉ d.exeSuffix.toList
  osName : ¬ Blank d.osName
  platform : ¬ Blank d.platform

/-- The snapshot keeps all that the description says: directories byte for byte, the schemes that
    have one under their folded names, and texts as they are. -/
structure KeptIn (d : Description) (active : Path) (entries : List (String × Path))
    (s : Snapshot) : Prop where
  exeSuffix : s.exeSuffix = d.exeSuffix
  scripts : s.scripts = active
  schemes : s.schemes.Perm
    ((entries.filter fun e => e.2 ≠ []).map fun e => (Text.lower e.1, e.2))
  sorted : ByName.Sorted s.schemes
  preferredUserScheme : s.preferredUserScheme = given d.preferredUserScheme
  platform : s.platform = ⟨d.osName, d.platform, d.framework⟩
  packageDir : s.packageDir = d.packageDir.filter fun path => path ≠ []

/-- The directories of the schemes, in the order of their folded names. -/
def sortedSchemes (entries : List (String × Path)) : ByName Path :=
  (ByName.ofList (entries.map fun e => (Text.lower e.1, e.2))).filter fun e => e.2 ≠ []

/-- The snapshot of a description. -/
def snapshot (d : Description) (active : Path) (entries : List (String × Path)) : Snapshot where
  exeSuffix := d.exeSuffix
  scripts := active
  schemes := sortedSchemes entries
  preferredUserScheme := given d.preferredUserScheme
  platform := ⟨d.osName, d.platform, d.framework⟩
  packageDir := d.packageDir.filter fun path => path ≠ []

theorem sortedSchemes_perm (h : (entries.map fun e => Text.lower e.1).Nodup) :
    (sortedSchemes entries).Perm
      ((entries.filter fun e => e.2 ≠ []).map fun e => (Text.lower e.1, e.2)) := by
  have hperm : (ByName.ofList (entries.map fun e => (Text.lower e.1, e.2))).Perm
      (entries.map fun e => (Text.lower e.1, e.2)) := by
    refine ByName.ofList_perm ?_
    rw [List.map_map]
    exact h
  have hfilter := hperm.filter fun e => e.2 ≠ []
  rw [List.filter_map] at hfilter
  exact hfilter

/-- What is left of the schemes' texts stands for what is left of their directories. -/
theorem forall₂_sortedSchemes (entries : List (String × Path)) :
    List.Forall₂ (fun e e' => e.1 = e'.1 ∧ StandsFor e.2 e'.2)
      ((ByName.ofList (entries.map fun e => (Text.lower e.1, textOf e.2))).filter fun e => e.2 ≠ "")
      (sortedSchemes entries) := by
  have hmap : ByName.ofList (entries.map fun e => (Text.lower e.1, textOf e.2))
      = (ByName.ofList (entries.map fun e => (Text.lower e.1, e.2))).map
          fun e => (e.1, textOf e.2) := by
    rw [← ByName.ofList_map, List.map_map]
    rfl
  -- An entry whose text is dropped is one whose directory is the empty path.
  have hempty : ((fun e => decide (e.2 ≠ "")) ∘ fun e : String × Path => (e.1, textOf e.2))
      = fun e => decide (e.2 ≠ []) := by
    funext e
    exact decide_eq_decide.mpr (not_congr textOf_eq_empty_iff)
  rw [hmap, List.filter_map, hempty, List.forall₂_map_left_iff]
  exact List.forall₂_same.mpr fun e _ => ⟨rfl, standsFor_textOf e.2⟩

/-- The text of a package directory is given unless the directory is the empty path. -/
theorem nonBlank_textOf (path : Option Path) :
    nonBlank (path.map textOf) = (path.filter fun p => p ≠ []).map textOf := by
  rw [nonBlank_eq_given]
  cases path with
  | none => rfl
  | some p =>
    rw [given, Option.map_some, Option.filter_some, Option.filter_some]
    by_cases hp : p = []
    · simp [blank_textOf_iff, hp]
    · simp [blank_textOf_iff, hp]

/-- The draft of a description that a report can carry is accepted. -/
theorem validate_draft {active : Path} (h : d.Reportable active entries) :
    (draft d entries).validate = .ok (snapshot d active entries) := by
  have hscripts : (draft d entries).scripts = some (textOf active) :=
    congrArg (Option.map textOf) h.scripts
  have hblank : ¬ Blank (textOf active) := fun hb => h.scripts_ne_nil (blank_textOf_iff.mp hb)
  have hgiven : nonBlank (draft d entries).packageDir
      = (snapshot d active entries).packageDir.map textOf := nonBlank_textOf d.packageDir
  rw [validate_eq_ok_iff_steps]
  refine ⟨rfl, h.exeSuffix, ⟨textOf active, ⟨hscripts, hblank⟩, standsFor_textOf active⟩,
    ⟨rfl, h.osName⟩, ⟨rfl, h.platform⟩, forall₂_sortedSchemes entries, ?_,
    (nonBlank_eq_given _).symm, rfl⟩
  rw [hgiven]
  cases (snapshot d active entries).packageDir with
  | none => exact Or.inl ⟨rfl, rfl⟩
  | some path => exact Or.inr ⟨textOf path, path, rfl, rfl, standsFor_textOf path⟩

/-- **A description survives the trip through its document.** -/
theorem readDocument_document {active : Path} (h : d.Reportable active entries) :
    ∃ s, readDocument d.document = .ok s ∧ d.KeptIn active entries s := by
  refine ⟨snapshot d active entries, ?_, ?_⟩
  · unfold readDocument
    rw [readingOf_document h.schemes h.names]
    exact validate_draft h
  · exact ⟨rfl, rfl, sortedSchemes_perm h.names, (ByName.ofList_sorted _).filter _, rfl, rfl, rfl⟩

/-- A description with little in it that is plain: a suffix outside the Basic Multilingual Plane,
    directories that are no text, a capital in the name of a scheme, a scheme without a directory,
    a blank name of the preferred scheme, an empty package directory. -/
def unusual : Description where
  exeSuffix := ".𝒫\n\""
  scripts := some [0x2F, 0xFF, 0x20]
  schemes := [("Posix_User", some [0x2F, 0x80]), ("nt", some [])]
  preferredUserScheme := some "\u00a0"
  osName := " posix"
  platform := "linux"
  framework := true
  packageDir := some []

theorem unusual_survives :
    unusual.Reportable [0x2F, 0xFF, 0x20] [("Posix_User", [0x2F, 0x80]), ("nt", [])] ∧
    ∃ s, readDocument unusual.document = .ok s ∧ s.exeSuffix = ".𝒫\n\"" ∧
      s.scripts = [0x2F, 0xFF, 0x20] ∧ s.schemes = [("posix_user", [0x2F, 0x80])] ∧
      s.preferredUserScheme = none ∧ s.platform = ⟨" posix", "linux", true⟩ ∧
      s.packageDir = none := by
  have hcan : unusual.Reportable [0x2F, 0xFF, 0x20] [("Posix_User", [0x2F, 0x80]), ("nt", [])] :=
    ⟨rfl, by decide, rfl, by decide +kernel, by decide, by decide +kernel, by decide +kernel⟩
  obtain ⟨s, hread, hkept⟩ := readDocument_document hcan
  have hschemes : s.schemes = [("posix_user", [0x2F, 0x80])] := by
    rw [← List.perm_singleton]
    have hlower : Text.lower "Posix_User" = "posix_user" := by decide +kernel
    have hperm := hkept.schemes
    rw [List.filter_cons_of_pos (by decide), List.filter_cons_of_neg (by decide), List.filter_nil,
      List.map_singleton, hlower] at hperm
    exact hperm
  have hpreferred : given unusual.preferredUserScheme = none := by decide +kernel
  exact ⟨hcan, s, hread, hkept.exeSuffix, hkept.scripts, hschemes,
    hkept.preferredUserScheme.trans hpreferred, hkept.platform, hkept.packageDir⟩

end Host.Description

end Handover
