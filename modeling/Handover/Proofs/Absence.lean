/-
  The ways in which a document can say that there is nothing.

  A host may leave a member out, or give it as null, as the empty text or as blanks.

  1. **Drafts** — what a draft is validated to depends on the texts that are left once blanks count
     for nothing (`Draft.Agrees`, `Draft.Agrees.validate`), so two tables whose settings agree in
     that are read alike (`ofTable_alike`, setting by setting).
  2. **Texts** — a setting that is null or blank agrees with one that is not there
     (`readDocument_of_leftOut`).
  3. **Schemes** — an empty entry of the schemes is dropped, so it may as well not be there
     (`readDocument_of_schemeLeftOut`); but an entry must be a text, and one that is null is refused
     (`readDocument_of_schemeNull`).
  4. **Both together** — `absent_alike`; `null_scheme_refused` is a document on which null and
     nothing differ.
-/
import Handover.Proofs.Documents
import Handover.Proofs.RoundTrip

namespace Handover.Host

open Settings (KeyPath SoleEntry Table asText asTexts asFlag)

/-! ## Drafts -/

/-- The drafts hold the same, once blanks and empty schemes count for nothing. -/
structure Draft.Agrees (d d' : Draft) : Prop where
  exeSuffix : d.exeSuffix = d'.exeSuffix
  scripts : nonBlank d.scripts = nonBlank d'.scripts
  schemes : decodeSchemes (d.schemes.getD []) = decodeSchemes (d'.schemes.getD [])
  preferredUserScheme : nonBlank d.preferredUserScheme = nonBlank d'.preferredUserScheme
  osName : nonBlank d.osName = nonBlank d'.osName
  platform : nonBlank d.platform = nonBlank d'.platform
  framework : d.framework = d'.framework
  packageDir : nonBlank d.packageDir = nonBlank d'.packageDir

/-- Drafts that agree become the same snapshot, or break the same rule. -/
theorem Draft.Agrees.validate {d d' : Draft} (h : d.Agrees d') : d.validate = d'.validate := by
  unfold Draft.validate
  rw [h.exeSuffix, h.scripts, h.schemes, h.preferredUserScheme, h.osName, h.platform, h.framework,
    h.packageDir]

/-- The members that are texts and for which blanks count for nothing. -/
def textFields : List Field := [.scripts, .preferredUserScheme, .osName, .platform, .packageDir]

/-- **Tables are read alike if each of their settings is.** -/
theorem ofTable_alike {table table' : Table}
    (hexe : table.field asText Field.exeSuffix.name = table'.field asText Field.exeSuffix.name)
    (hframework : table.field asFlag Field.framework.name
      = table'.field asFlag Field.framework.name)
    (htexts : ∀ f ∈ textFields, Alike (fun t t' => nonBlank t = nonBlank t')
      (table.field asText f.name) (table'.field asText f.name))
    (hschemes : Alike (fun texts texts' => decodeSchemes ((texts.map ByName.ofList).getD [])
        = decodeSchemes ((texts'.map ByName.ofList).getD []))
      (table.field asTexts Field.schemes.name) (table'.field asTexts Field.schemes.name)) :
    Alike Draft.Agrees (Draft.ofTable table) (Draft.ofTable table') := by
  unfold Draft.ofTable
  rw [hexe, hframework]
  -- Setting by setting, in the order in which they are read.
  refine (Alike.self _).bind fun suffix _ hsuffix => ?_
  refine (htexts .scripts (by decide)).bind fun scripts scripts' hscripts => ?_
  refine hschemes.bind fun schemes schemes' hschemes => ?_
  refine (htexts .preferredUserScheme (by decide)).bind fun preferred preferred' hpreferred => ?_
  refine (htexts .osName (by decide)).bind fun osName osName' hos => ?_
  refine (htexts .platform (by decide)).bind fun platform platform' hplatform => ?_
  refine (Alike.self _).bind fun framework _ hframework => ?_
  refine (htexts .packageDir (by decide)).bind fun packageDir packageDir' hdir => ?_
  exact .ok ⟨hsuffix.1, hscripts, hschemes, hpreferred, hos, hplatform, hframework.1, hdir⟩

variable {given left : String} {members members' : Json.Members}

/-- Documents whose tables are read alike report the same. -/
theorem readDocument_congr (hgiven : Json.read given = .ok (.object members))
    (hleft : Json.read left = .ok (.object members'))
    (h : Alike Draft.Agrees (Draft.ofTable (Table.ofMembers members))
      (Draft.ofTable (Table.ofMembers members'))) : readDocument given = readDocument left := by
  unfold readDocument
  rw [reading_of_object hgiven, reading_of_object hleft]
  generalize Draft.ofTable (Table.ofMembers members) = x at h
  generalize Draft.ofTable (Table.ofMembers members') = x' at h
  cases h with
  | error fault => rfl
  | ok hagrees => exact hagrees.validate

/-! ## Texts -/

/-- A value that says that there is nothing. -/
def SaysNothing (value : Json) : Prop := value = .null ∨ ∃ text, value = .string text ∧ Blank text

/-- The second document is the first without its member for a setting, which comes once. -/
def LeftOut (given left : String) (f : Field) (value : Json) : Prop :=
  ∃ before after name,
    Json.read given = .ok (.object (before ++ (name, value) :: after)) ∧
    Json.read left = .ok (.object (before ++ after)) ∧
    KeyPath.ofName name = ⟨f.name, []⟩ ∧
    ∀ m ∈ before ++ after, KeyPath.ofName m.1 ≠ ⟨f.name, []⟩

/-- No member of the document is of the wrong kind. -/
def WellTyped (document : String) : Prop := ∀ fault, Reading.of document ≠ .illTyped fault

/-- The settings of a well-typed document make a draft. -/
theorem exists_draft (hleft : Json.read left = .ok (.object members)) (htyped : WellTyped left) :
    ∃ d, Draft.ofTable (Table.ofMembers members) = .ok d := by
  cases hdraft : Draft.ofTable (Table.ofMembers members) with
  | error fault =>
    have hreading := reading_of_object hleft
    rw [hdraft] at hreading
    exact absurd hreading (htyped _)
  | ok d => exact ⟨d, rfl⟩

/-- The texts of a draft are settings of its table. -/
theorem field_of_ofTable {table : Table} {d : Draft} (h : Draft.ofTable table = .ok d) :
    ∀ f ∈ textFields, ∃ text, table.field asText f.name = .ok text := by
  obtain ⟨-, hscripts, -, hpreferred, hos, hplatform, -, hdir⟩ := ofTable_eq_ok_iff.mp h
  unfold textFields
  simp only [List.forall_mem_cons]
  exact ⟨⟨_, hscripts⟩, ⟨_, hpreferred⟩, ⟨_, hos⟩, ⟨_, hplatform⟩, ⟨_, hdir⟩,
    List.forall_mem_nil _⟩

/-- What says that there is nothing is read as no text, or as a text that counts for nothing. -/
theorem field_of_saysNothing {table : Table} {key : String} {value : Json}
    (hfind : Json.Members.find? table key = some value) (h : SaysNothing value) :
    ∃ text, table.field asText key = .ok text ∧ nonBlank text = none := by
  unfold Table.field
  rw [hfind]
  rcases h with rfl | ⟨text, rfl, hblank⟩
  · exact ⟨none, rfl, rfl⟩
  · refine ⟨some text, rfl, ?_⟩
    rw [nonBlank_eq_given, given, Option.filter_some, if_neg (by simpa using hblank)]

/-- **A text that is null or blank is a text that is left out.** -/
theorem readDocument_of_leftOut {f : Field} {value : Json} (hf : f ∈ textFields)
    (h : LeftOut given left f value) (htyped : WellTyped left) (hvalue : SaysNothing value) :
    readDocument given = readDocument left := by
  obtain ⟨before, after, name, hgiven, hleft, hname, hnames⟩ := h
  obtain ⟨d, hd⟩ := exists_draft hleft htyped
  obtain ⟨text, htext⟩ := field_of_ofTable hd f hf
  -- Nothing else in the document leads to the setting, as it would not be a text then.
  have hsilent : Settings.Silent f.name (before ++ after) := by
    rw [← List.nil_append (before ++ after)] at htext
    exact Settings.silent_of_asText hnames htext
  have hnone : (Table.ofMembers (before ++ after)).field asText f.name = .ok none := by
    unfold Table.field
    rw [Settings.find?_of_silent hsilent]
  have hplain : ∀ ms, value ≠ .object ms := by
    rintro ms rfl
    rcases hvalue with h | ⟨t, h, -⟩ <;> cases h
  have hlast : Json.Members.find? (Table.ofMembers (before ++ (name, value) :: after)) f.name
      = some value :=
    Settings.find?_of_last hname (fun m hm => hsilent m (List.mem_append_right _ hm)) hplain
  obtain ⟨text', htext', hblank⟩ := field_of_saysNothing hlast hvalue
  have hother : ∀ {α : Type} (read : String → Json → Except Settings.TypeFault α) (key : String),
      f.name ≠ key → (Table.ofMembers (before ++ (name, value) :: after)).field read key
        = (Table.ofMembers (before ++ after)).field read key := by
    intro α read key hne
    exact Settings.field_congr (Settings.find?_of_other (by rw [hname]; exact hne)) read
  have hfields : ∀ f ∈ textFields, f.name ≠ Field.exeSuffix.name ∧ f.name ≠ Field.framework.name ∧
      f.name ≠ Field.schemes.name := by decide
  obtain ⟨hexe, hframework, hschemes⟩ := hfields f hf
  refine readDocument_congr hgiven hleft (ofTable_alike (hother _ _ hexe) (hother _ _ hframework)
    ?_ ?_)
  · intro f' hf'
    by_cases hsame : f.name = f'.name
    · rw [← hsame, htext', hnone]
      exact .ok hblank
    · rw [hother _ _ hsame]
      refine .refl ?_ _
      exact fun _ => rfl
  · rw [hother _ _ hschemes]
    refine .refl ?_ _
    exact fun _ => rfl

/-! ## Schemes -/

/-- The second document is the first without an entry of its table of schemes, to which nothing else
    in the document leads. -/
def SchemeLeftOut (given left name : String) (value : Json) : Prop :=
  ∃ before after key entries entries',
    Json.read given
      = .ok (.object (before ++ (key, .object (entries ++ (name, value) :: entries')) :: after)) ∧
    Json.read left = .ok (.object (before ++ (key, .object (entries ++ entries')) :: after)) ∧
    SoleEntry Field.schemes.name name before after key entries entries'

/-- An empty entry is dropped wherever it stands. -/
theorem decodeSchemes_insert_empty {name : String} {entries : ByName String}
    (h : entries.find? name = none) :
    decodeSchemes (entries.insert name "") = decodeSchemes entries := by
  induction entries with
  | nil => rfl
  | cons e rest ih =>
    obtain ⟨n, text⟩ := e
    have hn : n ≠ name := by
      rintro rfl
      rw [ByName.find?, List.find?_cons_of_pos (by simp)] at h
      cases h
    have hrest : ByName.find? rest name = none := by
      rwa [ByName.find?, List.find?_cons_of_neg (by simpa using hn)] at h
    rw [ByName.insert]
    split
    · rw [decodeSchemes, if_pos rfl]
    · rw [decodeSchemes, decodeSchemes, ih hrest]

/-- The settings of two documents whose tables of schemes differ in an entry. -/
theorem settings_of_schemeLeftOut {before after : Json.Members} {key : String}
    {schemes schemes' : Json} (hkey : KeyPath.ofName key = ⟨Field.schemes.name, []⟩) {α : Type}
    (read : String → Json → Except Settings.TypeFault α) {name : String}
    (hne : Field.schemes.name ≠ name) :
    (Table.ofMembers (before ++ (key, schemes) :: after)).field read name
      = (Table.ofMembers (before ++ (key, schemes') :: after)).field read name := by
  have hroot : (KeyPath.ofName key).root ≠ name := by
    rw [hkey]
    exact hne
  refine Settings.field_congr ?_ read
  rw [Settings.find?_of_other hroot, Settings.find?_of_other hroot]

/-- **An empty entry of the schemes is an entry that is left out.** -/
theorem readDocument_of_schemeLeftOut {name : String}
    (h : SchemeLeftOut given left name (.string "")) : readDocument given = readDocument left := by
  obtain ⟨before, after, key, entries, entries', hgiven, hleft, hsole⟩ := h
  obtain ⟨t, t', hfind, hfind', hwith⟩ := hsole.withEntry (.string "")
  have hother : ∀ f ∈ textFields, Field.schemes.name ≠ f.name := by decide
  refine readDocument_congr hgiven hleft (ofTable_alike
    (settings_of_schemeLeftOut hsole.plain asText (by decide))
    (settings_of_schemeLeftOut hsole.plain asFlag (by decide)) (fun f hf => ?_) ?_)
  · rw [settings_of_schemeLeftOut hsole.plain asText (hother f hf)]
    refine .refl ?_ _
    exact fun _ => rfl
  · rw [Settings.field_asTexts hfind, Settings.field_asTexts hfind']
    refine (Settings.textsOf_withEntry Field.schemes.name hwith).map fun texts texts' htexts => ?_
    obtain ⟨hout, hlist⟩ := htexts
    show decodeSchemes (ByName.ofList texts) = decodeSchemes (ByName.ofList texts')
    rw [hlist, decodeSchemes_insert_empty (ByName.find?_ofList_of_notMem hout)]

/-- **An entry of the schemes that is null is refused**, and the message names it. -/
theorem readDocument_of_schemeNull {name : String} (h : SchemeLeftOut given left name .null)
    (htyped : WellTyped left) :
    readDocument given = .error (.parse (.illTyped
      ⟨.null, .text (Settings.memberKey Field.schemes.name (Text.lower name))⟩)) := by
  obtain ⟨before, after, key, entries, entries', hgiven, hleft, hsole⟩ := h
  obtain ⟨t, t', hfind, hfind', xs, ys, rfl, rfl, -⟩ := hsole.withEntry .null
  obtain ⟨d, hd⟩ := exists_draft hleft htyped
  obtain ⟨hexe, hscripts, -⟩ := ofTable_eq_ok_iff.mp hd
  obtain ⟨texts, htexts, -⟩ := schemes_of_find? hfind' hd
  rw [Settings.textsOf_append] at htexts
  obtain ⟨ts, hts, -⟩ := bind_eq_ok_iff.mp htexts
  have hnull : Settings.textsOf Field.schemes.name
      (xs ++ (Text.lower name, Settings.folded .null) :: ys)
      = .error ⟨.null, .text (Settings.memberKey Field.schemes.name (Text.lower name))⟩ := by
    rw [Settings.textsOf_append, hts]
    rfl
  have hdraft : Draft.ofTable (Table.ofMembers
      (before ++ (key, .object (entries ++ (name, .null) :: entries')) :: after))
      = .error ⟨.null, .text (Settings.memberKey Field.schemes.name (Text.lower name))⟩ := by
    unfold Draft.ofTable
    rw [settings_of_schemeLeftOut hsole.plain asText (by decide), hexe,
      settings_of_schemeLeftOut hsole.plain asText (by decide), hscripts,
      Settings.field_asTexts hfind, hnull]
    rfl
  unfold readDocument
  rw [reading_of_object hgiven, hdraft]
  rfl

/-! ## Both together -/

/-- **To say that a thing is not there is to leave it out.**  A text may be null or blank, an entry
    of the schemes may be empty.  What an entry of the schemes may not be is null: the document is
    then refused for it. -/
theorem absent_alike (given left : String) :
    (∀ f ∈ textFields, ∀ value, LeftOut given left f value → WellTyped left → SaysNothing value →
      readDocument given = readDocument left) ∧
    (∀ name, SchemeLeftOut given left name (.string "") →
      readDocument given = readDocument left) ∧
    (∀ name, SchemeLeftOut given left name .null → WellTyped left →
      readDocument given = .error (.parse (.illTyped
        ⟨.null, .text (Settings.memberKey Field.schemes.name (Text.lower name))⟩))) :=
  ⟨fun _ hf _ => readDocument_of_leftOut hf, fun _ => readDocument_of_schemeLeftOut,
    fun _ => readDocument_of_schemeNull⟩

/-! ### A small document -/

/-- The members of a small report, with the schemes and the package directory left open. -/
def small (schemes : List (String × Json)) (packageDir : Option Json) : Json.Members :=
  [(Field.exeSuffix.name, .string ""), (Field.scripts.name, .string "L3M="),
   (Field.schemes.name, .object schemes), (Field.osName.name, .string "posix"),
   (Field.platform.name, .string "linux")]
    ++ packageDir.toList.map fun value => (Field.packageDir.name, value)

/-- The small report as a document. -/
def smallDocument (schemes : List (String × Json)) (packageDir : Option Json) : String :=
  Json.toDocument (.object (small schemes packageDir))

/-- The draft of the report with nothing left open. -/
def smallDraft : Draft where
  exeSuffix := some ""
  scripts := some "L3M="
  schemes := some []
  osName := some "posix"
  platform := some "linux"

theorem read_small {schemes : List (String × Json)} {packageDir : Option Json}
    (hnames : (schemes.map Prod.fst).Nodup) (hschemes : ∀ m ∈ schemes, Json.Plain 0 m.2)
    (hdir : ∀ value ∈ packageDir, Json.Plain 1 value) :
    Json.read (smallDocument schemes packageDir) = .ok (.object (small schemes packageDir)) := by
  refine Json.read_toDocument (Json.Plain.object (n := 1) ?_ ?_) (by decide)
  · have hall : [Field.exeSuffix.name, Field.scripts.name, Field.schemes.name, Field.osName.name,
        Field.platform.name, Field.packageDir.name].Nodup := by decide
    cases packageDir with
    | none => exact (List.take_sublist 5 _).nodup hall
    | some value => exact hall
  · unfold small
    simp only [List.forall_mem_append, List.forall_mem_cons, List.forall_mem_map,
      Option.mem_toList]
    exact ⟨⟨.string 1 _, .string 1 _, .object hnames hschemes, .string 1 _, .string 1 _,
      List.forall_mem_nil _⟩, hdir⟩

theorem read_small_nothing : Json.read (smallDocument [] none) = .ok (.object (small [] none)) :=
  read_small List.nodup_nil (List.forall_mem_nil _) nofun

theorem reading_small : Reading.of (smallDocument [] none) = .draft smallDraft :=
  reading_eq_draft_iff.mpr ⟨_, read_small_nothing, eq_ok_of_toOption (by decide +kernel)⟩

theorem wellTyped_small : WellTyped (smallDocument [] none) := by
  intro fault h
  rw [reading_small] at h
  cases h

theorem leftOut_small {value : Json} (h : Json.Plain 1 value) :
    LeftOut (smallDocument [] (some value)) (smallDocument [] none) .packageDir value := by
  refine ⟨small [] none, [], Field.packageDir.name, ?_, ?_, ?_, ?_⟩
  · exact read_small List.nodup_nil (List.forall_mem_nil _) fun v hv => by cases hv; exact h
  · rw [List.append_nil]
    exact read_small_nothing
  · exact Description.ofName_of_mem_names _ (by decide)
  · rw [List.append_nil]
    have hother : ∀ n ∈ [Field.exeSuffix.name, Field.scripts.name, Field.schemes.name,
        Field.osName.name, Field.platform.name],
        n ∈ Description.names ∧ n ≠ Field.packageDir.name := by decide
    exact fun m hm heq =>
      Description.root_ne_of_name (hother m.1 (List.mem_map_of_mem hm)) (congrArg KeyPath.root heq)

theorem schemeLeftOut_small {value : Json} (h : Json.Plain 0 value) :
    SchemeLeftOut (smallDocument [("x", value)] none) (smallDocument [] none) "x" value := by
  refine ⟨[(Field.exeSuffix.name, .string ""), (Field.scripts.name, .string "L3M=")],
    [(Field.osName.name, .string "posix"), (Field.platform.name, .string "linux")],
    Field.schemes.name, [], [], ?_, read_small_nothing, ?_, ?_, List.forall_mem_nil _⟩
  · exact read_small (List.nodup_singleton _) (List.forall_mem_singleton.mpr h) nofun
  · exact Description.ofName_of_mem_names _ (by decide)
  · have hother : ∀ n ∈ [Field.exeSuffix.name, Field.scripts.name, Field.osName.name,
        Field.platform.name], n ∈ Description.names ∧ n ≠ Field.schemes.name := by decide
    intro m hm hroot
    exact absurd hroot (Description.root_ne_of_name (hother m.1 (List.mem_map_of_mem hm)))

/-- A blank package directory and an empty scheme change nothing; a scheme that is null does. -/
theorem absent_alike_small :
    readDocument (smallDocument [] (some (.string " "))) = readDocument (smallDocument [] none) ∧
    readDocument (smallDocument [("x", .string "")] none) = readDocument (smallDocument [] none) ∧
    readDocument (smallDocument [("x", .null)] none) = .error (.parse (.illTyped
      ⟨.null, .text (Settings.memberKey Field.schemes.name (Text.lower "x"))⟩)) := by
  refine ⟨?_, ?_, ?_⟩
  · exact (absent_alike _ _).1 .packageDir (by decide) _ (leftOut_small (.string 1 " "))
      wellTyped_small (Or.inr ⟨" ", rfl, by decide +kernel⟩)
  · exact (absent_alike _ _).2.1 "x" (schemeLeftOut_small (.string 0 ""))
  · exact (absent_alike _ _).2.2 "x" (schemeLeftOut_small (.null 0)) wellTyped_small

/-- To give a scheme as null is not to leave it out: the document is refused for it. -/
theorem null_scheme_refused :
    SchemeLeftOut (smallDocument [("x", .null)] none) (smallDocument [] none) "x" .null ∧
    WellTyped (smallDocument [] none) ∧
    readDocument (smallDocument [("x", .null)] none) ≠ readDocument (smallDocument [] none) := by
  refine ⟨schemeLeftOut_small (.null 0), wellTyped_small, ?_⟩
  have hvalid : (smallDraft.validate).toOption.isSome = true := by decide +kernel
  have hread : readDocument (smallDocument [] none) = smallDraft.validate :=
    congrArg Reading.snapshot reading_small
  rw [readDocument_of_schemeNull (schemeLeftOut_small (.null 0)) wellTyped_small, hread]
  intro heq
  rw [← heq] at hvalid
  cases hvalid

end Handover.Host
