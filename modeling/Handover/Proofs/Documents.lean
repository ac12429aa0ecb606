/-
  From the text of a document to what its snapshot holds.

  1. **Steps** — a document is accepted if its text is an object, the settings in it make a draft,
     and the draft is valid (`readDocument_eq_ok_iff`, `reading_eq_draft_iff`, `ofTable_eq_ok_iff`).
  2. **Tables of texts** — the texts of a table keep its names, and of two tables of which one has
     an entry more the texts differ by that entry (`names_textsOf`, `textsOf_withEntry`).  As each
     of the two may be of the wrong kind, they are compared by a relation on results (`Alike`).
  3. **Directories** — a text stands for one path only, and for the empty path exactly if it is
     blank (`StandsFor.unique`, `standsFor_nil_iff`).  So the directory of a scheme is the one that
     the entry of the scheme stands for (`find?_schemes_eq_some_iff`).
-/
import Handover.Host.Document
import Handover.Proofs.Entries
import Handover.Proofs.Validation

namespace Handover

theorem eq_ok_of_toOption {ε α : Type} {x : Except ε α} {a : α} (h : x.toOption = some a) :
    x = .ok a := by
  cases x with
  | ok b => exact congrArg Except.ok (Option.some.inj h)
  | error e => cases h

/-! ## Results that are alike -/

/-- Two computations end with the same error, or with results in the relation. -/
inductive Alike {ε α β : Type} (R : α → β → Prop) : Except ε α → Except ε β → Prop where
  | error (e : ε) : Alike R (.error e) (.error e)
  | ok {a : α} {b : β} (h : R a b) : Alike R (.ok a) (.ok b)

namespace Alike

variable {ε α β α' β' : Type} {R : α → β → Prop} {S : α' → β' → Prop} {x : Except ε α}
  {y : Except ε β}

/-- A computation is like itself, with the result that it has. -/
theorem self (x : Except ε α) : Alike (fun a b => a = b ∧ x = .ok a) x x := by
  cases x with
  | error e => exact .error e
  | ok a => exact .ok ⟨rfl, rfl⟩

theorem refl {R : α → α → Prop} (h : ∀ a, R a a) (x : Except ε α) : Alike R x x := by
  cases x with
  | error e => exact .error e
  | ok a => exact .ok (h a)

/-- Computations that are alike go on alike if related results do. -/
theorem bind {f : α → Except ε α'} {g : β → Except ε β'} (h : Alike R x y)
    (hnext : ∀ a b, R a b → Alike S (f a) (g b)) : Alike S (x >>= f) (y >>= g) := by
  cases h with
  | error e => exact .error e
  | ok h => exact hnext _ _ h

/-- What is made of related results at the end may be related otherwise. -/
theorem map {f : α → α'} {g : β → β'} (h : Alike R x y) (hmap : ∀ a b, R a b → S (f a) (g b)) :
    Alike S (x.map f) (y.map g) := by
  cases h with
  | error e => exact .error e
  | ok h => exact .ok (hmap _ _ h)

theorem exists_of_ok {a : α} (h : Alike R (.ok a) y) : ∃ b, y = .ok b ∧ R a b := by
  cases h with
  | ok h => exact ⟨_, rfl, h⟩

end Alike

/-! ## Tables of texts -/

namespace Settings

variable {key name text : String} {table xs ys : Table} {texts : List (String × String)}

/-- The texts stand under the names of the table. -/
theorem names_textsOf (h : textsOf key table = .ok texts) :
    texts.map Prod.fst = table.map Prod.fst := by
  induction table generalizing texts with
  | nil =>
    cases h
    rfl
  | cons m rest ih =>
    obtain ⟨n, v⟩ := m
    rw [textsOf] at h
    simp only [bind_eq_ok_iff] at h
    obtain ⟨t, -, ts, hts, h⟩ := h
    cases h
    rw [List.map_cons, List.map_cons, ih hts]

theorem textsOf_append : textsOf key (xs ++ ys) = (do
    let ts ← textsOf key xs
    let us ← textsOf key ys
    return ts ++ us) := by
  induction xs with
  | nil =>
    rw [List.nil_append, textsOf]
    exact (bind_pure (textsOf key ys)).symm
  | cons m rest ih =>
    obtain ⟨n, v⟩ := m
    rw [List.cons_append, textsOf, textsOf, ih]
    simp only [bind_assoc, pure_bind, List.cons_append]

/-- A text in a table is read wherever it stands. -/
theorem textsOf_append_cons : textsOf key (xs ++ (name, .string text) :: ys) = (do
    let ts ← textsOf key xs
    let us ← textsOf key ys
    return ts ++ (name, text) :: us) := by
  rw [textsOf_append, textsOf]
  simp only [bind_assoc, pure_bind]
  rfl

/-- A table of texts is read as its texts. -/
theorem field_asTexts (h : Json.Members.find? table key = some (.object xs)) :
    table.field asTexts key = (textsOf key xs).map some := by
  unfold Table.field
  rw [h]
  rfl

/-- Where texts are read, an object stands. -/
theorem exists_of_asTexts (h : table.field asTexts key = .ok (some texts)) :
    ∃ entries, Json.Members.find? table key = some (.object entries) ∧
      textsOf key entries = .ok texts := by
  unfold Table.field at h
  cases hfind : Json.Members.find? table key with
  | none =>
    rw [hfind] at h
    cases h
  | some value =>
    rw [hfind] at h
    cases value with
    | object entries =>
      refine ⟨entries, rfl, ?_⟩
      simp only [asTexts] at h
      cases hread : textsOf key entries with
      | error fault =>
        rw [hread] at h
        cases h
      | ok texts' =>
        rw [hread] at h
        cases h
        rfl
    | null | bool | integer | float | string | array => cases h

/-- **An entry more in a table is an entry more among its texts.** -/
theorem textsOf_withEntry (key : String) {t t' : Table} (h : WithEntry name (.string text) t t') :
    Alike (fun texts texts' => name ∉ texts'.map Prod.fst ∧
        Host.ByName.ofList texts = Host.ByName.insert name text (Host.ByName.ofList texts'))
      (textsOf key t) (textsOf key t') := by
  obtain ⟨xs, ys, rfl, rfl, hout⟩ := h
  rw [textsOf_append_cons, textsOf_append]
  refine (Alike.self (textsOf key xs)).bind ?_
  rintro ts _ ⟨rfl, hts⟩
  refine (Alike.self (textsOf key ys)).bind ?_
  rintro us _ ⟨rfl, hus⟩
  have hout' : name ∉ (ts ++ us).map Prod.fst := by
    rw [List.map_append, names_textsOf hts, names_textsOf hus, ← List.map_append]
    exact hout
  exact .ok ⟨hout', Host.ByName.ofList_append_cons hout'⟩

end Settings

namespace Host

/-! ## Steps -/

variable {text : String} {d : Draft} {s : Snapshot} {members : Json.Members}

/-- The settings of an object make a draft, or one of them is of the wrong kind. -/
theorem reading_of_object (h : Json.read text = .ok (.object members)) :
    Reading.of text = match Draft.ofTable (Settings.Table.ofMembers members) with
      | .error fault => .illTyped (.illTyped fault)
      | .ok d => .draft d := by
  unfold Reading.of
  rw [h]
  rfl

theorem reading_eq_draft_iff : Reading.of text = .draft d ↔
    ∃ members, Json.read text = .ok (.object members) ∧
      Draft.ofTable (Settings.Table.ofMembers members) = .ok d := by
  constructor
  · intro h
    unfold Reading.of at h
    split at h
    case h_1 => cases h
    case h_2 value hread =>
      cases value with
      | object members =>
        simp only [tableOf] at h
        refine ⟨members, hread, ?_⟩
        split at h
        · cases h
        · cases h
          assumption
      | null | bool | integer | float | string | array => cases h
  · rintro ⟨members, hread, hdraft⟩
    rw [reading_of_object hread, hdraft]

/-- **A document is accepted if it makes a draft and the draft is valid.** -/
theorem readDocument_eq_ok_iff : readDocument text = .ok s ↔
    ∃ d, Reading.of text = .draft d ∧ d.validate = .ok s := by
  unfold readDocument
  cases Reading.of text with
  | unreadable fault => exact iff_of_false nofun fun ⟨_, h, _⟩ => nomatch h
  | illTyped fault => exact iff_of_false nofun fun ⟨_, h, _⟩ => nomatch h
  | draft d =>
    constructor
    · exact fun h => ⟨d, rfl, h⟩
    · rintro ⟨_, ⟨⟩, h⟩
      exact h

/-- A draft holds what its settings are read as. -/
theorem ofTable_eq_ok_iff {table : Settings.Table} : Draft.ofTable table = .ok d ↔
    table.field Settings.asText Field.exeSuffix.name = .ok d.exeSuffix ∧
    table.field Settings.asText Field.scripts.name = .ok d.scripts ∧
    (∃ texts, table.field Settings.asTexts Field.schemes.name = .ok texts ∧
      d.schemes = texts.map ByName.ofList) ∧
    table.field Settings.asText Field.preferredUserScheme.name = .ok d.preferredUserScheme ∧
    table.field Settings.asText Field.osName.name = .ok d.osName ∧
    table.field Settings.asText Field.platform.name = .ok d.platform ∧
    table.field Settings.asFlag Field.framework.name = .ok d.framework ∧
    table.field Settings.asText Field.packageDir.name = .ok d.packageDir := by
  unfold Draft.ofTable
  simp only [bind_eq_ok_iff]
  constructor
  · rintro ⟨suffix, hsuffix, scripts, hscripts, texts, htexts, preferred, hpref, osName, hos,
      platform, hplat, framework, hframe, packageDir, hdir, h⟩
    cases h
    exact ⟨hsuffix, hscripts, ⟨texts, htexts, rfl⟩, hpref, hos, hplat, hframe, hdir⟩
  · obtain ⟨suffix, scripts, schemes, preferred, osName, platform, framework, packageDir⟩ := d
    rintro ⟨hsuffix, hscripts, ⟨texts, htexts, rfl⟩, hpref, hos, hplat, hframe, hdir⟩
    exact ⟨suffix, hsuffix, scripts, hscripts, texts, htexts, preferred, hpref, osName, hos,
      platform, hplat, framework, hframe, packageDir, hdir, rfl⟩

/-- The schemes of a draft are the texts of the table that stands there. -/
theorem schemes_of_ofTable {table : Settings.Table} {entries : ByName String}
    (h : Draft.ofTable table = .ok d) (hschemes : d.schemes = some entries) :
    ∃ t texts, Json.Members.find? table Field.schemes.name = some (.object t) ∧
      Settings.textsOf Field.schemes.name t = .ok texts ∧ entries = ByName.ofList texts := by
  obtain ⟨-, -, ⟨texts, htexts, hlist⟩, -⟩ := ofTable_eq_ok_iff.mp h
  rw [hschemes] at hlist
  obtain ⟨texts', rfl, hentries⟩ := Option.map_eq_some_iff.mp hlist.symm
  obtain ⟨t, hfind, hread⟩ := Settings.exists_of_asTexts htexts
  exact ⟨t, texts', hfind, hread, hentries.symm⟩

/-- A table of schemes makes the schemes of a draft. -/
theorem schemes_of_find? {table t : Settings.Table}
    (hfind : Json.Members.find? table Field.schemes.name = some (.object t))
    (h : Draft.ofTable table = .ok d) :
    ∃ texts, Settings.textsOf Field.schemes.name t = .ok texts ∧
      d.schemes = some (ByName.ofList texts) := by
  obtain ⟨-, -, ⟨texts, htexts, hschemes⟩, -⟩ := ofTable_eq_ok_iff.mp h
  rw [Settings.field_asTexts hfind] at htexts
  cases hread : Settings.textsOf Field.schemes.name t with
  | error fault =>
    rw [hread] at htexts
    cases htexts
  | ok texts' =>
    rw [hread] at htexts
    cases htexts
    exact ⟨texts', rfl, hschemes⟩

/-! ## Directories -/

/-- A text stands for one path only. -/
theorem StandsFor.unique {path path' : Path} (h : StandsFor text path) (h' : StandsFor text path') :
    path = path' :=
  Except.ok.inj ((Base64.decode_eq_ok_iff.mpr h).symm.trans (Base64.decode_eq_ok_iff.mpr h'))

theorem encodeChars_eq_nil_iff {cs : List Char} : Text.encodeChars cs = [] ↔ cs = [] := by
  cases cs with
  | nil => exact iff_of_true rfl rfl
  | cons c cs =>
    rw [Text.encodeChars_cons, List.append_eq_nil_iff]
    exact iff_of_false (fun h => String.utf8EncodeChar_ne_nil h.1) (List.cons_ne_nil c cs)

/-- Blanks stand for the empty path, and nothing else does. -/
theorem standsFor_nil_iff : StandsFor text [] ↔ Blank text := by
  unfold StandsFor Blank Text.encode
  rw [show Base64.encode [] = [] from rfl, encodeChars_eq_nil_iff, String.toList_eq_nil_iff]

/-- The schemes of a draft that was read are in the order of their names. -/
theorem sorted_schemes {table : Settings.Table} (h : Draft.ofTable table = .ok d) :
    ByName.Sorted (d.schemes.getD []) := by
  obtain ⟨-, -, ⟨texts, -, hschemes⟩, -⟩ := ofTable_eq_ok_iff.mp h
  rw [hschemes]
  cases texts with
  | none => exact List.Pairwise.nil
  | some texts => exact ByName.ofList_sorted texts

/-- Related lists have a related element for each of their own. -/
theorem exists_of_forall₂ {α β : Type} {R : α → β → Prop} {xs : List α} {ys : List β}
    (h : List.Forall₂ R xs ys) :
    (∀ x ∈ xs, ∃ y ∈ ys, R x y) ∧ ∀ y ∈ ys, ∃ x ∈ xs, R x y := by
  induction h with
  | nil => exact ⟨List.forall_mem_nil _, List.forall_mem_nil _⟩
  | cons hhead _ ih =>
    refine ⟨List.forall_mem_cons.mpr ⟨⟨_, List.mem_cons_self, hhead⟩, fun x hx => ?_⟩,
      List.forall_mem_cons.mpr ⟨⟨_, List.mem_cons_self, hhead⟩, fun y hy => ?_⟩⟩
    · obtain ⟨y, hy, hR⟩ := ih.1 x hx
      exact ⟨y, List.mem_cons_of_mem _ hy, hR⟩
    · obtain ⟨x, hx, hR⟩ := ih.2 y hy
      exact ⟨x, List.mem_cons_of_mem _ hx, hR⟩

/-- **The directory of a scheme is the one that the entry of the scheme stands for**, unless the
    entry is empty. -/
theorem find?_schemes_eq_some_iff {name : String} {path : Path} (hvalid : d.validate = .ok s)
    (hsorted : ByName.Sorted (d.schemes.getD [])) :
    s.schemes.find? name = some path ↔
      ∃ t, (d.schemes.getD []).find? name = some t ∧ t ≠ "" ∧ StandsFor t path := by
  obtain ⟨-, -, -, -, -, hschemes, -⟩ := validate_eq_ok_iff_steps.mp hvalid
  obtain ⟨hleft, hright⟩ := exists_of_forall₂ hschemes
  have hnames : s.schemes.map Prod.fst
      = ((d.schemes.getD []).filter fun e => e.2 ≠ "").map Prod.fst := by
    rw [← List.forall₂_eq_eq_eq, List.forall₂_map_left_iff, List.forall₂_map_right_iff]
    exact hschemes.flip.imp fun e e' h => h.1.symm
  have hnodup : (s.schemes.map Prod.fst).Nodup :=
    hnames ▸ (ByName.Sorted.nodup (hsorted.filter _))
  have hfound : s.schemes.find? name = some path ↔ (name, path) ∈ s.schemes :=
    findNamed_eq_some_iff hnodup
  have hgiven : ∀ t, (d.schemes.getD []).find? name = some t ↔ (name, t) ∈ d.schemes.getD [] :=
    fun t => findNamed_eq_some_iff hsorted.nodup
  simp only [hfound, hgiven]
  constructor
  · intro hmem
    obtain ⟨⟨n, t⟩, ht, hname, hstands⟩ := hright _ hmem
    cases hname
    obtain ⟨ht, hne⟩ := List.mem_filter.mp ht
    exact ⟨t, ht, of_decide_eq_true hne, hstands⟩
  · rintro ⟨t, ht, hne, hstands⟩
    obtain ⟨⟨n, path'⟩, hmem, hname, hstands'⟩ :=
      hleft (name, t) (List.mem_filter.mpr ⟨ht, decide_eq_true hne⟩)
    cases hname
    rwa [hstands.unique hstands']

end Host

end Handover
