/-
  What is of the wrong kind in a table of settings, and how little the order of the table matters.

  `Draft.ofTable` stops at the first setting that holds another kind of value than was expected.

  1. **Tables of texts** — a table of texts is read entry by entry (`textsOf_eq_ok_iff`), so its
     entries in another order are the same texts in another order (`textsOf_perm`), and the same
     draft of the schemes (`ByName.ofList_eq_of_perm`).
  2. **Faults** — `Draft.typeFaults` lists everything that is of the wrong kind, entry by entry
     where the schemes are a table, and does not stop at the first; reading fails with the first of
     the list (`firstOf_ofTable`, setting by setting as in `firstOf_validate`).
  3. **The same settings** — tables have the same settings if they hold the same under each name,
     the schemes in any order (`SameSettings`).  Such tables make the same draft
     (`SameSettings.ofTable`), and the same things in them are of the wrong kind
     (`SameSettings.typeFaults_perm`).  So they are read alike, except that of several type faults
     either may name another one (`SameSettings.ofTable_eq_or`, `SameSettings.ofTable_eq`).
-/
import Mathlib.Data.List.Perm.Basic
import Handover.Proofs.Documents
import Handover.Proofs.RoundTrip

namespace Handover

/-! ## Tables of texts -/

namespace Settings

variable {key : String} {table table' : Table} {texts : List (String × String)}

/-- A table of texts is read entry by entry. -/
theorem textsOf_eq_ok_iff : textsOf key table = .ok texts ↔
    List.Forall₂ (fun m t => m.1 = t.1 ∧ asText (memberKey key m.1) m.2 = .ok t.2) table texts := by
  induction table generalizing texts with
  | nil =>
    rw [textsOf, List.forall₂_nil_left_iff]
    exact ⟨fun h => (by cases h; rfl), fun h => (by rw [h])⟩
  | cons m rest ih =>
    obtain ⟨name, value⟩ := m
    rw [textsOf, List.forall₂_cons_left_iff]
    simp only [bind_eq_ok_iff, ih]
    constructor
    · rintro ⟨text, htext, texts', htexts, h⟩
      cases h
      exact ⟨(name, text), texts', ⟨rfl, htext⟩, htexts, rfl⟩
    · rintro ⟨⟨name', text⟩, texts', ⟨hname, htext⟩, htexts, rfl⟩
      cases hname
      exact ⟨text, htext, texts', htexts, rfl⟩

/-- Entries in another order are the same texts in another order. -/
theorem textsOf_perm (hperm : table.Perm table') (h : textsOf key table = .ok texts) :
    ∃ texts', textsOf key table' = .ok texts' ∧ texts.Perm texts' := by
  obtain ⟨texts', hread, hsame⟩ := List.perm_comp_forall₂ hperm.symm (textsOf_eq_ok_iff.mp h)
  exact ⟨texts', textsOf_eq_ok_iff.mpr hread, hsame.symm⟩

end Settings

namespace Host

open Settings (Table TypeFault asText asTexts asFlag memberKey textsOf)
open Json.Members (find?)

/-! ## Faults -/

/-- The fault that a reading ends with, if it fails. -/
def faultsOf {ε α : Type} : Except ε α → List ε
  | .ok _ => []
  | .error e => [e]

theorem firstOf_faultsOf {ε α : Type} (x : Except ε α) : FirstOf x (faultsOf x) := by
  cases x with
  | ok a => exact .ok a
  | error e => exact .error e

/-- The faults of a table of texts, in the order of its entries. -/
def entryFaults (key : String) (entries : Table) : List TypeFault :=
  entries.flatMap fun m => faultsOf (asText (memberKey key m.1) m.2)

theorem firstOf_textsOf (key : String) (entries : Table) :
    FirstOf (textsOf key entries) (entryFaults key entries) := by
  induction entries with
  | nil => exact .ok []
  | cons m rest ih =>
    obtain ⟨name, value⟩ := m
    rw [textsOf, entryFaults, List.flatMap_cons]
    exact (firstOf_faultsOf _).bind fun text _ => ih.map

/-- The faults of the schemes: those of the entries, or that there is no table of entries. -/
def schemeFaults (table : Table) : List TypeFault :=
  match find? table Field.schemes.name with
  | some (.object entries) => entryFaults Field.schemes.name entries
  | _ => faultsOf (table.field asTexts Field.schemes.name)

theorem schemeFaults_of_object {table entries : Table}
    (h : find? table Field.schemes.name = some (.object entries)) :
    schemeFaults table = entryFaults Field.schemes.name entries := by
  unfold schemeFaults
  rw [h]

theorem firstOf_schemes (table : Table) :
    FirstOf (table.field asTexts Field.schemes.name) (schemeFaults table) := by
  unfold schemeFaults
  split
  case h_1 entries hfind =>
    have hmap : table.field asTexts Field.schemes.name
        = (textsOf Field.schemes.name entries >>= fun texts => pure (some texts)) := by
      rw [Settings.field_asTexts hfind]
      cases textsOf Field.schemes.name entries with
      | ok texts => rfl
      | error fault => rfl
    rw [hmap]
    exact (firstOf_textsOf _ _).map
  case h_2 => exact firstOf_faultsOf _

/-- Everything in a table that is of the wrong kind, in the order in which a draft is read. -/
def Draft.typeFaults (table : Table) : List TypeFault :=
  faultsOf (table.field asText Field.exeSuffix.name)
  ++ (faultsOf (table.field asText Field.scripts.name)
  ++ (schemeFaults table
  ++ (faultsOf (table.field asText Field.preferredUserScheme.name)
  ++ (faultsOf (table.field asText Field.osName.name)
  ++ (faultsOf (table.field asText Field.platform.name)
  ++ (faultsOf (table.field asFlag Field.framework.name)
  ++ faultsOf (table.field asText Field.packageDir.name)))))))

/-- Reading a draft fails with the first type fault of the table. -/
theorem firstOf_ofTable (table : Table) :
    FirstOf (Draft.ofTable table) (Draft.typeFaults table) := by
  unfold Draft.ofTable Draft.typeFaults
  -- Setting by setting: the faults of a setting come first in what is left of the list.
  refine (firstOf_faultsOf _).bind fun _ _ => ?_
  refine (firstOf_faultsOf _).bind fun _ _ => ?_
  refine (firstOf_schemes table).bind fun _ _ => ?_
  refine (firstOf_faultsOf _).bind fun _ _ => ?_
  refine (firstOf_faultsOf _).bind fun _ _ => ?_
  refine (firstOf_faultsOf _).bind fun _ _ => ?_
  refine (firstOf_faultsOf _).bind fun _ _ => ?_
  exact (firstOf_faultsOf _).map

/-! ## The same settings -/

/-- The tables hold the same under the name of each setting; the schemes may be in any order. -/
structure SameSettings (t t' : Table) : Prop where
  other : ∀ key ∈ Description.names, key ≠ Field.schemes.name → find? t key = find? t' key
  schemes : find? t Field.schemes.name = find? t' Field.schemes.name ∨
    ∃ entries entries', find? t Field.schemes.name = some (.object entries) ∧
      find? t' Field.schemes.name = some (.object entries') ∧
      entries.Perm entries' ∧ (entries.map Prod.fst).Nodup

namespace SameSettings

variable {t t' : Table} {d d' : Draft}

/-- A setting other than the schemes is read alike. -/
theorem field (h : SameSettings t t') {α : Type} (read : String → Json → Except TypeFault α)
    {f : Field} (hf : f.name ∈ Description.names ∧ f.name ≠ Field.schemes.name) :
    t.field read f.name = t'.field read f.name :=
  Settings.field_congr (h.other f.name hf.1 hf.2) read

/-- The schemes are read in both or in neither, and are the same once they are in the order of their
    names. -/
theorem exists_schemes (h : SameSettings t t') {texts : Option (List (String × String))}
    (hread : t.field asTexts Field.schemes.name = .ok texts) :
    ∃ texts', t'.field asTexts Field.schemes.name = .ok texts' ∧
      texts.map ByName.ofList = texts'.map ByName.ofList := by
  rcases h.schemes with hsame | ⟨entries, entries', hfind, hfind', hperm, hnodup⟩
  · rw [Settings.field_congr hsame] at hread
    exact ⟨texts, hread, rfl⟩
  · rw [Settings.field_asTexts hfind] at hread
    rw [Settings.field_asTexts hfind']
    cases hlist : textsOf Field.schemes.name entries with
    | error fault =>
      rw [hlist] at hread
      cases hread
    | ok list =>
      rw [hlist] at hread
      cases hread
      obtain ⟨list', hlist', hsame⟩ := Settings.textsOf_perm hperm hlist
      have hnames : (list.map Prod.fst).Nodup := Settings.names_textsOf hlist ▸ hnodup
      refine ⟨some list', ?_, congrArg some (ByName.ofList_eq_of_perm hsame hnames)⟩
      rw [hlist']
      rfl

/-- **A draft that one table makes the other makes too.** -/
theorem ofTable (h : SameSettings t t') (hd : Draft.ofTable t = .ok d) :
    Draft.ofTable t' = .ok d := by
  obtain ⟨hexe, hscripts, ⟨texts, htexts, hschemes⟩, hpref, hos, hplat, hframe, hdir⟩ :=
    ofTable_eq_ok_iff.mp hd
  obtain ⟨texts', htexts', hsame⟩ := h.exists_schemes htexts
  rw [h.field asText (by decide)] at hexe hscripts hpref hos hplat hdir
  rw [h.field asFlag (by decide)] at hframe
  exact ofTable_eq_ok_iff.mpr ⟨hexe, hscripts, ⟨texts', htexts', hschemes.trans hsame⟩, hpref, hos,
    hplat, hframe, hdir⟩

theorem schemeFaults_perm (h : SameSettings t t') :
    (schemeFaults t).Perm (schemeFaults t') := by
  rcases h.schemes with hsame | ⟨entries, entries', hfind, hfind', hperm, -⟩
  · unfold schemeFaults
    rw [hsame, Settings.field_congr hsame]
  · rw [schemeFaults_of_object hfind, schemeFaults_of_object hfind']
    exact hperm.flatMap_right _

/-- **The same things are of the wrong kind in both tables.** -/
theorem typeFaults_perm (h : SameSettings t t') :
    (Draft.typeFaults t).Perm (Draft.typeFaults t') := by
  unfold Draft.typeFaults
  rw [h.field asText (f := .exeSuffix) (by decide), h.field asText (f := .scripts) (by decide),
    h.field asText (f := .preferredUserScheme) (by decide),
    h.field asText (f := .osName) (by decide), h.field asText (f := .platform) (by decide),
    h.field asFlag (f := .framework) (by decide), h.field asText (f := .packageDir) (by decide)]
  exact (List.Perm.refl _).append ((List.Perm.refl _).append
    (h.schemeFaults_perm.append (List.Perm.refl _)))

/-- Tables with the same settings are read alike, or something in them is of the wrong kind and each
    is refused for such a thing. -/
theorem ofTable_eq_or (h : SameSettings t t') :
    Draft.ofTable t = Draft.ofTable t' ∨
      ∃ f ∈ Draft.typeFaults t, ∃ f' ∈ Draft.typeFaults t,
        Draft.ofTable t = .error f ∧ Draft.ofTable t' = .error f' := by
  cases hfirst : Draft.ofTable t with
  | ok d => exact Or.inl (h.ofTable hfirst).symm
  | error f =>
    have hf : f ∈ Draft.typeFaults t := (firstOf_ofTable t).mem_of_error hfirst
    cases hsecond : Draft.ofTable t' with
    | ok d =>
      -- Where one table has a fault the other has it too.
      have hnil : Draft.typeFaults t' = [] := (firstOf_ofTable t').eq_nil_iff.mpr ⟨d, hsecond⟩
      have hf' : f ∈ Draft.typeFaults t' := h.typeFaults_perm.mem_iff.mp hf
      rw [hnil] at hf'
      cases hf'
    | error f' =>
      have hf' : f' ∈ Draft.typeFaults t' := (firstOf_ofTable t').mem_of_error hsecond
      exact Or.inr ⟨f, hf, f', h.typeFaults_perm.mem_iff.mpr hf', rfl, rfl⟩

/-- Where at most one thing is of the wrong kind, the tables are read alike. -/
theorem ofTable_eq (h : SameSettings t t') (hone : (Draft.typeFaults t).length ≤ 1) :
    Draft.ofTable t = Draft.ofTable t' := by
  rcases h.ofTable_eq_or with heq | ⟨f, hf, f', hf', hfirst, hsecond⟩
  · exact heq
  · have hsame : f = f' := by
      cases hlist : Draft.typeFaults t with
      | nil =>
        rw [hlist] at hf
        cases hf
      | cons g rest =>
        rw [hlist, List.length_cons] at hone
        have hrest : rest = [] := List.eq_nil_of_length_eq_zero (by omega)
        rw [hlist, hrest, List.mem_singleton] at hf hf'
        exact hf.trans hf'.symm
    rw [hfirst, hsecond, hsame]

end SameSettings

end Host

end Handover
