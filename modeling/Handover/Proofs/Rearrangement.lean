/-
  A document may be rearranged.

  What a host reports does not depend on the order in which it writes its members, on capitals in
  their names, or on members that are none of the report.  Which documents say the same is told in
  two ways, and the first is shown to be a case of the second:

  1. **Names** — a name without a dot and without a bracket spells no path, it is folded and that is
     all (`ofName_of_plain`); folding brings no dot and no bracket in (`plainName_congr`).
  2. **Edits** — `Edit` says what one change to a document may be, `Relation.ReflTransGen Edit` what
     several may.
  3. **The same members** — `SameKnown` compares the members that lead to a setting, up to their
     order, and looks at nothing else.  One edit keeps it (`Edit.sameKnown`, one case a kind of
     edit), hence so do any number of them (`sameKnown_of_edits`, by induction on the edits).
  4. **Tables** — a document is *unambiguous* if it spells no path and no two of its names fold to
     one.  Each setting then comes from one member of it, so documents of which one is unambiguous
     and that have the same members have the same settings (`SameKnown.sameSettings`).  Only the
     document one starts from must be unambiguous.
  5. **Documents** — `rearranged_alike`.  Each entry of the schemes counts for itself there, and a
     path counts for the setting that it leads to (`each_entry_counts`).
-/
import Mathlib.Data.List.TakeDrop
import Mathlib.Logic.Relation
import Handover.Proofs.LowerCase
import Handover.Proofs.TypeFaults

namespace Handover

/-! ## Names -/

namespace Settings

/-- A name that spells no path, whatever else is in it. -/
def PlainName (name : String) : Prop := '.' ∉ name.toList ∧ '[' ∉ name.toList

instance (name : String) : Decidable (PlainName name) := inferInstanceAs (Decidable (_ ∧ _))

/-- No steps are read where no dot and no bracket stands. -/
theorem readSteps_of_plain {fuel : Nat} {c : Char} {cs : List Char} (hdot : c ≠ '.')
    (hbracket : c ≠ '[') : readSteps fuel (c :: cs) = none := by
  cases fuel with
  | zero => rfl
  | succ fuel =>
    unfold readSteps
    split
    case h_1 h => cases h
    case h_2 => rfl
    case h_3 h =>
      cases h
      exact absurd rfl hdot
    case h_4 h =>
      cases h
      exact absurd rfl hbracket
    case h_5 => rfl

/-- **A plain name goes where its lower-case form says.** -/
theorem ofName_of_plain {name : String} (h : PlainName name) :
    KeyPath.ofName name = ⟨Text.lower name, []⟩ := by
  have hsplit : name.toList.takeWhile isIdentifierChar ++ name.toList.dropWhile isIdentifierChar
      = name.toList := List.takeWhile_append_dropWhile
  unfold KeyPath.ofName KeyPath.read? readIdentifier
  rw [List.span_eq_takeWhile_dropWhile]
  cases hroot : name.toList.takeWhile isIdentifierChar with
  | nil => rfl
  | cons r rs =>
    cases hrest : name.toList.dropWhile isIdentifierChar with
    | nil =>
      rw [hroot, hrest, List.append_nil] at hsplit
      have hname : String.ofList (r :: rs) = name := by rw [hsplit, String.ofList_toList]
      rw [← hname]
      rfl
    | cons c cs =>
      -- What is left over begins with a sign that starts no step, so the name is no path at all.
      have hmem : c ∈ name.toList := by
        rw [← hsplit, hrest]
        exact List.mem_append_right _ List.mem_cons_self
      have hdot : c ≠ '.' := fun hc => h.1 (hc ▸ hmem)
      have hbracket : c ≠ '[' := fun hc => h.2 (hc ▸ hmem)
      show ((readSteps (c :: cs).length (c :: cs)).bind _).getD _ = _
      rw [readSteps_of_plain hdot hbracket]
      rfl

/-- Names that fold to one are both plain or both not. -/
theorem plainName_congr {name name' : String} (h : Text.lower name = Text.lower name') :
    PlainName name ↔ PlainName name' := by
  have hsigns : Text.Fixed '.' ∧ Text.Fixed '[' := by decide +kernel
  unfold PlainName
  rw [← Text.mem_lower_iff hsigns.1, ← Text.mem_lower_iff hsigns.2, h, Text.mem_lower_iff hsigns.1,
    Text.mem_lower_iff hsigns.2]

end Settings

namespace Host

open Settings (KeyPath PlainName Table folded leadsTo ofName_of_plain plainName_congr)
open Json.Members (find?)

/-! ## Edits -/

/-- A member of this name leads to none of the settings of a report. -/
def Elsewhere (name : String) : Prop := (KeyPath.ofName name).root ∉ Description.names

/-- A plain name leads to none of the settings if it folds to none of their names. -/
theorem elsewhere_of_plain {name : String} (hplain : PlainName name)
    (h : Text.lower name ∉ Description.names) : Elsewhere name := by
  unfold Elsewhere
  rw [ofName_of_plain hplain]
  exact h

/-- A change to a document that leaves what it says of the settings. -/
inductive Edit : Json.Members → Json.Members → Prop where
  /-- The members change places. -/
  | permute {members members' : Json.Members} (h : members.Perm members') : Edit members members'
  /-- The entries of the schemes change places. -/
  | permuteSchemes {before after entries entries' : Json.Members} {name : String}
      (hname : Text.lower name = Field.schemes.name) (h : entries.Perm entries') :
      Edit (before ++ (name, .object entries) :: after)
        (before ++ (name, .object entries') :: after)
  /-- A plain name is written with other capitals. -/
  | respell {before after : Json.Members} {name name' : String} {value : Json}
      (hname : PlainName name) (h : Text.lower name' = Text.lower name) :
      Edit (before ++ (name, value) :: after) (before ++ (name', value) :: after)
  /-- A member is added that leads to no setting. -/
  | add {before after : Json.Members} {name : String} {value : Json} (h : Elsewhere name) :
      Edit (before ++ after) (before ++ (name, value) :: after)
  /-- A member is removed that leads to no setting. -/
  | remove {before after : Json.Members} {name : String} {value : Json} (h : Elsewhere name) :
      Edit (before ++ (name, value) :: after) (before ++ after)

/-! ## The same members -/

/-- The member leads to a setting of a report. -/
def isKnown (m : String × Json) : Bool := decide ((KeyPath.ofName m.1).root ∈ Description.names)

/-- The members lead to one place and hold the same; the schemes may hold their entries in another
    order. -/
def SameMember (m m' : String × Json) : Prop :=
  KeyPath.ofName m.1 = KeyPath.ofName m'.1 ∧
    (m.2 = m'.2 ∨ KeyPath.ofName m.1 = ⟨Field.schemes.name, []⟩ ∧
      ∃ entries entries', m.2 = .object entries ∧ m'.2 = .object entries' ∧ entries.Perm entries')

theorem SameMember.refl (m : String × Json) : SameMember m m := ⟨rfl, Or.inl rfl⟩

theorem SameMember.trans {m m' m'' : String × Json} (h : SameMember m m') (h' : SameMember m' m'') :
    SameMember m m'' := by
  obtain ⟨hname, hvalue⟩ := h
  obtain ⟨hname', hvalue'⟩ := h'
  refine ⟨hname.trans hname', ?_⟩
  rcases hvalue with hvalue | ⟨hschemes, xs, ys, hxs, hys, hperm⟩
  · rw [hname, hvalue]
    exact hvalue'
  · rcases hvalue' with hvalue' | ⟨-, ys', zs, hys', hzs, hperm'⟩
    · exact Or.inr ⟨hschemes, xs, ys, hxs, hvalue' ▸ hys, hperm⟩
    · rw [hys] at hys'
      cases hys'
      exact Or.inr ⟨hschemes, xs, zs, hxs, hzs, hperm.trans hperm'⟩

theorem SameMember.forall₂_trans {xs ys zs : Json.Members} (h : List.Forall₂ SameMember xs ys)
    (h' : List.Forall₂ SameMember ys zs) : List.Forall₂ SameMember xs zs := by
  induction h generalizing zs with
  | nil =>
    cases h'
    exact .nil
  | cons hhead _ ih =>
    cases h' with
    | cons hhead' htail' => exact .cons (hhead.trans hhead') (ih htail')

/-- The documents have the same members that lead to settings, in whatever order. -/
def SameKnown (members members' : Json.Members) : Prop :=
  ∃ list, List.Forall₂ SameMember (members.filter isKnown) list ∧
    list.Perm (members'.filter isKnown)

namespace SameKnown

variable {members members' members'' before after : Json.Members} {m m' : String × Json}

theorem of_perm (h : (members.filter isKnown).Perm (members'.filter isKnown)) :
    SameKnown members members' :=
  ⟨_, List.forall₂_same.mpr fun m _ => .refl m, h⟩

/-- One member may give way to one that says the same. -/
theorem replace (h : SameMember m m') :
    SameKnown (before ++ m :: after) (before ++ m' :: after) := by
  have hknown : isKnown m = isKnown m' := by
    unfold isKnown
    rw [h.1]
  have hsame : ∀ members : Json.Members, List.Forall₂ SameMember members members :=
    fun members => List.forall₂_same.mpr fun m _ => .refl m
  refine ⟨_, ?_, List.Perm.refl _⟩
  rw [List.filter_append, List.filter_append]
  refine List.rel_append (hsame _) ?_
  by_cases hm : isKnown m = true
  · rw [List.filter_cons_of_pos hm, List.filter_cons_of_pos (hknown ▸ hm)]
    exact .cons h (hsame _)
  · rw [List.filter_cons_of_neg hm, List.filter_cons_of_neg (hknown ▸ hm)]
    exact hsame _

theorem trans (h : SameKnown members members') (h' : SameKnown members' members'') :
    SameKnown members members'' := by
  obtain ⟨list, hsame, hperm⟩ := h
  obtain ⟨list', hsame', hperm'⟩ := h'
  -- What the second comparison says of the members holds of them in the order of the first.
  obtain ⟨middle, hmiddle, hmiddle'⟩ := List.perm_comp_forall₂ hperm hsame'
  exact ⟨middle, SameMember.forall₂_trans hsame hmiddle, hmiddle'.trans hperm'⟩

end SameKnown

variable {members members' : Json.Members}

theorem not_isKnown_of_elsewhere {name : String} {value : Json} (h : Elsewhere name) :
    ¬ isKnown (name, value) = true := by
  unfold isKnown
  rw [decide_eq_true_iff]
  exact h

/-- **One edit keeps the members that lead to settings.** -/
theorem Edit.sameKnown (h : Edit members members') : SameKnown members members' := by
  cases h with
  | permute h => exact .of_perm (h.filter _)
  | permuteSchemes hname h =>
    have hplain : PlainName Field.schemes.name := by decide
    have hlower : Text.lower Field.schemes.name = Field.schemes.name := by decide +kernel
    have hpath := ofName_of_plain ((plainName_congr (hname.trans hlower.symm)).mpr hplain)
    rw [hname] at hpath
    exact .replace ⟨rfl, Or.inr ⟨hpath, _, _, rfl, rfl, h⟩⟩
  | respell hname h =>
    refine .replace ⟨?_, Or.inl rfl⟩
    rw [ofName_of_plain hname, ofName_of_plain ((plainName_congr h).mpr hname), h]
  | add h =>
    refine .of_perm ?_
    rw [List.filter_append, List.filter_append,
      List.filter_cons_of_neg (not_isKnown_of_elsewhere h)]
  | remove h =>
    refine .of_perm ?_
    rw [List.filter_append, List.filter_append,
      List.filter_cons_of_neg (not_isKnown_of_elsewhere h)]

/-- **Any number of edits keep the members that lead to settings.** -/
theorem sameKnown_of_edits (h : Relation.ReflTransGen Edit members members') :
    SameKnown members members' := by
  -- Nothing is asked of the documents in between, which may be ambiguous.
  induction h with
  | refl => exact .of_perm (List.Perm.refl _)
  | tail _ hlast ih => exact ih.trans hlast.sameKnown

/-! ## Tables -/

/-- No name of the document spells a path, and no two names of one place fold to one. -/
structure Unambiguous (members : Json.Members) : Prop where
  plain : ∀ m ∈ members, PlainName m.1
  distinct : (members.map fun m => Text.lower m.1).Nodup
  /-- The names inside the schemes. -/
  schemes : ∀ m ∈ members, Text.lower m.1 = Field.schemes.name → ∀ entries, m.2 = .object entries →
    (entries.map fun e => Text.lower e.1).Nodup

/-- At most one member of an unambiguous document leads to a setting. -/
theorem Unambiguous.filter_leadsTo (h : Unambiguous members) (key : String) :
    members.filter (leadsTo key) = [] ∨
      ∃ m ∈ members, members.filter (leadsTo key) = [m] ∧ KeyPath.ofName m.1 = ⟨key, []⟩ := by
  have hpath : ∀ m ∈ members.filter (leadsTo key), m ∈ members ∧ Text.lower m.1 = key := by
    intro m hm
    obtain ⟨hmem, hleads⟩ := List.mem_filter.mp hm
    have hroot : (KeyPath.ofName m.1).root = key := by simpa [leadsTo] using hleads
    rw [ofName_of_plain (h.plain m hmem)] at hroot
    exact ⟨hmem, hroot⟩
  have hdistinct : ((members.filter (leadsTo key)).map fun m => Text.lower m.1).Nodup :=
    h.distinct.sublist (List.filter_sublist.map _)
  cases hlist : members.filter (leadsTo key) with
  | nil => exact Or.inl rfl
  | cons m rest =>
    rw [hlist] at hpath hdistinct
    obtain ⟨hmem, hlower⟩ := hpath m List.mem_cons_self
    have hrest : rest = [] := by
      -- A second member would fold to the same name.
      by_contra hne
      obtain ⟨m', hm'⟩ := List.exists_mem_of_ne_nil rest hne
      have hlower' := (hpath m' (List.mem_cons_of_mem _ hm')).2
      have htwice : Text.lower m.1 ∈ rest.map fun m => Text.lower m.1 :=
        List.mem_map.mpr ⟨m', hm', hlower'.trans hlower.symm⟩
      exact (List.nodup_cons.mp hdistinct).1 htwice
    refine Or.inr ⟨m, hmem, by rw [hrest], ?_⟩
    rw [ofName_of_plain (h.plain m hmem), hlower]

/-- What stands under a name to which one member leads. -/
theorem find?_of_one {m : String × Json} {key : String} (h : members.filter (leadsTo key) = [m])
    (hname : KeyPath.ofName m.1 = ⟨key, []⟩) :
    find? (Table.ofMembers members) key = some (folded m.2) := by
  rw [Settings.find?_ofMembers, h]
  unfold Settings.revisedBy
  rw [List.foldl_cons, List.foldl_nil, hname]
  cases m.2 with
  | object entries => rfl
  | null | bool | integer | float | string | array => rfl

/-- The members that lead to a setting are among those that lead to any. -/
theorem filter_leadsTo_known (members : Json.Members) {key : String}
    (h : key ∈ Description.names) :
    (members.filter isKnown).filter (leadsTo key) = members.filter (leadsTo key) := by
  rw [List.filter_filter]
  refine List.filter_congr fun m _ => ?_
  by_cases hleads : leadsTo key m = true
  · have hroot : (KeyPath.ofName m.1).root = key := by simpa [leadsTo] using hleads
    have hknown : isKnown m = true := decide_eq_true (hroot ▸ h)
    rw [hleads, hknown]
    rfl
  · rw [Bool.not_eq_true] at hleads
    rw [hleads, Bool.false_and]

/-- Of each setting the documents have the same members. -/
theorem SameKnown.filter_leadsTo (h : SameKnown members members') {key : String}
    (hkey : key ∈ Description.names) :
    ∃ list, List.Forall₂ SameMember (members.filter (leadsTo key)) list ∧
      list.Perm (members'.filter (leadsTo key)) := by
  obtain ⟨list, hsame, hperm⟩ := h
  refine ⟨list.filter (leadsTo key), ?_, ?_⟩
  · rw [← filter_leadsTo_known members hkey]
    refine List.rel_filter ?_ hsame
    intro m m' hm
    show leadsTo key m = true ↔ leadsTo key m' = true
    unfold leadsTo
    rw [hm.1]
  · rw [← filter_leadsTo_known members' hkey]
    exact hperm.filter _

/-- Under each name the documents have nothing, or what one member gives and one that says the
    same. -/
theorem SameKnown.find?_cases (h : SameKnown members members') (hone : Unambiguous members)
    {key : String} (hkey : key ∈ Description.names) :
    find? (Table.ofMembers members) key = find? (Table.ofMembers members') key ∨
      ∃ m ∈ members, ∃ m', KeyPath.ofName m.1 = ⟨key, []⟩ ∧ SameMember m m' ∧
        find? (Table.ofMembers members) key = some (folded m.2) ∧
        find? (Table.ofMembers members') key = some (folded m'.2) := by
  obtain ⟨list, hsame, hperm⟩ := h.filter_leadsTo hkey
  rcases hone.filter_leadsTo key with hnone | ⟨m, hmem, hsole, hname⟩
  · rw [hnone, List.forall₂_nil_left_iff] at hsame
    rw [hsame, List.nil_perm] at hperm
    exact Or.inl (Settings.find?_ofMembers_congr (hnone.trans hperm.symm))
  · -- A list with the one member up to order is that one member.
    rw [hsole, List.forall₂_cons_left_iff] at hsame
    obtain ⟨m', _, hm, hnil, rfl⟩ := hsame
    rw [List.forall₂_nil_left_iff] at hnil
    rw [hnil, List.singleton_perm] at hperm
    have hname' : KeyPath.ofName m'.1 = ⟨key, []⟩ := hm.1.symm.trans hname
    exact Or.inr ⟨m, hmem, m', hname, hm, find?_of_one hsole hname, find?_of_one hperm.symm hname'⟩

/-- **Documents with the same members have the same settings.** -/
theorem SameKnown.sameSettings (h : SameKnown members members') (hone : Unambiguous members) :
    SameSettings (Table.ofMembers members) (Table.ofMembers members') := by
  constructor
  case other =>
    intro key hkey hne
    rcases h.find?_cases hone hkey with heq | ⟨m, -, m', hname, hm, hfind, hfind'⟩
    · exact heq
    · rcases hm.2 with hvalue | ⟨hschemes, -⟩
      · rw [hfind, hfind', hvalue]
      · rw [hname] at hschemes
        exact absurd (congrArg KeyPath.root hschemes) hne
  case schemes =>
    have hkey : Field.schemes.name ∈ Description.names := by decide
    rcases h.find?_cases hone hkey with heq | ⟨m, hmem, m', hname, hm, hfind, hfind'⟩
    · exact Or.inl heq
    · rcases hm.2 with hvalue | ⟨-, entries, entries', hobject, hobject', hperm⟩
      · rw [hfind, hfind', hvalue]
        exact Or.inl rfl
      · have hlower : Text.lower m.1 = Field.schemes.name := by
          rw [ofName_of_plain (hone.plain m hmem)] at hname
          exact congrArg KeyPath.root hname
        have hnodup := hone.schemes m hmem hlower entries hobject
        have hnodup' : (entries'.map fun e => Text.lower e.1).Nodup :=
          (hperm.map _).nodup_iff.mp hnodup
        rw [hobject, Settings.folded_object hnodup] at hfind
        rw [hobject', Settings.folded_object hnodup'] at hfind'
        refine Or.inr ⟨_, _, hfind, hfind', hperm.map _, ?_⟩
        rw [List.map_map]
        exact hnodup

/-! ## Documents -/

/-- A document is refused for the first thing in it that is of the wrong kind. -/
theorem readDocument_of_typeFaults {text : String} {fault : Settings.TypeFault}
    {rest : List Settings.TypeFault} (hread : Json.read text = .ok (.object members))
    (h : Draft.typeFaults (Table.ofMembers members) = fault :: rest) :
    readDocument text = .error (.parse (.illTyped fault)) := by
  have hfirst : Draft.ofTable (Table.ofMembers members) = .error fault :=
    (firstOf_ofTable _ fault).mpr (congrArg List.head? h)
  rw [readDocument, reading_of_object hread, hfirst]
  rfl

/-- The schemes that come of a document, if its settings make a draft that is valid. -/
theorem schemes_of_read {text : String} {schemes : ByName Path}
    (hread : Json.read text = .ok (.object members))
    (h : ((Draft.ofTable (Table.ofMembers members)).toOption.bind fun d =>
      (d.validate.map Snapshot.schemes).toOption) = some schemes) :
    (readDocument text).map Snapshot.schemes = .ok schemes := by
  rw [readDocument, reading_of_object hread]
  cases hdraft : Draft.ofTable (Table.ofMembers members) with
  | error fault =>
    rw [hdraft] at h
    cases h
  | ok d =>
    rw [hdraft] at h
    exact eq_ok_of_toOption h

variable {given other : String}

/-- **A document may be rearranged.**  Members may change places, also inside the schemes, their
    names may be written with other capitals, and members that are none of the report may come and
    go, any number of times: as long as at most one thing in the document is of the wrong kind, what
    comes of reading it is the same snapshot or the same error.  Where several are, either document
    may be refused for another one of them, and nothing else changes. -/
theorem rearranged_alike (hgiven : Json.read given = .ok (.object members))
    (hother : Json.read other = .ok (.object members')) (hone : Unambiguous members)
    (hedits : Relation.ReflTransGen Edit members members') :
    ((Draft.typeFaults (Table.ofMembers members)).length ≤ 1 →
      readDocument given = readDocument other) ∧
    (readDocument given = readDocument other ∨
      ∃ f ∈ Draft.typeFaults (Table.ofMembers members),
        ∃ f' ∈ Draft.typeFaults (Table.ofMembers members),
          readDocument given = .error (.parse (.illTyped f)) ∧
          readDocument other = .error (.parse (.illTyped f'))) := by
  have hsettings := (sameKnown_of_edits hedits).sameSettings hone
  unfold readDocument
  rw [reading_of_object hgiven, reading_of_object hother]
  constructor
  · intro htyped
    rw [hsettings.ofTable_eq htyped]
  · rcases hsettings.ofTable_eq_or with heq | ⟨f, hf, f', hf', hfirst, hsecond⟩
    · rw [heq]
      exact Or.inl rfl
    · rw [hfirst, hsecond]
      exact Or.inr ⟨f, hf, f', hf', rfl, rfl⟩

/-! ### A rearranged report -/

/-- The members before the schemes of a report. -/
def reportFront : Json.Members :=
  [(Field.exeSuffix.name, .string ".exe"), (Field.scripts.name, .string "L3M=")]

/-- The members behind the schemes of a report. -/
def reportBack : Json.Members :=
  [(Field.osName.name, .string "nt"), (Field.platform.name, .string "win32")]

/-- The entries of the schemes; one of them is of the wrong kind. -/
def reportEntries : Json.Members := [("Venv", .string "L3Y="), ("nt_user", .null)]

/-- A report with its schemes under the given name. -/
def report (name : String) (entries : Json.Members) : Json.Members :=
  reportFront ++ (name, .object entries) :: reportBack

/-- A member that is none of the report, although something in it has the name of one. -/
def remark : String × Json := ("remark", .object [(Field.scripts.name, .null)])

/-- The report from its end, also inside the schemes, with their name in capitals and a remark. -/
def rearranged : Json.Members := remark :: (report "SCHEMES" reportEntries.reverse).reverse

theorem edits_report : Relation.ReflTransGen Edit (report "schemes" reportEntries) rearranged := by
  have hschemes : Edit (report "schemes" reportEntries) (report "schemes" reportEntries.reverse) :=
    .permuteSchemes (by decide +kernel) (List.reverse_perm _).symm
  have hname : Edit (report "schemes" reportEntries.reverse)
      (report "SCHEMES" reportEntries.reverse) := .respell (by decide) (by decide +kernel)
  have hmembers : Edit (report "SCHEMES" reportEntries.reverse)
      (report "SCHEMES" reportEntries.reverse).reverse := .permute (List.reverse_perm _).symm
  have hremark : Edit ([] ++ (report "SCHEMES" reportEntries.reverse).reverse) ([] ++ rearranged) :=
    .add (elsewhere_of_plain (by decide) (by decide +kernel))
  exact (((Relation.ReflTransGen.single hschemes).tail hname).tail hmembers).tail hremark

/-- A report is unambiguous if its entries are. -/
theorem unambiguous_report {entries : Json.Members}
    (h : (entries.map fun e => Text.lower e.1).Nodup) : Unambiguous (report "schemes" entries) := by
  constructor
  case plain =>
    have hnames : ∀ name ∈ (report "schemes" []).map Prod.fst, PlainName name := by decide
    exact List.forall_mem_map.mp hnames
  case distinct =>
    have hlower : (((report "schemes" entries).map Prod.fst).map Text.lower).Nodup := by
      rw [show (report "schemes" entries).map Prod.fst = (report "schemes" []).map Prod.fst from rfl]
      decide +kernel
    rw [List.map_map] at hlower
    exact hlower
  case schemes =>
    have hother : ∀ m ∈ reportFront ++ reportBack, Text.lower m.1 ≠ Field.schemes.name := by
      decide +kernel
    intro m hm hlower entries' hentries
    rcases List.mem_append.mp hm with hfront | hmiddle
    · exact absurd hlower (hother m (List.mem_append_left _ hfront))
    · rcases List.mem_cons.mp hmiddle with rfl | hback
      · cases hentries
        exact h
      · exact absurd hlower (hother m (List.mem_append_right _ hback))

theorem plain_reportEntries : Json.Plain 1 (.object reportEntries) := by
  refine .object (by decide) ?_
  unfold reportEntries
  simp only [List.forall_mem_cons]
  exact ⟨.string 0 _, .null 0, List.forall_mem_nil _⟩

theorem plain_reverse {n : Nat} {entries : Json.Members} (h : Json.Plain n (.object entries)) :
    Json.Plain n (.object entries.reverse) := by
  cases h with
  | object hnames hmembers =>
    refine .object ?_ fun m hm => hmembers m (List.mem_reverse.mp hm)
    rw [List.map_reverse]
    exact List.nodup_reverse.mpr hnames

theorem plain_of_mem_report {name : String} {entries : Json.Members}
    (h : Json.Plain 1 (.object entries)) : ∀ m ∈ report name entries, Json.Plain 1 m.2 := by
  unfold report reportFront reportBack
  simp only [List.forall_mem_append, List.forall_mem_cons]
  exact ⟨⟨.string 1 _, .string 1 _, List.forall_mem_nil _⟩, h, .string 1 _, .string 1 _,
    List.forall_mem_nil _⟩

theorem read_report {entries : Json.Members} (h : Json.Plain 1 (.object entries)) :
    Json.read (Json.toDocument (.object (report "schemes" entries)))
      = .ok (.object (report "schemes" entries)) := by
  have hnames : ((report "schemes" []).map Prod.fst).Nodup := by decide
  exact Json.read_toDocument (.object hnames (plain_of_mem_report h)) (by decide)

theorem read_rearranged :
    Json.read (Json.toDocument (.object rearranged)) = .ok (.object rearranged) := by
  have hremark : Json.Plain 1 remark.2 :=
    .object (by decide) (List.forall_mem_singleton.mpr (.null 0))
  refine Json.read_toDocument (.object (by decide) (List.forall_mem_cons.mpr ⟨hremark, ?_⟩))
    (by decide)
  exact fun m hm =>
    plain_of_mem_report (plain_reverse plain_reportEntries) m (List.mem_reverse.mp hm)

/-- The two documents are refused for the same entry. -/
theorem rearranged_report :
    Unambiguous (report "schemes" reportEntries) ∧
    Relation.ReflTransGen Edit (report "schemes" reportEntries) rearranged ∧
    (Draft.typeFaults (Table.ofMembers (report "schemes" reportEntries))).length = 1 ∧
    readDocument (Json.toDocument (.object (report "schemes" reportEntries)))
      = readDocument (Json.toDocument (.object rearranged)) := by
  have hone : (Draft.typeFaults (Table.ofMembers (report "schemes" reportEntries))).length = 1 := by
    decide +kernel
  have hunambiguous : Unambiguous (report "schemes" reportEntries) :=
    unambiguous_report (by decide +kernel)
  exact ⟨hunambiguous, edits_report, hone,
    (rearranged_alike (read_report plain_reportEntries) read_rearranged hunambiguous edits_report).1
      (Nat.le_of_eq hone)⟩

/-! ### Reports that a change makes others -/

/-- Two entries that are null. -/
def nullEntries : Json.Members := [("a", .null), ("b", .null)]

theorem plain_nullEntries : Json.Plain 1 (.object nullEntries) := by
  refine .object (by decide) ?_
  unfold nullEntries
  simp only [List.forall_mem_cons]
  exact ⟨.null 0, .null 0, List.forall_mem_nil _⟩

/-- A member that leads to an entry of the schemes, although no setting has its name. -/
def entryByPath : String × Json := ("schemes.a", .string "L2E=")

/-- A report without schemes, and that member behind it. -/
def reportByPath : Json.Members := report "schemes" [] ++ [entryByPath]

theorem plain_noEntries : Json.Plain 1 (.object []) := .object List.nodup_nil (List.forall_mem_nil _)

theorem read_reportByPath :
    Json.read (Json.toDocument (.object reportByPath)) = .ok (.object reportByPath) := by
  have hmembers : ∀ m ∈ reportByPath, Json.Plain 1 m.2 :=
    List.forall_mem_append.mpr
      ⟨plain_of_mem_report plain_noEntries, List.forall_mem_singleton.mpr (.string 1 _)⟩
  exact Json.read_toDocument (.object (by decide) hmembers) (by decide)

/-- Each entry of the schemes counts, and so does a path into them.  A report whose schemes alone
    are of the wrong kind, but in two entries, is refused for the entry that comes first, and a
    member whose name is none of the settings adds a scheme. -/
theorem each_entry_counts :
    (Unambiguous (report "schemes" nullEntries) ∧
      Draft.typeFaults (Table.ofMembers (report "schemes" nullEntries))
        = [⟨.null, .text "schemes.a"⟩, ⟨.null, .text "schemes.b"⟩] ∧
      Edit (report "schemes" nullEntries) (report "schemes" nullEntries.reverse) ∧
      readDocument (Json.toDocument (.object (report "schemes" nullEntries)))
        = .error (.parse (.illTyped ⟨.null, .text "schemes.a"⟩)) ∧
      readDocument (Json.toDocument (.object (report "schemes" nullEntries.reverse)))
        = .error (.parse (.illTyped ⟨.null, .text "schemes.b"⟩))) ∧
    (Unambiguous (report "schemes" []) ∧
      Draft.typeFaults (Table.ofMembers (report "schemes" [])) = [] ∧
      Text.lower entryByPath.1 ∉ Description.names ∧
      (readDocument (Json.toDocument (.object (report "schemes" [])))).map Snapshot.schemes
        = .ok [] ∧
      (readDocument (Json.toDocument (.object reportByPath))).map Snapshot.schemes
        = .ok [("a", Path.ofString "/a")]) := by
  have hfaults : Draft.typeFaults (Table.ofMembers (report "schemes" nullEntries))
      = [⟨.null, .text "schemes.a"⟩, ⟨.null, .text "schemes.b"⟩] := by rfl
  have hfaults' : Draft.typeFaults (Table.ofMembers (report "schemes" nullEntries.reverse))
      = [⟨.null, .text "schemes.b"⟩, ⟨.null, .text "schemes.a"⟩] := by rfl
  refine ⟨⟨?_, hfaults, ?_, ?_, ?_⟩, ?_, ?_, ?_, ?_, ?_⟩
  · exact unambiguous_report (by decide +kernel)
  · exact .permuteSchemes (by decide +kernel) (List.reverse_perm _).symm
  · exact readDocument_of_typeFaults (read_report plain_nullEntries) hfaults
  · exact readDocument_of_typeFaults (read_report (plain_reverse plain_nullEntries)) hfaults'
  · exact unambiguous_report List.nodup_nil
  · rfl
  · decide +kernel
  · exact schemes_of_read (read_report plain_noEntries) (by decide +kernel)
  · exact schemes_of_read read_reportByPath (by decide +kernel)

end Host

end Handover
