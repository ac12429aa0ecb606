/-
  One entry of a table inside a document.

  A table such as the schemes is mostly given as an object, but other members of the document may
  reach into it along a path.  Followed through the document, an entry that one member gives and
  that no other member leads to stays what it is:

  1. **Tables with an entry more** — `WithEntry` says that a table is another one with an entry in
     it that the other has not.  Putting any other name keeps it so (`WithEntry.put`).
  2. **Tables without an entry** — members that set nothing under a name do not bring it in,
     whatever else they do (`revisedBy_free`, by induction on the members).
  3. **Members that lead past an entry** — they keep a table with the entry and one without it apart
     (`WithEntry.mergeInto`, `WithEntry.revisedBy`), and where no entry was they leave none
     (`revisedBy_past`).
  4. **Documents with an entry more** — so of two documents of which one has the entry and the other
     has not, the tables differ in that entry alone (`SoleEntry.withEntry`).
-/
import Handover.Proofs.Placement

namespace Handover

namespace Json.Members

/-- A name that stands in the first part is set there. -/
theorem put_append_of_mem {name : String} {value : Json} {xs ys : Members}
    (h : name ∈ xs.map Prod.fst) : put name value (xs ++ ys) = put name value xs ++ ys := by
  induction xs with
  | nil => cases h
  | cons m rest ih =>
    obtain ⟨n, v⟩ := m
    rw [List.cons_append, put, put]
    by_cases hn : n = name
    · rw [if_pos hn, if_pos hn, List.cons_append]
    · rw [List.map_cons, List.mem_cons] at h
      rw [if_neg hn, if_neg hn, ih (h.resolve_left (Ne.symm hn)), List.cons_append]

/-- A name that does not stand in the first part is set in the second. -/
theorem put_append_of_notMem {name : String} {value : Json} {xs ys : Members}
    (h : name ∉ xs.map Prod.fst) : put name value (xs ++ ys) = xs ++ put name value ys := by
  induction xs with
  | nil => rfl
  | cons m rest ih =>
    obtain ⟨n, v⟩ := m
    rw [List.map_cons, List.mem_cons, not_or] at h
    rw [List.cons_append, put, if_neg (Ne.symm h.1), ih h.2, List.cons_append]

end Json.Members

namespace Settings

open Json.Members (find? put)

/-! ## Tables with an entry more -/

/-- The first table is the second with an entry of a name that the second has not. -/
def WithEntry (name : String) (value : Json) (t t' : Table) : Prop :=
  ∃ xs ys, t = xs ++ (name, value) :: ys ∧ t' = xs ++ ys ∧ name ∉ t'.map Prod.fst

namespace WithEntry

variable {a : String} {v : Json} {t t' : Table}

theorem find?_of_ne (h : WithEntry a v t t') {n : String} (hn : n ≠ a) :
    find? t n = find? t' n := by
  obtain ⟨xs, ys, rfl, rfl, -⟩ := h
  unfold find?
  rw [List.find?_append, List.find?_append,
    List.find?_cons_of_neg (by simpa using Ne.symm hn)]

/-- Putting another name is putting it in both. -/
theorem put (h : WithEntry a v t t') {n : String} (hn : n ≠ a) (w : Json) :
    WithEntry a v (put n w t) (put n w t') := by
  obtain ⟨xs, ys, rfl, rfl, hout⟩ := h
  have hout' : a ∉ (Json.Members.put n w (xs ++ ys)).map Prod.fst := by
    refine findNamed_eq_none_iff.mp ?_
    have hfind := Json.Members.find?_put (xs ++ ys) n a w
    rw [if_neg hn] at hfind
    exact hfind.trans (findNamed_eq_none_iff.mpr hout)
  by_cases hmem : n ∈ xs.map Prod.fst
  · rw [Json.Members.put_append_of_mem hmem] at hout' ⊢
    rw [Json.Members.put_append_of_mem hmem]
    exact ⟨_, ys, rfl, rfl, hout'⟩
  · rw [Json.Members.put_append_of_notMem hmem] at hout' ⊢
    rw [Json.Members.put_append_of_notMem hmem, Json.Members.put, if_neg (Ne.symm hn)]
    exact ⟨xs, _, rfl, rfl, hout'⟩

end WithEntry

/-- The entries of what stands under a name. -/
def entriesOf (present : Option Json) : Table := membersOf (present.getD .null)

/-- A step into a member puts what is made of the member. -/
theorem revised_member (present : Option Json) (name : String) (steps : List PathStep)
    (value : Json) :
    revised present (.member name :: steps) value
      = .object (put name (revised (find? (entriesOf present) name) steps value)
          (entriesOf present)) := by
  cases steps with
  | nil => exact congrArg Json.object (assign_eq_put (entriesOf present) name value)
  | cons step steps => rfl

theorem mergeInto_cons (table : Table) (m : String × Json) (rest : List (String × Json)) :
    mergeInto (.object table) (m :: rest)
      = mergeInto (.object
          (put (Text.lower m.1) (revised (find? table (Text.lower m.1)) [] m.2) table)) rest := by
  obtain ⟨name, value⟩ := m
  rw [mergeInto]
  exact congrArg (fun t => mergeInto (.object t) rest) (assign_eq_put table _ value)

theorem mergeInto_append (present : Json) (xs ys : List (String × Json)) :
    mergeInto present (xs ++ ys) = mergeInto (mergeInto present xs) ys := by
  induction xs generalizing present with
  | nil => rw [List.nil_append, mergeInto]
  | cons m rest ih =>
    obtain ⟨name, value⟩ := m
    rw [List.cons_append, mergeInto, mergeInto, ih]

/-- Members are set in a table, and a table is what they make. -/
theorem mergeInto_object (table : Table) (pairs : List (String × Json)) :
    ∃ t, mergeInto (.object table) pairs = .object t := by
  induction pairs generalizing table with
  | nil => exact ⟨table, by rw [mergeInto]⟩
  | cons m rest ih =>
    rw [mergeInto_cons]
    exact ih _

/-! ## Tables without an entry -/

/-- Members of other names do not bring an entry in. -/
theorem mergeInto_free {a : String} {present : Json} {pairs : List (String × Json)}
    (hfree : find? (membersOf present) a = none) (h : ∀ m ∈ pairs, Text.lower m.1 ≠ a) :
    find? (membersOf (mergeInto present pairs)) a = none := by
  induction pairs generalizing present with
  | nil =>
    rw [mergeInto]
    exact hfree
  | cons m rest ih =>
    obtain ⟨name, value⟩ := m
    obtain ⟨hm, hrest⟩ := List.forall_mem_cons.mp h
    rw [mergeInto]
    refine ih ?_ hrest
    show find? (assign (membersOf present) (Text.lower name) value) a = none
    rw [assign_eq_put, Json.Members.find?_put, if_neg hm, hfree]

/-- The member sets nothing under the name `a` in the table that it leads to. -/
def Misses (a : String) (m : String × Json) : Prop :=
  (∀ name steps, (KeyPath.ofName m.1).steps = .member name :: steps → name ≠ a) ∧
  ((KeyPath.ofName m.1).steps = [] →
    ∀ pairs, m.2 = .object pairs → ∀ e ∈ pairs, Text.lower e.1 ≠ a)

theorem revised_free {a : String} {present : Option Json} {m : String × Json}
    (hfree : find? (entriesOf present) a = none) (h : Misses a m) :
    find? (entriesOf (some (revised present (KeyPath.ofName m.1).steps m.2))) a = none := by
  obtain ⟨hmember, hobject⟩ := h
  cases hsteps : (KeyPath.ofName m.1).steps with
  | nil =>
    cases hvalue : m.2 with
    | object pairs =>
      refine mergeInto_free ?_ (hobject hsteps pairs hvalue)
      cases present with
      | none => rfl
      | some value => exact hfree
    | null | bool | integer | float | string | array => rfl
  | cons step steps =>
    cases step with
    | member name =>
      rw [revised_member]
      show find? (put name _ (entriesOf present)) a = none
      rw [Json.Members.find?_put, if_neg (hmember name steps hsteps), hfree]
    | item index => rfl

/-- Members that set nothing under a name do not bring it in. -/
theorem revisedBy_free {a : String} {present : Option Json} {members : Json.Members}
    (hfree : find? (entriesOf present) a = none) (h : ∀ m ∈ members, Misses a m) :
    find? (entriesOf (revisedBy members present)) a = none := by
  induction members generalizing present with
  | nil => exact hfree
  | cons m rest ih =>
    obtain ⟨hm, hrest⟩ := List.forall_mem_cons.mp h
    exact ih (revised_free hfree hm) hrest

/-! ## Members that lead past an entry -/

/-- The member leads past the entry `a` of the table under `key`: it is about another setting, or
    about another entry. -/
def LeadsPast (key a : String) (m : String × Json) : Prop :=
  (KeyPath.ofName m.1).root = key →
    ∃ name steps, (KeyPath.ofName m.1).steps = .member name :: steps ∧ name ≠ a

namespace WithEntry

variable {a : String} {v : Json} {t t' : Table}

theorem mergeInto (h : WithEntry a v t t') {pairs : List (String × Json)}
    (hpairs : ∀ m ∈ pairs, Text.lower m.1 ≠ a) :
    ∃ u u', mergeInto (.object t) pairs = .object u ∧ mergeInto (.object t') pairs = .object u' ∧
      WithEntry a v u u' := by
  induction pairs generalizing t t' with
  | nil => exact ⟨t, t', by rw [Settings.mergeInto], by rw [Settings.mergeInto], h⟩
  | cons m rest ih =>
    obtain ⟨hm, hrest⟩ := List.forall_mem_cons.mp hpairs
    rw [mergeInto_cons, mergeInto_cons, h.find?_of_ne hm]
    exact ih (h.put hm _) hrest

/-- Members that lead past the entry leave the difference alone. -/
theorem revisedBy (h : WithEntry a v t t') {key : String} {members : Json.Members}
    (hpast : ∀ m ∈ members, LeadsPast key a m) :
    ∃ u u', revisedBy (members.filter (leadsTo key)) (some (.object t)) = some (.object u) ∧
      revisedBy (members.filter (leadsTo key)) (some (.object t')) = some (.object u') ∧
      WithEntry a v u u' := by
  induction members generalizing t t' with
  | nil => exact ⟨t, t', rfl, rfl, h⟩
  | cons m rest ih =>
    obtain ⟨hm, hrest⟩ := List.forall_mem_cons.mp hpast
    by_cases hroot : (KeyPath.ofName m.1).root = key
    · obtain ⟨name, steps, hsteps, hname⟩ := hm hroot
      have hrevised : ∀ t : Table, Settings.revisedBy (m :: rest.filter (leadsTo key))
          (some (.object t)) = Settings.revisedBy (rest.filter (leadsTo key))
            (some (.object (Json.Members.put name (revised (find? t name) steps m.2) t))) := by
        intro t
        unfold Settings.revisedBy
        rw [List.foldl_cons, hsteps, revised_member]
        rfl
      rw [List.filter_cons_of_pos (by simpa [leadsTo] using hroot), hrevised, hrevised,
        h.find?_of_ne hname]
      exact ih (h.put hname _) hrest
    · rw [List.filter_cons_of_neg (by simpa [leadsTo] using hroot)]
      exact ih h hrest

end WithEntry

theorem LeadsPast.misses {key a : String} {m : String × Json} (h : LeadsPast key a m)
    (hroot : (KeyPath.ofName m.1).root = key) : Misses a m := by
  obtain ⟨name, steps, hsteps, hname⟩ := h hroot
  refine ⟨fun name' steps' heq => ?_, fun hnil => ?_⟩
  · rw [hsteps] at heq
    cases heq
    exact hname
  · rw [hsteps] at hnil
    cases hnil

/-- Members that lead past an entry leave a table, or nothing, in which the entry is not. -/
theorem revisedBy_past {key a : String} {members : Json.Members}
    (hpast : ∀ m ∈ members, LeadsPast key a m) :
    ∃ table, (revisedBy (members.filter (leadsTo key)) none).getD (.object []) = .object table ∧
      find? table a = none := by
  have hroot : ∀ m ∈ members.filter (leadsTo key), (KeyPath.ofName m.1).root = key :=
    fun m hm => by simpa [leadsTo] using (List.mem_filter.mp hm).2
  have hpast' : ∀ m ∈ members.filter (leadsTo key), LeadsPast key a m :=
    fun m hm => hpast m (List.mem_filter.mp hm).1
  have hfree : find? (entriesOf (revisedBy (members.filter (leadsTo key)) none)) a = none :=
    revisedBy_free rfl fun m hm => (hpast' m hm).misses (hroot m hm)
  generalize members.filter (leadsTo key) = members at hroot hpast' hfree ⊢
  rcases List.eq_nil_or_concat members with rfl | ⟨init, m, rfl⟩
  · exact ⟨[], rfl, rfl⟩
  · -- The last of the members leaves a table, whatever it finds.
    rw [List.concat_eq_append] at hroot hpast' hfree ⊢
    have hm : m ∈ init ++ [m] := List.mem_append_right _ List.mem_cons_self
    obtain ⟨name, steps, hsteps, -⟩ := hpast' m hm (hroot m hm)
    unfold revisedBy at hfree ⊢
    rw [List.foldl_append, List.foldl_cons, List.foldl_nil, hsteps, revised_member] at hfree ⊢
    exact ⟨_, rfl, hfree⟩

/-! ## Documents with an entry more -/

variable {before after : Json.Members} {name key n : String}
  {entries entries' : List (String × Json)}

/-- An object is merged into a table with the entry and without it. -/
theorem withEntry_mergeInto {table : Table} (value : Json)
    (hfree : find? table (Text.lower n) = none)
    (hentries : ∀ m ∈ entries ++ entries', Text.lower m.1 ≠ Text.lower n) :
    ∃ t t', mergeInto (.object table) (entries ++ (n, value) :: entries') = .object t ∧
      mergeInto (.object table) (entries ++ entries') = .object t' ∧
      WithEntry (Text.lower n) (folded value) t t' := by
  obtain ⟨hfirst, hlast⟩ := List.forall_mem_append.mp hentries
  obtain ⟨t, hmerge⟩ := mergeInto_object table entries
  have hfind : find? (membersOf (mergeInto (.object table) entries)) (Text.lower n) = none :=
    mergeInto_free hfree hfirst
  rw [hmerge] at hfind
  have hout : Text.lower n ∉ t.map Prod.fst := findNamed_eq_none_iff.mp hfind
  have hnew : WithEntry (Text.lower n) (folded value) (t ++ [(Text.lower n, folded value)]) t :=
    ⟨t, [], rfl, (List.append_nil t).symm, hout⟩
  rw [mergeInto_append, mergeInto_append, hmerge, mergeInto,
    show membersOf (.object t) = t from rfl, assign_of_notMem hout]
  exact hnew.mergeInto hlast

/-- The object under `name` gives the table `key` an entry `n`, and nothing else in the document
    leads to that entry: other members lead past it, and other entries of the object have other
    names. -/
structure SoleEntry (key n : String) (before after : Json.Members) (name : String)
    (entries entries' : List (String × Json)) : Prop where
  plain : KeyPath.ofName name = ⟨key, []⟩
  past : ∀ m ∈ before ++ after, LeadsPast key (Text.lower n) m
  others : ∀ m ∈ entries ++ entries', Text.lower m.1 ≠ Text.lower n

/-- **The tables of two documents of which one has an entry more differ in that entry alone**, as
    long as nothing else in the document leads to the entry. -/
theorem SoleEntry.withEntry (h : SoleEntry key n before after name entries entries')
    (value : Json) :
    ∃ t t', find? (Table.ofMembers
          (before ++ (name, .object (entries ++ (n, value) :: entries')) :: after)) key
        = some (.object t) ∧
      find? (Table.ofMembers (before ++ (name, .object (entries ++ entries')) :: after)) key
        = some (.object t') ∧
      WithEntry (Text.lower n) (folded value) t t' := by
  obtain ⟨hbefore, hafter⟩ := List.forall_mem_append.mp h.past
  obtain ⟨table, htable, hfree⟩ := revisedBy_past hbefore
  have hread : ∀ members, find? (Table.ofMembers (before ++ (name, .object members) :: after)) key
      = revisedBy (after.filter (leadsTo key)) (some (mergeInto (.object table) members)) := by
    intro members
    rw [find?_ofMembers, List.filter_append,
      List.filter_cons_of_pos (by simp [leadsTo, h.plain]), ← htable]
    unfold revisedBy
    rw [List.foldl_append, List.foldl_cons, h.plain]
    rfl
  obtain ⟨t, t', hwith, hwithout, hentry⟩ := withEntry_mergeInto value hfree h.others
  rw [hread, hread, hwith, hwithout]
  exact hentry.revisedBy hafter

end Settings

end Handover
