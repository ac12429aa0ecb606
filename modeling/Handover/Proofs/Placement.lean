/-
  Which members of a document a setting is read from.

  The table of a document is built member by member, and a member may replace, extend or only touch
  what is there.  What stands under one name nevertheless depends on few of them:

  1. **One member** — setting a value changes what stands under the name it goes to, and nothing
     else (`find?_put`, `find?_assignAt`); `revised` is what it makes of it.
  2. **All members** — what stands under a name at the end is worked out from the members that lead
     there alone, in their order (`find?_ofMembers`, by induction on the members).
  3. **The last word** — so a name holds what the last member that leads to it sets there
     (`find?_of_last`), a name that no member leads to holds nothing (`find?_of_silent`), and two
     documents that say the same of a setting have it in common (`find?_ofMembers_congr`).
  4. **Settings** — a setting that is read as a text is not reached into by a path: the path would
     have made it a table or an array (`silent_of_asText`).
-/
import Handover.Proofs.Tables

namespace Handover

namespace Json.Members

/-- A value that is set is found under its name, and nothing else has changed. -/
theorem find?_put (members : Members) (name key : String) (value : Json) :
    find? (put name value members) key = if name = key then some value else find? members key := by
  unfold find?
  induction members with
  | nil =>
    rw [put]
    by_cases h : name = key
    · rw [List.find?_cons_of_pos (by simpa using h), if_pos h]
      rfl
    · rw [List.find?_cons_of_neg (by simpa using h), if_neg h]
  | cons m rest ih =>
    obtain ⟨n, v⟩ := m
    rw [put]
    by_cases hn : n = name
    · subst hn
      rw [if_pos rfl]
      by_cases h : n = key
      · rw [List.find?_cons_of_pos (by simpa using h), if_pos h]
        rfl
      · rw [List.find?_cons_of_neg (by simpa using h), List.find?_cons_of_neg (by simpa using h),
          if_neg h]
    · rw [if_neg hn]
      by_cases h : n = key
      · -- The name that is looked for stands first, and is not the one that was set.
        rw [List.find?_cons_of_pos (by simpa using h), List.find?_cons_of_pos (by simpa using h),
          if_neg fun hk => hn (h.trans hk.symm)]
      · rw [List.find?_cons_of_neg (by simpa using h), List.find?_cons_of_neg (by simpa using h),
          ih]

end Json.Members

namespace Settings

open Json.Members (find? put find?_put)

/-! ## One member -/

/-- What stands under a name once a value is set at the end of some steps from there. -/
def revised (present : Option Json) (steps : List PathStep) (value : Json) : Json :=
  match steps, value with
  | [], .object members => mergeInto (present.getD (.object [])) members
  | [], value => value
  | steps, value => place (present.getD .null) value steps

/-- To set a value under a plain name is to put there what it makes of what is there. -/
theorem assign_eq_put (table : Table) (name : String) (value : Json) :
    assign table name value = put name (revised (find? table name) [] value) table := by
  cases value with
  | object members => rw [assign, revised]
  | null | bool | integer | float | string | array => rfl

/-- To set a value along a path is to put under the name it starts at what it makes of what is
    there. -/
theorem assignAt_eq_put (table : Table) (path : KeyPath) (value : Json) :
    assignAt table path value
      = put path.root (revised (find? table path.root) path.steps value) table := by
  obtain ⟨root, steps⟩ := path
  cases steps with
  | nil => exact assign_eq_put table root value
  | cons step steps => rfl

/-- **Setting a value along a path changes what stands under the name it starts at**, and nothing
    else. -/
theorem find?_assignAt (table : Table) (path : KeyPath) (key : String) (value : Json) :
    find? (assignAt table path value) key
      = if path.root = key then some (revised (find? table path.root) path.steps value)
        else find? table key := by
  rw [assignAt_eq_put, find?_put]

/-! ## All members -/

/-- The member leads to the setting. -/
def leadsTo (key : String) (m : String × Json) : Bool := (KeyPath.ofName m.1).root == key

/-- What the members make of what stands under a name. -/
def revisedBy (members : Json.Members) (present : Option Json) : Option Json :=
  members.foldl (fun present m => some (revised present (KeyPath.ofName m.1).steps m.2)) present

/-- **What stands under a name is worked out from the members that lead there alone.** -/
theorem find?_ofMembers (members : Json.Members) (key : String) :
    find? (Table.ofMembers members) key = revisedBy (members.filter (leadsTo key)) none := by
  -- The table that the first members have made is left open.
  have hfold : ∀ table : Table,
      find? (members.foldl (fun table m => assignAt table (KeyPath.ofName m.1) m.2) table) key
        = revisedBy (members.filter (leadsTo key)) (find? table key) := by
    induction members with
    | nil => exact fun table => rfl
    | cons m rest ih =>
      intro table
      rw [List.foldl_cons, ih, find?_assignAt]
      by_cases h : (KeyPath.ofName m.1).root = key
      · rw [if_pos h, List.filter_cons_of_pos (by simpa [leadsTo] using h), h]
        rfl
      · rw [if_neg h, List.filter_cons_of_neg (by simpa [leadsTo] using h)]
  exact hfold []

/-- Documents that say the same of a setting have it in common. -/
theorem find?_ofMembers_congr {members members' : Json.Members} {key : String}
    (h : members.filter (leadsTo key) = members'.filter (leadsTo key)) :
    find? (Table.ofMembers members) key = find? (Table.ofMembers members') key := by
  rw [find?_ofMembers, find?_ofMembers, h]

/-! ## The last word -/

/-- No member leads to the setting. -/
def Silent (key : String) (members : Json.Members) : Prop :=
  ∀ m ∈ members, (KeyPath.ofName m.1).root ≠ key

theorem filter_of_silent {key : String} {members : Json.Members} (h : Silent key members) :
    members.filter (leadsTo key) = [] :=
  List.filter_eq_nil_iff.mpr fun m hm => by simpa [leadsTo] using h m hm

/-- Nothing stands under a name that no member speaks of. -/
theorem find?_of_silent {key : String} {members : Json.Members} (h : Silent key members) :
    find? (Table.ofMembers members) key = none := by
  rw [find?_ofMembers, filter_of_silent h]
  rfl

variable {before after : Json.Members} {name key : String} {value : Json}

/-- **The last member that leads to a name decides** if it sets a plain value there. -/
theorem find?_of_last (hname : KeyPath.ofName name = ⟨key, []⟩) (h : Silent key after)
    (hplain : ∀ members, value ≠ .object members) :
    find? (Table.ofMembers (before ++ (name, value) :: after)) key = some value := by
  rw [find?_ofMembers, List.filter_append, List.filter_cons_of_pos (by simp [leadsTo, hname]),
    filter_of_silent h]
  unfold revisedBy
  rw [List.foldl_append, List.foldl_cons, List.foldl_nil, hname]
  cases value with
  | object members => exact absurd rfl (hplain members)
  | null | bool | integer | float | string | array => rfl

/-- What a member says of one setting is nothing to the others. -/
theorem find?_of_other {key' : String} (hname : (KeyPath.ofName name).root ≠ key') :
    find? (Table.ofMembers (before ++ (name, value) :: after)) key'
      = find? (Table.ofMembers (before ++ after)) key' := by
  refine find?_ofMembers_congr ?_
  rw [List.filter_append, List.filter_cons_of_neg (by simpa [leadsTo] using hname),
    List.filter_append]

/-! ## Settings -/

/-- A setting is read from what stands under its name. -/
theorem field_congr {α : Type} {table table' : Table} {key : String}
    (h : find? table key = find? table' key) (read : String → Json → Except TypeFault α) :
    table.field read key = table'.field read key := by
  unfold Table.field
  rw [h]

/-- A path with steps leaves an object or an array. -/
theorem revised_of_steps {present : Option Json} {steps : List PathStep} (value : Json)
    (h : steps ≠ []) :
    (∃ members, revised present steps value = .object members) ∨
      ∃ items, revised present steps value = .array items := by
  match steps, h with
  | [.member name], _ => exact Or.inl ⟨_, rfl⟩
  | .member name :: step :: steps, _ => exact Or.inl ⟨_, rfl⟩
  | .item index :: steps, _ => exact Or.inr ⟨_, rfl⟩

/-- **Behind the member that gives a text no path leads to it**: as the name itself comes only once,
    the setting would not be a text any more. -/
theorem silent_of_asText {text : Option String}
    (hnames : ∀ m ∈ after, KeyPath.ofName m.1 ≠ ⟨key, []⟩)
    (h : (Table.ofMembers (before ++ after)).field asText key = .ok text) : Silent key after := by
  by_contra hloud
  have hne : after.filter (leadsTo key) ≠ [] := by
    intro hnil
    refine hloud fun m hm hroot => ?_
    exact List.filter_eq_nil_iff.mp hnil m hm (by simpa [leadsTo] using hroot)
  obtain ⟨init, m, hlast⟩ := (List.eq_nil_or_concat _).resolve_left hne
  rw [List.concat_eq_append] at hlast
  have hmem : m ∈ after.filter (leadsTo key) := by
    rw [hlast]
    exact List.mem_append_right _ List.mem_cons_self
  have hroot : (KeyPath.ofName m.1).root = key := by
    simpa [leadsTo] using (List.mem_filter.mp hmem).2
  have hsteps : (KeyPath.ofName m.1).steps ≠ [] := by
    intro hnil
    refine hnames m (List.mem_filter.mp hmem).1 ?_
    rw [← hroot, ← hnil]
  -- What the last of them leaves is read, and it is no text.
  unfold Table.field at h
  rw [find?_ofMembers, List.filter_append, hlast, ← List.append_assoc] at h
  unfold revisedBy at h
  rw [List.foldl_append, List.foldl_cons, List.foldl_nil] at h
  rcases revised_of_steps m.2 hsteps with ⟨members, hobject⟩ | ⟨items, harray⟩
  · rw [hobject] at h
    cases h
  · rw [harray] at h
    cases h

end Settings

end Handover
