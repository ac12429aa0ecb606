/-
  Documents whose names stay distinct when they are folded.

  A document becomes a table of settings member by member; where a name meets one that is there
  already, values are merged or replaced.  As long as no two names fold to one, nothing of this
  happens:

  1. **Inside a table** — `mergeInto` adds the members one after the other, each under its folded
     name (`mergeInto_of_nodup`).  The induction is on the members that are still to come, and the
     names that are there already count as taken.
  2. **At the top** — `Table.ofMembers` does the same for names that spell no path
     (`ofMembers_of_nodup`, and `ofMembers_of_plain` where the names are in lower case already).
  3. **Settings** — a setting is then read from the one member that has its name (`field_eq`), and a
     table of texts gives its texts in order (`textsOf_strings`).
-/
import Handover.Proofs.Members
import Handover.Settings.Field

namespace Handover.Settings

/-- A value as a new member of a table holds it: the names of an object are folded. -/
def folded : Json → Json
  | .object members => mergeInto (.object []) members
  | value => value

/-- A value goes to the end under a new name. -/
theorem assign_of_notMem {table : Table} {name : String} {value : Json}
    (h : name ∉ table.map Prod.fst) :
    assign table name value = table ++ [(name, folded value)] := by
  have hfind : Json.Members.find? table name = none := findNamed_eq_none_iff.mpr h
  cases value with
  | object members =>
    rw [assign, hfind, Option.getD_none, Json.Members.put_of_notMem h]
    rfl
  | null | bool | integer | float | string | array => exact Json.Members.put_of_notMem h

/-! ## Inside a table -/

/-- **Members of new and distinct names are added as they come**, under their folded names. -/
theorem mergeInto_of_nodup {present : Table} {pairs : List (String × Json)}
    (h : (present.map Prod.fst ++ pairs.map fun m => Text.lower m.1).Nodup) :
    mergeInto (.object present) pairs
      = .object (present ++ pairs.map fun m => (Text.lower m.1, folded m.2)) := by
  -- The members that are there already grow with every step, so the induction leaves them open.
  induction pairs generalizing present with
  | nil => rw [mergeInto, List.map_nil, List.append_nil]
  | cons m rest ih =>
    obtain ⟨name, value⟩ := m
    have hnew : Text.lower name ∉ present.map Prod.fst := by
      intro hmem
      exact (List.nodup_append.mp h).2.2 _ hmem _ List.mem_cons_self rfl
    have hassign : assign (membersOf (.object present)) (Text.lower name) value
        = present ++ [(Text.lower name, folded value)] := assign_of_notMem hnew
    have hnext : ((present ++ [(Text.lower name, folded value)]).map Prod.fst
        ++ rest.map fun m => Text.lower m.1).Nodup := by
      rw [List.map_append, List.append_assoc]
      exact h
    rw [mergeInto, hassign, ih hnext, List.append_assoc]
    rfl

/-- An object whose names stay distinct keeps its members. -/
theorem folded_object {members : List (String × Json)}
    (h : (members.map fun m => Text.lower m.1).Nodup) :
    folded (.object members) = .object (members.map fun m => (Text.lower m.1, folded m.2)) :=
  mergeInto_of_nodup h

/-! ## At the top -/

/-- Members whose names are no paths go to the end of the table one after the other, as long as
    their names are new and distinct. -/
theorem foldl_assignAt_of_nodup {table : Table} {members : Json.Members}
    (hsteps : ∀ m ∈ members, (KeyPath.ofName m.1).steps = [])
    (h : (table.map Prod.fst ++ members.map fun m => (KeyPath.ofName m.1).root).Nodup) :
    members.foldl (fun table m => assignAt table (KeyPath.ofName m.1) m.2) table
      = table ++ members.map fun m => ((KeyPath.ofName m.1).root, folded m.2) := by
  induction members generalizing table with
  | nil => exact (List.append_nil table).symm
  | cons m rest ih =>
    obtain ⟨hm, hrest⟩ := List.forall_mem_cons.mp hsteps
    have hnew : (KeyPath.ofName m.1).root ∉ table.map Prod.fst := by
      intro hmem
      exact (List.nodup_append.mp h).2.2 _ hmem _ List.mem_cons_self rfl
    have hassign : assignAt table (KeyPath.ofName m.1) m.2
        = table ++ [((KeyPath.ofName m.1).root, folded m.2)] := by
      unfold assignAt
      rw [hm]
      exact assign_of_notMem hnew
    have hnext : ((table ++ [((KeyPath.ofName m.1).root, folded m.2)]).map Prod.fst
        ++ rest.map fun m => (KeyPath.ofName m.1).root).Nodup := by
      rw [List.map_append, List.append_assoc]
      exact h
    rw [List.foldl_cons, hassign, ih hrest hnext, List.append_assoc]
    rfl

/-- **A document whose names are no paths and stay distinct is the table of its members.** -/
theorem ofMembers_of_nodup {members : Json.Members}
    (hsteps : ∀ m ∈ members, (KeyPath.ofName m.1).steps = [])
    (h : (members.map fun m => (KeyPath.ofName m.1).root).Nodup) :
    Table.ofMembers members = members.map fun m => ((KeyPath.ofName m.1).root, folded m.2) :=
  foldl_assignAt_of_nodup hsteps h

/-- Names that are spelled as they are kept stay as they are. -/
theorem ofMembers_of_plain {members : Json.Members}
    (hplain : ∀ m ∈ members, KeyPath.ofName m.1 = ⟨m.1, []⟩) (h : (members.map Prod.fst).Nodup) :
    Table.ofMembers members = members.map fun m => (m.1, folded m.2) := by
  have hroots : (members.map fun m => (KeyPath.ofName m.1).root) = members.map Prod.fst :=
    List.map_congr_left fun m hm => by rw [hplain m hm]
  have hsteps : ∀ m ∈ members, (KeyPath.ofName m.1).steps = [] := fun m hm => by rw [hplain m hm]
  rw [← hroots] at h
  rw [ofMembers_of_nodup hsteps h]
  exact List.map_congr_left fun m hm => by rw [hplain m hm]

/-! ## Settings -/

/-- A setting is read from the member of its name, unless that is null. -/
theorem field_eq {α : Type} {table : Table} {read : String → Json → Except TypeFault α}
    {key : String} {value : Json} (h : (table.map Prod.fst).Nodup) (hmem : (key, value) ∈ table) :
    table.field read key =
      match value with
      | .null => .ok none
      | value => (read key value).map some := by
  have hfind : Json.Members.find? table key = some value := (findNamed_eq_some_iff h).mpr hmem
  unfold Table.field
  rw [hfind]
  cases value with
  | null | bool | integer | float | string | array | object => rfl

/-- A table of texts is read as its texts. -/
theorem textsOf_strings (key : String) (texts : List (String × String)) :
    textsOf key (texts.map fun e => (e.1, .string e.2)) = .ok texts := by
  induction texts with
  | nil => rfl
  | cons e rest ih =>
    rw [List.map_cons, textsOf, ih]
    rfl

end Handover.Settings
