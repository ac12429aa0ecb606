/-
  A document as a table of settings.

  Names do not tell upper case from lower: every name of the document is folded to lower case.  At
  the top a name may be a path (`KeyPath`), which makes the tables and arrays it runs through;
  inside a table names are plain.  Where a name meets a value that is there already, an object is
  merged into it member by member, and anything else takes its place.  The items of arrays are
  left as they are.
-/
import Handover.Json.Value
import Handover.Settings.KeyPath

namespace Handover.Settings

/-- Settings by name. -/
abbrev Table := Json.Members

/-- The members of a value, none if it is no object. -/
def membersOf : Json → Table
  | .object members => members
  | _ => []

/-- The items of a value, none if it is no array. -/
def itemsOf : Json → List Json
  | .array items => items
  | _ => []

mutual

/-- The table with a value set under a plain name: an object is merged into what is there. -/
def assign (table : Table) (name : String) : Json → Table
  | .object members =>
    let present := (Json.Members.find? table name).getD (.object [])
    Json.Members.put name (mergeInto present members) table
  | value => Json.Members.put name value table

/-- A value with members set in it one by one.  A value that is no object gives way to one at the
    first member. -/
def mergeInto (present : Json) : List (String × Json) → Json
  | [] => present
  | (name, value) :: rest =>
    mergeInto (.object (assign (membersOf present) (Text.lower name) value)) rest

end

/-- The list with one item set, filled up with nulls as far as needed. -/
def setItem (items : List Json) (index : Nat) (value : Json) : List Json :=
  (items ++ List.replicate (index + 1 - items.length) Json.null).set index value

/-- The value with another one set at the end of some steps into it. -/
def place (present : Json) (value : Json) : List PathStep → Json
  | [] => value
  | [.member name] => .object (assign (membersOf present) name value)
  | .member name :: steps =>
    let members := membersOf present
    let inner := place ((Json.Members.find? members name).getD .null) value steps
    .object (Json.Members.put name inner members)
  | .item index :: steps =>
    let items := itemsOf present
    .array (setItem items index (place (items[index]?.getD .null) value steps))

/-- The table with a value set along a path. -/
def assignAt (table : Table) (path : KeyPath) (value : Json) : Table :=
  match path.steps with
  | [] => assign table path.root value
  | steps =>
    let present := (Json.Members.find? table path.root).getD .null
    Json.Members.put path.root (place present value steps) table

/-- The table of a document's members. -/
def Table.ofMembers (members : Json.Members) : Table :=
  members.foldl (fun table m => assignAt table (KeyPath.ofName m.1) m.2) []

end Handover.Settings
