/-
  The values of a JSON document.

  Numbers come in two kinds: those that are whole and fit 64 bits with a sign, and all others, which
  are kept in double precision.  An object is a list of members; the reader leaves at most one
  member of each name in it.
-/
import Handover.Decimal.Binary64

namespace Handover

/-- A JSON value. -/
inductive Json where
  | null
  | bool (b : Bool)
  | integer (n : Int)
  | float (x : Decimal.Binary64)
  | string (s : String)
  | array (items : List Json)
  | object (members : List (String × Json))

namespace Json

/-- The members of an object. -/
abbrev Members := List (String × Json)

/-- The value of a member. -/
def Members.find? (members : Members) (name : String) : Option Json :=
  (List.find? (fun m => m.1 == name) members).map Prod.snd

/-- The members with one value set: in its place if the name is there, at the end if it is new. -/
def Members.put (name : String) (value : Json) : Members → Members
  | [] => [(name, value)]
  | (n, v) :: rest =>
    if n = name then (name, value) :: rest else (n, v) :: Members.put name value rest

/-- A list of members with repeated names as members of distinct names: the last one counts. -/
def Members.ofList (pairs : List (String × Json)) : Members :=
  pairs.foldl (fun members pair => Members.put pair.1 pair.2 members) []

end Json

end Handover
