/-
  Settings read as texts, flags and tables of texts.

  A text may also be given as a flag or a number, whose usual spelling is then the text.  A flag
  may also be given as a number, where zero is false, or as one of a few words.  A setting that is
  missing or null is no setting; the members of a table of texts must not be null.
-/
import Handover.Settings.Table
import Handover.Decimal.Shortest
import Handover.Text.Quoted

namespace Handover.Settings

/-- What was expected of a setting. -/
inductive Expected where
  /-- A table; `nested` tells the member of a document from the document itself. -/
  | table (nested : Bool)
  | text (key : String)
  | flag (key : String)
deriving Repr, DecidableEq

/-- A setting that holds another kind of value than was expected. -/
structure TypeFault where
  found : Json
  expected : Expected

/-- A flag as a word. -/
def flagText (b : Bool) : String := if b then "true" else "false"

/-- A value, named by its kind.  `nested` chooses between the two ways to name a number. -/
def describe (nested : Bool) : Json → String
  | .null => "unit value"
  | .bool b => s!"boolean `{flagText b}`"
  | .integer n => if nested then s!"integer `{n}`" else s!"64-bit integer `{n}`"
  | .float x => s!"floating point `{x.render ⟨nested⟩}`"
  | .string s => s!"string {Text.quoted s}"
  | .array _ => "sequence"
  | .object _ => "map"

/-- The words of a fault. -/
def TypeFault.message (fault : TypeFault) : String :=
  match fault.expected with
  | .table nested => s!"invalid type: {describe nested fault.found}, expected a map"
  | .text key => s!"invalid type: {describe false fault.found}, expected a string for key `{key}`"
  | .flag key => s!"invalid type: {describe false fault.found}, expected a boolean for key `{key}`"

/-- A value as a text. -/
def asText (key : String) : Json → Except TypeFault String
  | .string s => .ok s
  | .bool b => .ok (flagText b)
  | .integer n => .ok (toString n)
  | .float x => .ok (x.render ⟨false⟩)
  | value => .error ⟨value, .text key⟩

/-- A word as a flag. -/
def flagOfWord (word : String) : Option Bool :=
  if word ∈ ["1", "true", "on", "yes"] then some true
  else if word ∈ ["0", "false", "off", "no"] then some false
  else none

/-- A value as a flag. -/
def asFlag (key : String) : Json → Except TypeFault Bool
  | .bool b => .ok b
  | .integer n => .ok (n != 0)
  | .float x => .ok !x.isZero
  | .string s =>
    match flagOfWord (Text.lower s) with
    | some b => .ok b
    | none => .error ⟨.string (Text.lower s), .flag key⟩
  | value => .error ⟨value, .flag key⟩

/-- The key under which a member of a table is named in a message. -/
def memberKey (table name : String) : String :=
  if name = "" ∨ name.toList.head? = some '[' then table ++ name else table ++ "." ++ name

/-- The members of a table as texts. -/
def textsOf (table : String) : Table → Except TypeFault (List (String × String))
  | [] => .ok []
  | (name, value) :: rest => do
    let text ← asText (memberKey table name) value
    let texts ← textsOf table rest
    return (name, text) :: texts

/-- A value as a table of texts. -/
def asTexts (key : String) : Json → Except TypeFault (List (String × String))
  | .object members => textsOf key members
  | value => .error ⟨value, .table true⟩

/-- A setting read with `as`; `none` where it is missing or null. -/
def Table.field {α : Type} (table : Table) (read : String → Json → Except TypeFault α)
    (key : String) : Except TypeFault (Option α) :=
  match Json.Members.find? table key with
  | none | some .null => .ok none
  | some value => (read key value).map some

end Handover.Settings
