/-
  What a host reports about its installation, and when a report is accepted.

  A *draft* is a report as it was written: every member may be missing and every directory is text
  in Base64.  `Draft.validate` turns it into a *snapshot* or gives the first rule it breaks, in
  this order: the suffix is there and has no separator, the scripts directory is there and
  decodes, the two platform names are there, the directories of the schemes decode in the order of
  their names, the package directory decodes.

  Two notions of "nothing" meet here.  A text of blanks alone counts as missing; but among the
  schemes only the empty text does, and a text of blanks decodes to the empty path.
-/
import Handover.Host.Scheme
import Handover.Host.Error
import Handover.Path
import Handover.Text.Blank

namespace Handover.Host

/-- Entries by name, in the order of the names. -/
abbrev ByName (α : Type) := List (String × α)

namespace ByName

/-- The entry of a name. -/
def find? {α : Type} (d : ByName α) (name : String) : Option α :=
  (List.find? (fun e => e.1 == name) d).map Prod.snd

/-- The entries with one of them set. -/
def insert {α : Type} (name : String) (value : α) : ByName α → ByName α
  | [] => [(name, value)]
  | (n, v) :: rest =>
    if name < n then (name, value) :: (n, v) :: rest
    else if n = name then (name, value) :: rest
    else (n, v) :: insert name value rest

/-- The entries without one of them. -/
def erase {α : Type} (name : String) (d : ByName α) : ByName α :=
  d.filter fun e => e.1 != name

/-- Entries given in any order; of two with one name the later counts. -/
def ofList {α : Type} (entries : List (String × α)) : ByName α :=
  entries.foldl (fun d e => insert e.1 e.2 d) []

end ByName

/-- A report as it was written. -/
structure Draft where
  exeSuffix : Option String := none
  scripts : Option String := none
  schemes : Option (ByName String) := none
  preferredUserScheme : Option String := none
  osName : Option String := none
  platform : Option String := none
  framework : Option Bool := none
  packageDir : Option String := none
deriving Repr, DecidableEq

/-- What a host reports about its installation. -/
structure Snapshot where
  /-- What the host appends to the names of executables. -/
  exeSuffix : String
  /-- The scripts directory of the active scheme. -/
  scripts : Path
  /-- The scripts directories of the schemes. -/
  schemes : ByName Path
  /-- The name of the user scheme, if the host can tell. -/
  preferredUserScheme : Option String
  platform : Platform
  /-- The directory of the package, if the host found it. -/
  packageDir : Option Path
deriving Repr, DecidableEq

/-! ## Validation -/

/-- A text, unless there is nothing but blanks in it. -/
def nonBlank (text : Option String) : Option String := text.filter fun s => !Text.isAllBlank s

/-- A member that must be there. -/
def required {α : Type} (field : Field) : Option α → Except Error α
  | some value => .ok value
  | none => .error (.missingField field)

/-- The path that a text stands for, once the blanks around it are taken away. -/
def decodePath (field : Field) (text : String) : Except Error Path :=
  match Base64.decode (Text.encode (Text.trim text)) with
  | .ok path => .ok path
  | .error fault => .error (.invalidField field (.encoding fault))

/-- A sign that separates the names of a path, on any system. -/
def isSeparator (c : Char) : Bool := c == '/' || c == '\\'

/-- A suffix that stays within one name. -/
def checkSuffix (suffix : String) : Except Error Unit :=
  if suffix.toList.any isSeparator then .error (.invalidField .exeSuffix (.separator suffix))
  else .ok ()

/-- The directories of the schemes; an empty text is no directory. -/
def decodeSchemes : ByName String → Except Error (ByName Path)
  | [] => .ok []
  | (name, text) :: rest =>
    if text = "" then decodeSchemes rest
    else do
      let path ← decodePath .schemes text
      let paths ← decodeSchemes rest
      return (name, path) :: paths

/-- The directory of the package, if one is given. -/
def decodeOptional (field : Field) : Option String → Except Error (Option Path)
  | none => .ok none
  | some text => (decodePath field text).map some

/-- The snapshot of a draft, or the first rule that the draft breaks. -/
def Draft.validate (draft : Draft) : Except Error Snapshot := do
  let exeSuffix ← required .exeSuffix draft.exeSuffix
  checkSuffix exeSuffix
  let scripts ← required .scripts (nonBlank draft.scripts)
  let scripts ← decodePath .scripts scripts
  let osName ← required .osName (nonBlank draft.osName)
  let platform ← required .platform (nonBlank draft.platform)
  let schemes ← decodeSchemes (draft.schemes.getD [])
  let packageDir ← decodeOptional .packageDir (nonBlank draft.packageDir)
  return {
    exeSuffix, scripts, schemes
    preferredUserScheme := nonBlank draft.preferredUserScheme
    platform := { osName, platform, framework := draft.framework.getD false }
    packageDir }

end Handover.Host
