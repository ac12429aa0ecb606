/-
  The document in which a host reports its installation.

  The document is one JSON object.  It is read as a table of settings, so the names of its members
  do not tell upper case from lower, and members of other names are passed over whatever they
  hold.  `readDocument` goes from the text to the snapshot.
-/
import Handover.Host.Snapshot
import Handover.Json.Reader

namespace Handover.Host

/-- The settings of a document. -/
def tableOf : Json → Except Settings.TypeFault Settings.Table
  | .object members => .ok (Settings.Table.ofMembers members)
  | value => .error ⟨value, .table false⟩

/-- The draft that a table of settings holds. -/
def Draft.ofTable (table : Settings.Table) : Except Settings.TypeFault Draft := do
  let exeSuffix ← table.field Settings.asText Field.exeSuffix.name
  let scripts ← table.field Settings.asText Field.scripts.name
  let schemes ← table.field Settings.asTexts Field.schemes.name
  let preferredUserScheme ← table.field Settings.asText Field.preferredUserScheme.name
  let osName ← table.field Settings.asText Field.osName.name
  let platform ← table.field Settings.asText Field.platform.name
  let framework ← table.field Settings.asFlag Field.framework.name
  let packageDir ← table.field Settings.asText Field.packageDir.name
  return {
    exeSuffix, scripts, schemes := schemes.map ByName.ofList, preferredUserScheme, osName
    platform, framework, packageDir }

/-- How far the reading of a document came. -/
inductive Reading where
  /-- The text is no table of settings. -/
  | unreadable (fault : DocumentFault)
  /-- A member of the table is of the wrong kind. -/
  | illTyped (fault : DocumentFault)
  /-- The table is a draft of a report. -/
  | draft (draft : Draft)

/-- Read the text of a document as far as it goes. -/
def Reading.of (text : String) : Reading :=
  match Json.read text with
  | .error fault => .unreadable (.unreadable fault)
  | .ok value =>
    match tableOf value with
    | .error fault => .unreadable (.illTyped fault)
    | .ok table =>
      match Draft.ofTable table with
      | .error fault => .illTyped (.illTyped fault)
      | .ok d => .draft d

/-- The snapshot that a reading gives. -/
def Reading.snapshot : Reading → Except Error Snapshot
  | .unreadable fault | .illTyped fault => .error (.parse fault)
  | .draft d => d.validate

/-- The snapshot that a document reports. -/
def readDocument (text : String) : Except Error Snapshot := (Reading.of text).snapshot

end Handover.Host
