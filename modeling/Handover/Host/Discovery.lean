/-
  Finding an interpreter and asking it about the installation.

  Interpreters are tried in order.  One that is not there is passed over, and so is one whose exit
  code says that nothing is behind its name.  The first that is there decides: it could not be
  started, or it failed, or its document is read, whatever comes of that.  No later one is started.
-/
import Handover.Ending
import Handover.Host.Document
import Handover.Host.Provider
import Handover.Host.Query

namespace Handover.Host

/-- The interpreters that are tried where nothing else is said. -/
def defaultInterpreters : List String := ["python3", "python"]

/-- The exit codes that say that no interpreter is installed behind a name. -/
def notInstalledCodes : List Int := [127, 9009]

/-- What came of asking one interpreter. -/
inductive Attempt where
  /-- The name could not be found. -/
  | absent
  /-- It was started and exited as not installed. -/
  | notInstalled (exitCode : Int)
  | failed (error : Error)
  | answered (document : String)

/-- What comes of asking an interpreter, told from how its process ended. -/
def Attempt.of (interpreter : String) : Except OsError Finished → Attempt
  | .error e =>
    if e = .notFound then .absent else .failed (.interpreterSpawn interpreter e)
  | .ok finished =>
    match finished.ending.code? with
    | some code =>
      if code ∈ notInstalledCodes then .notInstalled code
      else if code = 0 then .answered (Text.display finished.output)
      else .failed (.queryFailed interpreter code (Text.trim (Text.display finished.errors)))
    | none => .failed (.queryFailed interpreter none (Text.trim (Text.display finished.errors)))

/-- The events of reading a document. -/
def Reading.events : Reading → List Event
  | .unreadable fault => [.documentUnreadable (Error.parse fault).message]
  | .illTyped fault => [.documentIllTyped (Error.parse fault).message]
  | .draft _ => []

/-- Read a document and report if it is not in order. -/
def readReported (document : String) : Traced (Except Error Snapshot) :=
  let reading := Reading.of document
  ⟨reading.events.map .emitted, reading.snapshot⟩

/-- Ask the interpreters in order.  `start` runs a command without input; `s` is what it depends
    on and may change. -/
def querySnapshot {σ : Type} (start : Command → σ → Except OsError Finished × σ)
    (package : String) (tried : List String) :
    List String → σ → Traced (Except Error Snapshot × σ)
  | [], s => return (.error (.interpreterUnavailable tried), s)
  | interpreter :: rest, s => do
    let command := queryCommand interpreter package
    Traced.step (.started command)
    let (outcome, s) := start command s
    match Attempt.of interpreter outcome with
    | .absent =>
      Traced.emit (.interpreterUnavailable interpreter)
      querySnapshot start package tried rest s
    | .notInstalled code =>
      Traced.emit (.exitedAsNotInstalled interpreter code)
      Traced.emit (.interpreterUnavailable interpreter)
      querySnapshot start package tried rest s
    | .failed error => return (.error error, s)
    | .answered document =>
      Traced.emit (.configurationLoaded interpreter)
      return (← readReported document, s)

/-- The installation that the first interpreter reports which is there. -/
def discover {σ : Type} (start : Command → σ → Except OsError Finished × σ)
    (launcherDir : Option Path) (interpreters : List String) (package : String) (s : σ) :
    Traced (Except Error Installation × σ) := do
  let (outcome, s) ← querySnapshot start package interpreters interpreters s
  return (outcome.map fun snapshot => ⟨snapshot, launcherDir⟩, s)

end Handover.Host
