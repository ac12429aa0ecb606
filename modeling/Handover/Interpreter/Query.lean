/-
  What an interpreter makes of the query program.

  The program first takes the working directory off the search path.  Then it loads what it needs,
  asks the module `sysconfig` about the installation, looks for the package, and writes one
  document.  All that it calls it calls by the names of modules, so a module that is found before
  the one that comes with the interpreter is asked instead.  A module of the library that nothing
  else has loaded need not be loaded for what the interpreter can do itself.

  A report in which every place is a path and every name a text is a description of the host, and
  its document is the document of that description.
-/
import Handover.Host.Description
import Handover.Host.Query
import Handover.Interpreter.Evaluation

namespace Handover.Interpreter

open CodePoints (ofString)

/-! ## The search path -/

/-- Take the working directory off the search path. -/
def leaveCwdOut (ev : Evaluator) : Act Unit := do
  let w := (← get).world
  let cwd := match w.files.node? w.cwd with
    | some .directory => some w.cwdPath
    | _ => none
  match ← moduleValue? "sys" "path" with
  | some (.object address) =>
    let entries ← pathsIn ev (.object address)
    replace address (.list ((withoutCwd cwd entries).map .ofPath))
  | _ => pure ()

/-! ## Modules -/

/-- A module is part of the interpreter or of its library. -/
def isOwn (ev : Evaluator) (name : String) : Act Bool := do
  match find (← get).world (← searchPathNow ev) name with
  | some .builtIn | some .frozen | some (.library _) => return true
  | _ => return false

/-- Load a module unless the interpreter can do what is asked of it itself. -/
def loadForeign (ev : Evaluator) (name : String) : Act Unit := do
  if (← knownModule? name).isNone && (← isOwn ev name) then return ()
  else
    let _ ← moduleNamed ev name

/-- Call a function of a module; `act` does the same where the module has not been loaded. -/
def callOr {α : Type} (ev : Evaluator) (module name : String) (args : List Value)
    (wrap : Value → α) (act : Act α) : Act α := do
  match ← knownModule? module with
  | some m => return wrap (← ev.call (← attributeOf ev m name) args [])
  | none => act

/-! ## Places -/

/-- A place in a report. -/
inductive Place where
  | unknown
  | path (path : Path)
  /-- What a foreign module has made of a path. -/
  | other (value : Value)

/-- A place in the document. -/
def Place.value : Place → Value
  | .unknown => .none
  | .path p => .ofString (Host.Description.asciiText (Base64.encode p))
  | .other v => v

/-- The place that a value names. -/
def placeOf? (ev : Evaluator) (v : Value) : Act Place := do
  if v.isNone then return .unknown
  let bytes ← callOr ev "os" "fsencode" [v] id (do return .bytes (← pathBytes ev v))
  match ← knownModule? "base64", ← bytes? bytes with
  | none, some b => return .path b
  | known, _ =>
    let encoded ← match known with
      | some m => ev.call (← attributeOf ev m "b64encode") [bytes] []
      | none => pure (Value.bytes (Base64.encode (← bytesArgument bytes)))
    return .other (← ev.call (← attributeOf ev encoded "decode") [.ofString "ascii"] [])

/-! ## The report -/

/-- What the program has found out. -/
structure Report where
  exeSuffix : Value
  scripts : Place
  schemes : List (Value × Place)
  preferred : Value
  osName : Value
  platform : Value
  framework : Bool
  package : Place

namespace Report

/-- The text of a value in which no half of a pair stands alone. -/
def string? : Value → Option String
  | .text t => if t.any CodePoints.isHalf then none else some t.display
  | _ => none

/-- A path or nothing. -/
def path? : Place → Option (Option Path)
  | .unknown => some none
  | .path p => some (some p)
  | .other _ => none

/-- The schemes of a description. -/
def schemes? (schemes : List (Value × Place)) : Option (List (String × Option Path)) :=
  schemes.mapM fun (name, place) => do return (← string? name, ← path? place)

/-- The description of the host that a report is. -/
def description? (r : Report) : Option Host.Description := do
  return {
    exeSuffix := ← string? r.exeSuffix
    scripts := ← path? r.scripts
    schemes := ← schemes? r.schemes
    preferredUserScheme := ← match r.preferred with
      | .none => some none
      | v => (string? v).map some
    osName := ← string? r.osName
    platform := ← string? r.platform
    framework := r.framework
    packageDir := ← path? r.package }

/-- The report as a dictionary. -/
def toDict (r : Report) : Act Value := do
  let schemes ← makeDict (r.schemes.map fun e => (e.1, e.2.value))
  makeDict <| [("exe_suffix", r.exeSuffix), ("scripts", r.scripts.value), ("schemes", schemes),
    ("preferred_user_scheme", r.preferred), ("os_name", r.osName), ("platform", r.platform),
    ("framework", .bool r.framework), ("package_dir", r.package.value)].map
    fun e => (.ofString e.1, e.2)

end Report

/-! ## Asking -/

/-- The entries with one of them set, at its place if it is there. -/
def setPlace (name : Value) (place : Place) : List (Value × Place) → List (Value × Place)
  | [] => [(name, place)]
  | (n, p) :: rest => if n.same name then (n, place) :: rest else (n, p) :: setPlace name place rest

/-- The scripts directories of the schemes; those that the module does not know are left out. -/
def askSchemes (ev : Evaluator) (module : Value) : Act (List (Value × Place)) := do
  let names ← itemsOf ev (← ev.call (← attributeOf ev module "get_scheme_names") [] [])
  names.foldlM
    (fun (done : List (Value × Place)) name => do
      try
        let getPath ← attributeOf ev module "get_path"
        let place ← placeOf? ev (← ev.call getPath [.ofString "scripts"] [("scheme", name)])
        return setPlace (← keyOf name) place done
      catch raised =>
        if (← isRaised raised "KeyError") || (← isRaised raised "ValueError") then return done
        else throw raised)
    []

/-- The name of the package: the first argument of the program. -/
def askedPackage (ev : Evaluator) : Act Value := do
  match ← moduleValue? "sys" "argv" with
  | some argv =>
    match ← itemsOf ev argv with
    | _ :: name :: _ => return name
    | _ => return .text []
  | none => return .text []

/-- The directory of the package, if it can be found.  Errors that say as much are not passed on. -/
def askPackage (ev : Evaluator) (package : Value) : Act Value := do
  if !(← truth ev package) then return .none
  let found ← try
      match ← knownModule? "importlib.util" with
      | some m => ev.call (← attributeOf ev m "find_spec") [package] []
      | none => loadingFunction ev "find_spec" { byPlace := [package] }
    catch raised =>
      if (← isRaised raised "ImportError") || (← isRaised raised "ValueError") then pure .none
      else throw raised
  if found.isNone then return .none
  let origin ← attributeOf ev found "origin"
  if ← truth ev origin then
    match ← moduleValue? "os" "path" with
    | some path => ev.call (← attributeOf ev path "dirname") [origin] []
    | none => return .ofPath (Found.directoryOf (← pathBytes ev origin))
  else
    let places ← attributeOf ev found "submodule_search_locations"
    if ← truth ev places then
      match ← itemsOf ev places with
      | place :: _ => return place
      | [] => fail "IndexError" "list index out of range"
    else return .none

/-- Ask everything. -/
def makeReport (ev : Evaluator) : Act Report := do
  let module ← moduleNamed ev "sysconfig"
  let package ← askedPackage ev
  let schemes ← askSchemes ev module
  let preferred ← attributeOr ev
    { byPlace := [module, .ofString "get_preferred_scheme", .none] }
  let directory ← askPackage ev package
  let suffix ← ev.call (← attributeOf ev module "get_config_var") [.ofString "EXE"] []
  let exeSuffix ← if ← truth ev suffix then pure suffix else pure (.text [])
  let scripts ← placeOf? ev
    (← ev.call (← attributeOf ev module "get_path") [.ofString "scripts"] [])
  let preferred ← if ← truth ev preferred then ev.call preferred [.ofString "user"] []
    else pure .none
  let osName ← match ← knownModule? "os" with
    | some os => attributeOf ev os "name"
    | none => pure (.ofString "posix")
  let sys := (← knownModule? "sys").getD .none
  let platform ← attributeOf ev sys "platform"
  let framework ← attributeOr ev { byPlace := [sys, .ofString "_framework", .text []] }
  return {
    exeSuffix, scripts, schemes, preferred, osName, platform
    framework := ← truth ev framework
    package := ← placeOf? ev directory }

/-- Write a report. -/
def writeReport (ev : Evaluator) (r : Report) : Act Unit := do
  let sys := (← knownModule? "sys").getD .none
  let json ← knownModule? "json"
  match r.description?, json with
  | some d, none => do
    let out ← attributeOf ev sys "stdout"
    let _ ← ev.call (← attributeOf ev out "write") [.ofString d.document] []
  | _, _ => do
    let table ← r.toDict
    let out ← attributeOf ev sys "stdout"
    let dump ← match json with
      | some m => attributeOf ev m "dump"
      | none => pure (.provided "json.dump")
    let _ ← ev.call dump [table, out] []

/-- Run the query program. -/
def answerQuery (ev : Evaluator) : Act Unit := do
  leaveCwdOut ev
  for name in ["base64", "importlib", "importlib.util", "json"] do loadForeign ev name
  writeReport ev (← makeReport ev)

end Handover.Interpreter
