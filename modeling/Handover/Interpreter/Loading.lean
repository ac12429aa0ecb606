/-
  Loading modules.

  A module is loaded once; what is known under its name from then on is given back to all who ask
  for it.  A module below another one is loaded after that, and becomes an attribute of it.
-/
import Handover.Interpreter.Package

namespace Handover.Interpreter

open CodePoints (ofString)

/-! ## Modules that are known -/

/-- What is known under the name of a module. -/
def knownModule? (name : String) : Act (Option Value) := do name? (← get).modules name

/-- Make a module known. -/
def setModule (name : String) (module : Value) : Act Unit := do
  setName (← get).modules name module

/-- No module of a name was found. -/
def failMissing {α : Type} (name why : String) : Act α := do
  let exception ← makeException "ModuleNotFoundError" [.ofString (s!"No module named '{name}'" ++ why)]
  match ← objectOf exception with
  | some (.instance_ _ attributes _) => setName attributes "name" (.ofString name)
  | _ => pure ()
  throw (.exception exception)

/-- The table of the names of a module. -/
def tableOf? (module : Value) : Act (Option Nat) := do
  match ← objectOf module with
  | some (.module _ names) => return some names
  | _ => return none

/-! ## New modules -/

/-- The description of a module: its name, where it comes from, and where its parts lie. -/
def makeSpec (name : String) (origin : Option Value) (places : Option Value) : Act Value := do
  let parent := if places.isSome then name
    else ".".intercalate ((name.splitOn ".").dropLast)
  let attributes ← makeTable
    [("name", .ofString name), ("loader", .none), ("origin", origin.getD .none),
     ("submodule_search_locations", places.getD .none), ("parent", .ofString parent),
     ("has_location", .bool origin.isSome), ("cached", .none), ("loader_state", .none)]
  make (.instance_ (.kind "ModuleSpec") attributes .none)

/-- The description of a module that was found. -/
def specOf (name : String) (found : Found) : Act Value := do
  let places ← match found.searched name with
    | some dirs => do pure (some (← makeList (dirs.map .ofPath)))
    | none => pure none
  makeSpec name ((found.origin name).map .ofPath) places

/-- The source of a program as characters. -/
def decodeSource (bytes : Bytes) : Act (List Char) := do
  let bytes := if [0xEF, 0xBB, 0xBF].isPrefixOf bytes then bytes.drop 3 else bytes
  if bytes.contains 0 then fail "SyntaxError" "source code string cannot contain null bytes"
  match CodePoints.decodeUtf8 .strict (bytes.length + 1) 0 bytes with
  | .ok text => return CodePoints.chars text
  | .error _ => fail "SyntaxError" "(unicode error) 'utf-8' codec can't decode the source"

/-- Run a source in a module. -/
def runSource (ev : Evaluator) (table : Nat) (source : List Char) : Act Unit := do
  match Parser.program? source with
  | none => fail "SyntaxError" "invalid syntax"
  | some (body, names) =>
    match documentation body with
    | .none => pure ()
    | text => setName table "__doc__" text
    runModule ev { names, locals := table, globals := table, enclosing := [] } body

/-- Fill a module that comes with the interpreter. -/
def fillProvided (ev : Evaluator) (name : String) (table : Nat) : Act Unit := do
  match Library.provision? name with
  | none => failMissing name ""
  | some p =>
    for (n, f) in p.functions do setName table n (.provided f)
    for (n, v) in p.values do setName table n v
    if name == "os" || name == "posixpath" then
      setName table "environ" (.object (← get).environ)
    if !p.source.isEmpty then runSource ev table p.source.toList

/-- Fill a module from its file. -/
def fillFromFile (ev : Evaluator) (name : String) (table : Nat) (source : Path) : Act Unit := do
  let w := (← get).world
  if !(Path.ofString ".py").isSuffixOf source then
    fail "ImportError" (Text.display source ++ ": file too short")
  match w.files.status w.cwd source with
  | .ok (_, .file _ content) => runSource ev table (← decodeSource content)
  | .ok _ => failMissing name ""
  | .error e => failSystem e [.ofPath source]

/-- Load a module that was found, and make it known. -/
def loadFound (ev : Evaluator) (name : String) (found : Found) : Act Value := do
  if name == "builtins" then
    let module ← make (.module name (← get).common)
    setModule name module
    return module
  let spec ← specOf name found
  let module ← makeModule name []
  let table := (← tableOf? module).getD 0
  setName table "__doc__" .none
  setName table "__package__" (← attributeOf ev spec "parent")
  setName table "__loader__" .none
  setName table "__spec__" spec
  match found with
  | .package _ source | .file source => setName table "__file__" (.ofPath source)
  | .library isPackage =>
    setName table "__file__" (.ofPath (Found.libraryFile name isPackage))
  | .frozen => setName table "__file__" (.ofPath (Found.libraryFile name false))
  | .builtIn | .parts _ => pure ()
  if (found.searched name).isSome then
    setName table "__path__" (← attributeOf ev spec "submodule_search_locations")
  setModule name module
  try
    match found with
    | .builtIn | .frozen | .library _ => fillProvided ev name table
    | .package _ source | .file source => fillFromFile ev name table source
    | .parts _ => pure ()
  catch raised =>
    eraseName (← get).modules name
    throw raised
  return (← knownModule? name).getD module

/-! ## Finding -/

/-- The paths in a list of entries; what is no text is passed over. -/
def pathsIn (ev : Evaluator) (entries : Value) : Act (List Path) := do
  return (← itemsOf ev entries).filterMap fun v =>
    match v with
    | .text t => CodePoints.toPath? t
    | _ => none

/-- The entries of the search path. -/
def searchPathNow (ev : Evaluator) : Act (List Path) := do
  match ← moduleValue? "sys" "path" with
  | some entries => pathsIn ev entries
  | none => return []

/-- The next module on the way down a dotted name. -/
def loadNext (ev : Evaluator) (above : Option (String × Value)) (part : String) :
    Act (String × Value) := do
  let name := match above with
    | some (n, _) => n ++ "." ++ part
    | none => part
  match ← knownModule? name with
  | some .none => fail "ModuleNotFoundError" s!"import of {name} halted; None in sys.modules"
  | some module => return (name, module)
  | none =>
    let places ← match above with
      | none => searchPathNow ev
      | some (parent, module) =>
        match ← attribute? ev module "__path__" with
        | some places => pathsIn ev places
        | none => failMissing name s!"; '{parent}' is not a package"
    match find (← get).world places name with
    | none => failMissing name ""
    | some found =>
      let module ← loadFound ev name found
      match above with
      | some (_, parent) => setAttribute ev parent part module
      | none => pure ()
      return (name, module)

/-- Load the modules of a dotted name one after another. -/
def loadDown (ev : Evaluator) : Option (String × Value) → List String → Act Value
  | some (_, module), [] => return module
  | none, [] => return .none
  | above, part :: rest => do loadDown ev (some (← loadNext ev above part)) rest

/-- The whole name of a module that is named from within a package. -/
def resolveName (name : String) (package : Value) : Act String := do
  let level := (name.toList.takeWhile (· == '.')).length
  let rest := (name.drop level).toString
  if level = 0 then return name
  else
    match ← plain package with
    | .text t =>
      if t.isEmpty then
        fail "ImportError" "attempted relative import with no known parent package"
      let parts := t.display.splitOn "."
      if parts.length < level then
        fail "ImportError" "attempted relative import beyond top-level package"
      let above := parts.take (parts.length + 1 - level)
      return ".".intercalate (above ++ if rest.isEmpty then [] else [rest])
    | _ => fail "ImportError" "attempted relative import with no known parent package"

/-- The module of a whole name. -/
def moduleNamed (ev : Evaluator) (name : String) : Act Value := do
  if name.isEmpty then fail "ValueError" "Empty module name"
  match ← knownModule? name with
  | some .none => fail "ModuleNotFoundError" s!"import of {name} halted; None in sys.modules"
  | some module => return module
  | none => loadDown ev none (name.splitOn ".")

/-- Where a module would come from, without loading it; the packages it lies in are loaded. -/
def findSpec (ev : Evaluator) (given : String) (package : Value) : Act Value := do
  let name ← if given.startsWith "." && (← truth ev package) then resolveName given package
    else if given.startsWith "." then
      fail "ImportError"
        ("no package specified for '" ++ given ++ "' (required for relative module names)")
    else pure given
  match ← knownModule? name with
  | some .none => return .none
  | some module =>
    match ← attribute? ev module "__spec__" with
    | none => fail "ValueError" s!"{name}.__spec__ is not set"
    | some .none => fail "ValueError" s!"{name}.__spec__ is None"
    | some spec => return spec
  | none =>
    let above := (name.splitOn ".").dropLast
    let places ← if above.isEmpty then searchPathNow ev else do
      let parent := ".".intercalate above
      let module ← moduleNamed ev parent
      match ← attribute? ev module "__path__" with
      | some places => pathsIn ev places
      | none =>
        fail "ModuleNotFoundError"
          (s!"__path__ attribute not found on '{parent}' while trying to find '{name}'")
    match find (← get).world places name with
    | some found => specOf name found
    | none => return .none

/-! ## Functions -/

/-- Carry out a function that loads modules. -/
def loadingFunction (ev : Evaluator) (name : String) (g : Given) : Act Value := do
  match name with
  | "import_module" =>
    let wanted ← nameArgument "name" (g.get 0 "name")
    match g.get? 1 "package" with
    | none =>
      if wanted.startsWith "." then
        fail "TypeError"
          ("the 'package' argument is required to perform a relative import for '" ++ wanted ++ "'")
      moduleNamed ev wanted
    | some package => moduleNamed ev (← resolveName wanted package)
  | "import_top" =>
    let wanted ← nameArgument "name" (g.get 0 "name")
    let level ← intOr ev (g.get 4 "level") 0
    let package ← match g.get 1 "globals" with
      | .object table => name? table "__package__"
      | _ => pure none
    let dots := String.ofList (List.replicate level.toNat '.')
    let whole ← resolveName (dots ++ wanted) (package.getD .none)
    let module ← moduleNamed ev whole
    if ← truth ev (g.get 3 "fromlist") then return module
    else moduleNamed ev ((whole.splitOn ".").headD whole)
  | "find_spec" => findSpec ev (← nameArgument "name" (g.get 0 "name")) (g.get 1 "package")
  | "reload" =>
    let module := g.first
    match ← objectOf module with
    | some (.module name table) =>
      match find (← get).world (← searchPathNow ev) name with
      | some (.package _ source) | some (.file source) => fillFromFile ev name table source
      | some _ => pure ()
      | none => failMissing name ""
      return module
    | _ => fail "TypeError" "reload() argument must be a module"
  | _ => return .none

end Handover.Interpreter
