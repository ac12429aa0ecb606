/-
  An interpreter before it runs a program.

  Three modules are there from the start: `builtins`, with the names that every module knows,
  `sys`, which tells of the interpreter, and `__main__`, in which the program runs.  The search path
  begins with the directory of the program, which is put there when all else is done.
-/
import Handover.Interpreter.Evaluation
import Handover.Interpreter.Invocation

namespace Handover.Interpreter

open Machine (World)

/-! ## Names that every module knows -/

/-- The names that every module knows, with their values. -/
def commonNames (checking : Bool) : List (String × Value) :=
  [("__name__", .ofString "builtins"), ("__doc__", .none), ("__package__", .ofString ""),
   ("__debug__", .bool checking), ("Ellipsis", .ellipsis), ("NotImplemented", .notImplemented)]
  ++ (commonFunctions.map fun n => (n, Value.provided n))
  ++ (Kind.named.map fun n => (n, Value.kind n))
  ++ (((Kind.exceptionParents.map Prod.fst).filter fun n =>
        !Kind.exceptionsOfModules.contains n).map fun n => (n, Value.kind n))
  ++ [("EnvironmentError", .kind "OSError"), ("IOError", .kind "OSError")]

/-! ## What is told of the interpreter -/

/-- Where the interpreter is. -/
def executable : String := "/usr/bin/python3"

/-- The version of the interpreter. -/
def version : String := "3.12.3"

/-- An object with attributes. -/
def makeRecord (names : List (String × Value)) (payload : Value) : Act Value := do
  let kind := match payload with
    | .tuple _ => "tuple"
    | _ => "object"
  make (.instance_ (.kind kind) (← makeTable names) payload)

/-- An object whose attributes are the items of a tuple too. -/
def makeNamedTuple (names : List (String × Value)) : Act Value :=
  makeRecord names (.tuple (names.map Prod.snd))

/-- The version of the interpreter in parts. -/
def makeVersion : Act Value :=
  makeNamedTuple [("major", .int 3), ("minor", .int 12), ("micro", .int 3),
    ("releaselevel", .ofString "final"), ("serial", .int 0)]

/-- The switches of the interpreter. -/
def makeFlags (o : Options) : Act Value :=
  let flag := fun (b : Bool) => Value.int (if b then 1 else 0)
  makeNamedTuple [("debug", .int 0), ("inspect", .int 0), ("interactive", .int 0),
    ("optimize", flag o.optimised), ("dont_write_bytecode", .int 0),
    ("no_user_site", flag o.withoutUserSite), ("no_site", flag o.withoutSite),
    ("ignore_environment", flag o.ignoresEnvironment), ("verbose", .int 0),
    ("bytes_warning", .int 0), ("quiet", .int 0), ("hash_randomization", .int 1),
    ("isolated", flag (o.ignoresEnvironment && o.safePath && o.withoutUserSite)),
    ("dev_mode", .bool false), ("utf8_mode", .int 1), ("warn_default_encoding", .int 0),
    ("safe_path", .bool o.safePath), ("int_max_str_digits", .int 4300)]

/-- The limits of numbers of double precision. -/
def makeFloatLimits : Act Value :=
  makeNamedTuple [("max", .float 1.7976931348623157e308), ("max_exp", .int 1024),
    ("max_10_exp", .int 308), ("min", .float 2.2250738585072014e-308), ("min_exp", .int (-1021)),
    ("min_10_exp", .int (-307)), ("dig", .int 15), ("mant_dig", .int 53),
    ("epsilon", .float 2.220446049250313e-16), ("radix", .int 2), ("rounds", .int 1)]

/-- What is told of the interpreter, apart from its command line and its search path. -/
def interpreterNames (o : Options) : Act (List (String × Value)) := do
  let text := Value.ofString
  let version_ ← makeVersion
  let implementation ← makeRecord [("name", text "cpython"), ("cache_tag", text "cpython-312"),
    ("version", version_), ("hexversion", .int 0x030C03F0), ("_multiarch", text "x86_64-linux-gnu")]
    .none
  let input ← make (.stream { channel := .input, binary := false })
  let output ← make (.stream { channel := .output, binary := false })
  let errors ← make (.stream { channel := .errors, binary := false })
  let finders ← makeList []
  let warnings ← makeList []
  let places ← makeDict []
  return [("stdin", input), ("stdout", output), ("stderr", errors), ("__stdin__", input),
    ("__stdout__", output), ("__stderr__", errors), ("platform", text "linux"),
    ("version", text (version ++ " (main, Mar 23 2026, 19:04:32) [GCC 13.3.0]")),
    ("version_info", version_), ("hexversion", .int 0x030C03F0), ("api_version", .int 1013),
    ("implementation", implementation), ("flags", ← makeFlags o), ("executable", text executable),
    ("_base_executable", text executable), ("prefix", text "/usr"), ("exec_prefix", text "/usr"),
    ("base_prefix", text "/usr"), ("base_exec_prefix", text "/usr"), ("platlibdir", text "lib"),
    ("abiflags", text ""), ("_framework", text ""), ("byteorder", text "little"),
    ("maxsize", .int 9223372036854775807), ("maxunicode", .int 1114111),
    ("float_info", ← makeFloatLimits), ("pycache_prefix", .none),
    ("builtin_module_names", .tuple (Library.builtIn.map text)), ("meta_path", finders),
    ("path_hooks", finders), ("path_importer_cache", places), ("warnoptions", warnings),
    ("_xoptions", places), ("dont_write_bytecode", .bool false), ("float_repr_style", text "short"),
    ("stdlib_module_names", .tuple ((Library.builtIn ++ Library.frozen ++ Library.files
      ++ Library.packages).filter (fun n => !n.contains '.') |>.map text))]
    ++ (sysFunctions.map fun n => (n, Value.provided ("sys." ++ n)))
    ++ [("__excepthook__", .provided "sys.excepthook"),
        ("__displayhook__", .provided "sys.displayhook")]

/-! ## The search path -/

/-- The value of a variable of the environment that is set and not empty. -/
def setting? (o : Options) (w : World) (name : String) : Option Bytes :=
  if o.ignoresEnvironment then none
  else
    match w.valueOf? (Text.encode name) with
    | some [] | none => none
    | some value => some value

/-- The options that the environment adds to those of the command line. -/
def Options.withSettings (o : Options) (w : World) : Options :=
  let isSet := fun (name : String) => (setting? o w name).isSome
  { o with
    safePath := o.safePath || isSet "PYTHONSAFEPATH"
    withoutUserSite := o.withoutUserSite || isSet "PYTHONNOUSERSITE"
    unbuffered := o.unbuffered || isSet "PYTHONUNBUFFERED"
    optimised := o.optimised || isSet "PYTHONOPTIMIZE" }

/-- The home directory where no variable tells it. -/
def defaultHome : Path := Path.ofString "/root"

/-- The directory of the modules of the user. -/
def userSite (o : Options) (w : World) : Path :=
  let base := match setting? o w "PYTHONUSERBASE" with
    | some base => base
    | none =>
      dropTrailingSlashes ((w.valueOf? (Text.encode "HOME")).getD defaultHome)
        ++ Path.ofString "/.local"
  base ++ Path.ofString "/lib/python3.12/site-packages"

/-- The search path without the directory of the program. -/
def standardPath (o : Options) (w : World) : List Path :=
  let given := match setting? o w "PYTHONPATH" with
    | some text => Machine.splitAt Machine.colon text
    | none => []
  let library := Library.searchPath.map Path.ofString
  if o.withoutSite then given ++ library.take 3
  else
    let made := fun (entry : Path) =>
      match w.files.node? w.cwd, Path.isAbsolute entry with
      | some .directory, _ | _, true => absolute w.cwdPath entry
      | _, false => entry
    let site := userSite o w
    let ofUser := if !o.withoutUserSite && isDirectory w site then [site] else []
    dropRepeated [] ((given ++ library.take 3).map made ++ ofUser ++ library.drop 3)

/-! ## Starting -/

/-- What an interpreter knows before it runs anything. -/
def State.fresh (start : World → Command → Bytes → Except OsError Machine.Ran) (w : World)
    (o : Options) (input : Bytes) : State :=
  { world := w, start, input, steps := mostSteps, unbuffered := o.unbuffered
    checking := !o.optimised }

/-- A module that is there from the start. -/
def makeFirstModule (name : String) (names : List (String × Value)) : Act Nat := do
  let table ← makeTable
    ([("__name__", .ofString name), ("__doc__", .none), ("__package__", .ofString ""),
      ("__loader__", .none), ("__spec__", .none)] ++ names)
  setModule name (← make (.module name table))
  return table

/-- Make everything that is there from the start; the answer is the table of the names of
    `__main__`. -/
def setOut (o : Options) (words argv : List Bytes) : Act Nat := do
  let w := (← get).world
  let environ ← alloc (.dict (w.environment.map fun e => (.ofPath e.1, .ofPath e.2)))
  let common ← makeTable (commonNames !o.optimised)
  let modules ← alloc (.dict [])
  modify fun s => { s with environ, common, modules }
  let builtins ← make (.module "builtins" common)
  setModule "builtins" builtins
  let path ← makeList ((standardPath o w).map .ofPath)
  let arguments ← makeList (argv.map .ofPath)
  let all ← makeList (words.map .ofPath)
  let names := [("modules", .object modules), ("path", path), ("argv", arguments),
    ("orig_argv", all)] ++ (← interpreterNames o)
  let _ ← makeFirstModule "sys" names
  let main ← makeFirstModule "__main__"
    [("__builtins__", builtins), ("__annotations__", ← makeDict [])]
  setName main "__package__" .none
  return main

/-- Put a directory at the start of the search path. -/
def searchFirst (directory : Path) : Act Unit := do
  match ← moduleValue? "sys" "path" with
  | some (.object address) =>
    match ← object? address with
    | some (.list entries) => replace address (.list (.ofPath directory :: entries))
    | _ => pure ()
  | _ => pure ()

/-- Load the modules by which users change every interpreter, if there are any. -/
def customise (ev : Evaluator) (o : Options) : Act Unit := do
  if o.withoutSite then return ()
  for name in ["sitecustomize"] ++ if o.withoutUserSite then [] else ["usercustomize"] do
    match find (← get).world (← searchPathNow ev) name with
    | some (.file _) | some (.package ..) => let _ ← moduleNamed ev name
    | _ => pure ()

end Handover.Interpreter
