/-
  Finding modules and packages.

  A directory holds a module of a name as a directory with a file `__init__` in it, or as one file;
  the file has one of several endings, which are tried in order.  A directory without such a file is
  a part of a package that may have parts elsewhere; it counts only where no entry of the search
  path holds the module itself.
-/
import Handover.Interpreter.Library
import Handover.Interpreter.SearchPath

namespace Handover.Interpreter

open Machine (World)

/-- Where a module was found. -/
inductive Found where
  /-- In the interpreter itself. -/
  | builtIn
  /-- With the interpreter, in a prepared form. -/
  | frozen
  /-- In the directory of the library. -/
  | library (isPackage : Bool)
  | package (directory source : Path)
  | file (source : Path)
  /-- The directories of a package in parts. -/
  | parts (directories : List Path)
deriving Repr, DecidableEq

/-- The endings of files that hold modules; only those with the source can be run here. -/
def sourceEndings : List String :=
  [".cpython-312-x86_64-linux-gnu.so", ".abi3.so", ".so", ".py", ".pyc"]

/-- The first of some files that is there. -/
def firstFile (w : World) (stem : Path) : Option Path :=
  (sourceEndings.map fun ending => stem ++ Path.ofString ending).find? w.isRegularFile

/-- The path names a directory. -/
def isDirectory (w : World) (path : Path) : Bool :=
  match w.files.status w.cwd path with
  | .ok (_, .directory) => true
  | _ => false

/-- A name that an entry of a directory can have. -/
def isEntryName (name : Bytes) : Bool :=
  !name.isEmpty && !name.contains Path.slash && !name.contains 0

/-- The bytes without the slashes at their end. -/
def dropTrailingSlashes (p : Path) : Path := (p.reverse.dropWhile (· == Path.slash)).reverse

/-- An entry of the search path as a directory. -/
def entryDirectory (w : World) (entry : Path) : Path :=
  if isBareCwd entry then w.cwdPath
  else if Path.isAbsolute entry then entry
  else Path.join w.cwdPath entry

/-- The path lies in the directory of the library, or is it. -/
def isInLibrary (directory : Path) : Bool :=
  let library := Path.ofString Library.directory
  directory == library || (library ++ [Path.slash]).isPrefixOf directory

/-- The name behind the last dot of the whole name of a module. -/
def lastName (name : String) : String := (name.splitOn ".").getLastD name

/-- Find a module in the directories of a search path; `parts` are those found on the way. -/
def findFrom (w : World) (name : String) : List Path → List Path → Option Found
  | parts, [] => if parts.isEmpty then none else some (.parts parts)
  | parts, entry :: rest =>
    let directory := entryDirectory w entry
    if isInLibrary directory then
      if Library.packages.contains name then some (.library true)
      else if Library.files.contains name then some (.library false)
      else findFrom w name parts rest
    else
      let inner := dropTrailingSlashes directory ++ Path.slash :: Text.encode (lastName name)
      if !isDirectory w directory then findFrom w name parts rest
      else
        let init := if isDirectory w inner then
            firstFile w (inner ++ Path.ofString "/__init__")
          else none
        match init, firstFile w inner with
        | some source, _ => some (.package inner source)
        | none, some source => some (.file source)
        | none, none =>
          if isDirectory w inner then findFrom w name (parts ++ [inner]) rest
          else findFrom w name parts rest

/-- Find a module in the directories of a search path. -/
def find (w : World) (searchPath : List Path) (name : String) : Option Found :=
  if Library.builtIn.contains name then some .builtIn
  else if Library.frozen.contains name then some .frozen
  else if isEntryName (Text.encode (lastName name)) then findFrom w name [] searchPath
  else none

namespace Found

/-- The file of a module in the directory of the library. -/
def libraryFile (name : String) (isPackage : Bool) : Path :=
  Path.ofString
    (Library.directory ++ "/" ++ "/".intercalate (name.splitOn ".")
      ++ if isPackage then "/__init__.py" else ".py")

/-- Where the module comes from, as the module itself tells. -/
def origin (name : String) : Found → Option Path
  | .builtIn => some (Path.ofString "built-in")
  | .frozen => some (Path.ofString "frozen")
  | .library isPackage => some (libraryFile name isPackage)
  | .package _ source | .file source => some source
  | .parts _ => none

/-- The directory of a path: all before its last slash, without the slashes at the end of that
    unless there is nothing else. -/
def directoryOf (path : Path) : Path :=
  let head := (path.reverse.dropWhile (· != Path.slash)).reverse
  let bare := dropTrailingSlashes head
  if bare = [] then head else bare

/-- The directories in which the modules of a package are looked for. -/
def searched (name : String) : Found → Option (List Path)
  | .library true => some [directoryOf (libraryFile name true)]
  | .package directory _ => some [directory]
  | .parts directories => some directories
  | _ => none

/-- The directory that is reported for a module. -/
def reported (name : String) (found : Found) : Option Path :=
  match found.origin name with
  | some path => some (directoryOf path)
  | none => (found.searched name).bind List.head?

end Found

/-! ## Readings -/

example : Found.directoryOf (Path.ofString "/a/b.py") = Path.ofString "/a" := by decide
example : Found.directoryOf (Path.ofString "//b.py") = Path.ofString "//" := by decide
example : Found.directoryOf (Path.ofString "built-in") = [] := by decide

end Handover.Interpreter
