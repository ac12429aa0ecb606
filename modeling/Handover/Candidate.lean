/-
  The places where the executable may be.

  There are three, and they are always looked at in this order: the scripts directory of the active
  scheme, the scripts directory of the user scheme, and the directory `bin` beside the package.
-/
import Handover.Path

namespace Handover

/-- The layout a candidate comes from. -/
inductive CandidateKind where
  | standard
  | user
  | adjacentBin
deriving Repr, DecidableEq

namespace CandidateKind

/-- The kind in an event. -/
def name : CandidateKind → String
  | .standard => "standard"
  | .user => "user"
  | .adjacentBin => "adjacent_bin"

/-- The place of a kind in the order of the search. -/
def rank : CandidateKind → Nat
  | .standard => 0
  | .user => 1
  | .adjacentBin => 2

end CandidateKind

/-- A place that may hold the executable. -/
structure Candidate where
  kind : CandidateKind
  path : Path
deriving Repr, DecidableEq

/-- The base name of the executable that the launcher hands over to. -/
def targetBaseName : String := "pymermaider"

/-- The directory of executables beside a package. -/
def adjacentBinDir : String := "bin"

/-- The name of the executable on a host: the base name and the host's suffix, as they are. -/
def targetFilename (baseName exeSuffix : String) : String := baseName ++ exeSuffix

/-- The file in the directory `bin` beside a package directory.  A root that has no parent is its
    own. -/
def adjacentBinPath (packageRoot : Path) (filename : String) : Path :=
  let above := (Path.parent? packageRoot).getD packageRoot
  Path.join (Path.join above (Path.ofString adjacentBinDir)) (Path.ofString filename)

/-! ## Readings -/

example : adjacentBinPath (Path.ofString "/opt/t/pkg") "x" = Path.ofString "/opt/t/bin/x" := by
  decide
example : adjacentBinPath (Path.ofString "//") "x" = Path.ofString "//bin/x" := by decide

end Handover
