/-
  What can go wrong when the executable is run, and the failures of the launcher as a whole.
-/
import Handover.Resolve

namespace Handover

/-- Why the executable did not run. -/
inductive LaunchError where
  | replace (path : Path) (source : OsError)
  | spawn (path : Path) (source : OsError)
  | wait (path : Path) (source : OsError)
  | replaceUnsupported (path : Path)
deriving Repr, DecidableEq

namespace LaunchError

/-- The words of an error. -/
def message : LaunchError → String
  | .replace path source =>
    s!"Failed to replace the current process with {Path.display path}: {source.message}"
  | .spawn path source => s!"Failed to spawn {Path.display path}: {source.message}"
  | .wait path source => s!"Failed to wait for {Path.display path}: {source.message}"
  | .replaceUnsupported path =>
    s!"Process replacement is not supported on this platform ({Path.display path})"

/-- The words of the error behind an error. -/
def source? : LaunchError → Option String
  | .replace _ source | .spawn _ source | .wait _ source => some source.message
  | .replaceUnsupported _ => none

end LaunchError

/-- A failure of one of the three stages of a launch. -/
inductive Failure where
  | host (error : Host.Error)
  | resolve (error : ResolveError)
  | launch (error : LaunchError)

namespace Failure

/-- The words of a failure. -/
def message : Failure → String
  | .host error => error.message
  | .resolve error => error.message
  | .launch error => error.message

/-- The words of the error behind a failure. -/
def source? : Failure → Option String
  | .host error => error.source?
  | .resolve error => error.source?
  | .launch error => error.source?

/-- A failure and what lies behind it, the failure first. -/
def causes (f : Failure) : List String := f.message :: f.source?.toList

end Failure

end Handover
