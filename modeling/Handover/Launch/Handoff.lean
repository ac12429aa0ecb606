/-
  The two ways to hand the process over.

  A system that can replace the image of a process does so, and nothing of the launcher is left to
  run.  Elsewhere the executable is spawned, waited for, and its exit code passed on.
-/

namespace Handover

/-- How control goes to the executable. -/
inductive Handoff where
  /-- The launcher's process becomes the executable's. -/
  | replace
  /-- The executable is a child; its exit code is passed on. -/
  | spawnAndWait
deriving Repr, DecidableEq

namespace Handoff

/-- The way of a system that can replace processes. -/
def forHost : Handoff := .replace

/-- The way in an event. -/
def name : Handoff → String
  | .replace => "replace"
  | .spawnAndWait => "spawn_and_wait"

end Handoff

end Handover
