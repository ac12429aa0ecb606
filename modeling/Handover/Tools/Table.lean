/-
  The small tools of the system, by name.
-/
import Handover.Tools.Env
import Handover.Tools.Files
import Handover.Tools.System

namespace Handover.Tools

open Machine (Ran)

/-- The tools.  Each is given the way in which it could start another. -/
def table : List (String × (Starter → Call → Ran)) :=
  [("cat", fun _ => cat), ("echo", fun _ => echo), ("printf", fun _ => printf),
   ("true", fun _ c => c.ends 0 []), ("false", fun _ c => c.ends 1 []), ("sleep", fun _ => sleep),
   ("env", env), ("printenv", fun _ => printenv), ("nohup", nohup), ("nice", nice),
   ("timeout", timeout), ("setsid", setsid), ("head", fun _ => head), ("tail", fun _ => tail),
   ("wc", fun _ => wc), ("sort", fun _ => sort), ("uniq", fun _ => uniq), ("cut", fun _ => cut),
   ("tr", fun _ => tr), ("tee", fun _ => tee), ("tac", fun _ => tac), ("seq", fun _ => seq),
   ("basename", fun _ => basename), ("dirname", fun _ => dirname),
   ("readlink", fun _ => readlink), ("realpath", fun _ => realpath), ("pwd", fun _ => pwd),
   ("chmod", fun _ => chmod), ("mkdir", fun _ => mkdir), ("rmdir", fun _ => rmdir),
   ("rm", fun _ => rm), ("touch", fun _ => touch), ("cp", fun _ => cp), ("mv", fun _ => mv),
   ("ln", fun _ => ln), ("ls", fun _ => ls), ("uname", fun _ => uname),
   ("whoami", fun _ => whoami), ("id", fun _ => id), ("test", fun _ => test false),
   ("[", fun _ => test true), ("expr", fun _ => expr)]

/-- Run a tool.  A name that no tool has cannot be run. -/
def run (start : Starter) (name : String) (c : Call) : Ran :=
  match table.find? fun e => e.1 == name with
  | some (_, tool) => tool start c
  | none => c.ends 127 []

end Handover.Tools
