/-
  The question that is put to a host's interpreter.

  The interpreter is started with a program on its command line and the name of the package after
  it.  The program reports the installation in one document on the output.  What it reports, and
  how it looks for the package, is told in `Host/Description` and `Interpreter`.
-/
import Handover.Event

namespace Handover.Host

/-- The lines of the query program. -/
def queryLines : List String :=
  ["import sys",
   "",
   "# `-c` puts the working directory first on sys.path. It must be gone before",
   "# any non-builtin import and before the package lookup.",
   "sys.path[:] = [entry for entry in sys.path if entry not in (\"\", \".\")]",
   "",
   "import os",
   "",
   "try:",
   "    cwd = os.getcwd()",
   "except OSError:",
   "    cwd = None",
   "if cwd is not None:",
   "    sys.path[:] = [entry for entry in sys.path if os.path.abspath(entry) != cwd]",
   "",
   "import base64",
   "import importlib.util",
   "import json",
   "import sysconfig",
   "",
   "",
   "def encode_path(path):",
   "    if path is None:",
   "        return None",
   "    return base64.b64encode(os.fsencode(path)).decode(\"ascii\")",
   "",
   "",
   "package = sys.argv[1] if len(sys.argv) > 1 else \"\"",
   "",
   "schemes = \x7b\x7d",
   "for name in sysconfig.get_scheme_names():",
   "    try:",
   "        schemes[name] = encode_path(sysconfig.get_path(\"scripts\", scheme=name))",
   "    except (KeyError, ValueError):",
   "        pass",
   "",
   "preferred = getattr(sysconfig, \"get_preferred_scheme\", None)",
   "",
   "package_dir = None",
   "if package:",
   "    try:",
   "        found = importlib.util.find_spec(package)",
   "    except (ImportError, ValueError):",
   "        found = None",
   "    if found is not None:",
   "        if found.origin:",
   "            package_dir = os.path.dirname(found.origin)",
   "        elif found.submodule_search_locations:",
   "            package_dir = list(found.submodule_search_locations)[0]",
   "",
   "json.dump(",
   "    \x7b",
   "        \"exe_suffix\": sysconfig.get_config_var(\"EXE\") or \"\",",
   "        \"scripts\": encode_path(sysconfig.get_path(\"scripts\")),",
   "        \"schemes\": schemes,",
   "        \"preferred_user_scheme\": preferred(\"user\") if preferred else None,",
   "        \"os_name\": os.name,",
   "        \"platform\": sys.platform,",
   "        \"framework\": bool(getattr(sys, \"_framework\", \"\")),",
   "        \"package_dir\": encode_path(package_dir),",
   "    \x7d,",
   "    sys.stdout,",
   ")"]

/-- The query program. -/
def queryProgram : String := String.join (queryLines.map fun line => line ++ "\n")

/-- The command that asks an interpreter about a package. -/
def queryCommand (interpreter package : String) : Command where
  program := Path.ofString interpreter
  args := ["-c", queryProgram, package].map Text.encode

end Handover.Host
