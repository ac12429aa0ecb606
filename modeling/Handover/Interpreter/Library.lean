/-
  The modules that come with the interpreter.

  Some are part of the interpreter itself and go before anything that the search path holds; the
  others lie in the directory of its library and are found when the search comes to that.  A module
  has functions that the interpreter carries out itself, values, and a source that is run when it is
  loaded.  Of the modules whose content is not known here it is still known where they lie.
-/
import Handover.Interpreter.Library.Classes
import Handover.Interpreter.Library.Containers
import Handover.Interpreter.Library.Functions
import Handover.Interpreter.Library.PathObjects
import Handover.Interpreter.Library.Paths
import Handover.Interpreter.Library.Processes
import Handover.Interpreter.Library.Texts
import Handover.Interpreter.Provided.Documents
import Handover.Interpreter.Provided.System

namespace Handover.Interpreter.Library

/-! ## Where modules lie -/

/-- The directory of the library. -/
def directory : String := "/usr/lib/python3.12"

/-- The entries that stand at the end of every search path. -/
def searchPath : List String :=
  ["/usr/lib/python312.zip", directory, directory ++ "/lib-dynload",
   "/usr/local/lib/python3.12/dist-packages", "/usr/lib/python3/dist-packages"]

/-- The modules that are part of the interpreter. -/
def builtIn : List String :=
  ["_abc", "_ast", "_bisect", "_blake2", "_codecs", "_collections", "_csv", "_datetime",
   "_elementtree", "_functools", "_heapq", "_imp", "_io", "_locale", "_md5", "_opcode", "_operator",
   "_pickle", "_posixsubprocess", "_random", "_sha1", "_sha2", "_sha3", "_signal", "_socket",
   "_sre", "_stat", "_statistics", "_string", "_struct", "_symtable", "_thread", "_tokenize",
   "_tracemalloc", "_typing", "_warnings", "_weakref", "array", "atexit", "binascii", "builtins",
   "cmath", "errno", "faulthandler", "fcntl", "gc", "grp", "itertools", "marshal", "math", "posix",
   "pwd", "pyexpat", "select", "spwd", "sys", "syslog", "time", "unicodedata", "zlib"]

/-- The modules that are kept with the interpreter in a prepared form. -/
def frozen : List String :=
  ["zipimport", "abc", "codecs", "io", "_collections_abc", "_sitebuiltins", "genericpath", "ntpath",
   "posixpath", "os", "site", "stat", "importlib.util", "importlib.machinery", "runpy"]

/-- The modules in the directory of the library that are single files. -/
def files : List String :=
  ["__future__", "_aix_support", "_compat_pickle", "_compression", "_markupbase", "_osx_support",
   "_py_abc", "_pydatetime", "_pydecimal", "_pyio", "_pylong", "_strptime", "_threading_local",
   "_weakrefset", "aifc", "antigravity", "argparse", "ast", "base64", "bdb", "bisect", "bz2",
   "cProfile", "calendar", "cgi", "cgitb", "chunk", "cmd", "code", "codeop", "colorsys",
   "compileall", "configparser", "contextlib", "contextvars", "copy", "copyreg", "crypt", "csv",
   "dataclasses", "datetime", "decimal", "difflib", "dis", "doctest", "enum", "filecmp",
   "fileinput", "fnmatch", "fractions", "ftplib", "functools", "getopt", "getpass", "gettext",
   "glob", "graphlib", "gzip", "hashlib", "heapq", "hmac", "imaplib", "imghdr", "inspect",
   "ipaddress", "keyword", "linecache", "locale", "lzma", "mailbox", "mailcap", "mimetypes",
   "modulefinder", "netrc", "nntplib", "nturl2path", "numbers", "opcode", "operator", "optparse",
   "pathlib", "pdb", "pickle", "pickletools", "pipes", "pkgutil", "platform", "plistlib", "poplib",
   "pprint", "profile", "pstats", "pty", "py_compile", "pyclbr", "pydoc", "queue", "quopri",
   "random", "reprlib", "rlcompleter", "sched", "secrets", "selectors", "shelve", "shlex",
   "shutil", "signal", "sitecustomize", "smtplib", "sndhdr", "socket", "socketserver",
   "sre_compile", "sre_constants", "sre_parse", "ssl", "statistics", "string", "stringprep",
   "struct", "subprocess", "sunau", "symtable", "sysconfig", "tabnanny", "tarfile", "telnetlib",
   "tempfile", "textwrap", "this", "threading", "timeit", "token", "tokenize", "trace",
   "traceback", "tracemalloc", "tty", "turtle", "types", "typing", "uu", "uuid", "warnings",
   "wave", "weakref", "webbrowser", "xdrlib", "zipapp",
   "collections.abc", "importlib.abc", "importlib.readers", "importlib.simple", "json.decoder",
   "json.encoder", "json.scanner", "json.tool"]

/-- The modules in the directory of the library that are directories. -/
def packages : List String :=
  ["asyncio", "collections", "concurrent", "ctypes", "curses", "dbm", "email", "encodings",
   "ensurepip", "html", "http", "importlib", "json", "logging", "multiprocessing", "pydoc_data",
   "re", "sqlite3", "test", "tomllib", "unittest", "urllib", "venv", "wsgiref", "xml", "xmlrpc",
   "zipfile", "zoneinfo", "concurrent.futures", "importlib.metadata", "importlib.resources"]

/-! ## What modules hold -/

/-- What a module holds. -/
structure Provision where
  /-- Functions, with the names by which the interpreter knows them. -/
  functions : List (String × String) := []
  values : List (String × Value) := []
  source : String := ""

/-- Functions that the interpreter knows by the name of their module and their own. -/
def own (module : String) (names : List String) : List (String × String) :=
  names.map fun n => (n, module ++ "." ++ n)

/-- Classes under their own names. -/
def classes (names : List String) : List (String × Value) := names.map fun n => (n, .kind n)

/-- Numbers of errors of the system. -/
def errorNumbers : List (String × Value) :=
  [("EPERM", 1), ("ENOENT", 2), ("ESRCH", 3), ("EINTR", 4), ("EIO", 5), ("ENXIO", 6), ("E2BIG", 7),
   ("ENOEXEC", 8), ("EBADF", 9), ("ECHILD", 10), ("EAGAIN", 11), ("EWOULDBLOCK", 11),
   ("ENOMEM", 12), ("EACCES", 13), ("EFAULT", 14), ("EBUSY", 16), ("EEXIST", 17), ("EXDEV", 18),
   ("ENODEV", 19), ("ENOTDIR", 20), ("EISDIR", 21), ("EINVAL", 22), ("ENFILE", 23), ("EMFILE", 24),
   ("ENOTTY", 25), ("ETXTBSY", 26), ("EFBIG", 27), ("ENOSPC", 28), ("ESPIPE", 29), ("EROFS", 30),
   ("EMLINK", 31), ("EPIPE", 32), ("EDOM", 33), ("ERANGE", 34), ("EDEADLK", 35),
   ("ENAMETOOLONG", 36), ("ENOLCK", 37), ("ENOSYS", 38), ("ENOTEMPTY", 39), ("ELOOP", 40),
   ("ETIMEDOUT", 110), ("ECONNREFUSED", 111)].map fun e => (e.1, .ofNat e.2)

/-- Functions of the module `os` that modules on paths use too. -/
def pathBasics : List (String × String) :=
  own "os" ["fspath", "fsencode", "fsdecode", "_status"]

/-- What a module holds; `none` if that is not known. -/
def provision? (name : String) : Option Provision :=
  match name with
  | "builtins" => some {}
  | "posixpath" | "genericpath" =>
    some { functions := own "posixpath" pathFunctions ++ pathBasics, source := pathsSource }
  | "os" | "posix" => some { functions := own "os" osFunctions, source := systemSource }
  | "stat" => some { source := modesSource }
  | "time" =>
    some { functions := own "time" timeFunctions, values := [("timezone", .int 0), ("daylight", .int 0)] }
  | "errno" =>
    some { values := errorNumbers
           source := lines ["errorcode = \x7bv: k for k, v in list(globals().items()) if k[0] == 'E'\x7d"] }
  | "math" | "cmath" =>
    some { functions := own "math" mathFunctions
           values := [("pi", .float 3.141592653589793), ("e", .float 2.718281828459045),
             ("tau", .float 6.283185307179586), ("inf", .float (1.0 / 0.0)),
             ("nan", .float (0.0 / 0.0))] }
  | "signal" =>
    some { functions := own "signal" ["signal", "getsignal", "raise_signal", "default_int_handler",
             "strsignal", "alarm", "pause", "setitimer", "pthread_sigmask", "siginterrupt"]
           values := (signals.map fun e => (e.1, Value.ofNat e.2))
             ++ [("SIG_DFL", .int 0), ("SIG_IGN", .int 1), ("NSIG", .int 65)] }
  | "io" =>
    some { functions := [("open", "open")]
           values := classes ["StringIO", "BytesIO", "TextIOWrapper", "BufferedReader",
             "BufferedWriter", "UnsupportedOperation"]
             ++ [("SEEK_SET", .int 0), ("SEEK_CUR", .int 1), ("SEEK_END", .int 2),
                 ("DEFAULT_BUFFER_SIZE", .int 8192), ("IOBase", .kind "TextIOWrapper"),
                 ("TextIOBase", .kind "TextIOWrapper"), ("RawIOBase", .kind "BufferedReader")] }
  | "json" =>
    some { functions := own "json" ["dump", "dumps", "load", "loads"]
           values := classes ["JSONDecodeError"], source := documentsSource }
  | "json.decoder" | "json.encoder" | "json.scanner" =>
    some { values := classes ["JSONDecodeError"]
           source := lines ["from json import JSONDecoder, JSONEncoder"] }
  | "binascii" =>
    some { functions := own "binascii" ["b2a_base64", "a2b_base64", "hexlify", "unhexlify", "b2a_hex",
             "a2b_hex", "crc32"]
           values := [("Error", .kind "Error")] }
  | "base64" => some { source := base64Source }
  | "atexit" => some { functions := own "atexit" ["register", "unregister"] }
  | "gc" =>
    some { functions := own "gc" ["collect", "enable", "disable", "isenabled", "get_objects", "freeze"] }
  | "operator" | "_operator" =>
    some { functions := own "operator" operatorFunctions, source := operatorsSource }
  | "itertools" => some { source := iteratorsSource }
  | "functools" => some { source := functionsSource }
  | "contextlib" => some { source := managersSource }
  | "copy" => some { source := copiesSource }
  | "_collections_abc" | "collections.abc" => some { source := abilitiesSource }
  | "collections" => some { source := containersSource }
  | "abc" => some { source := abstractSource }
  | "enum" => some { source := enumerationsSource }
  | "dataclasses" => some { source := recordsSource }
  | "types" => some { source := kindsSource }
  | "typing" => some { source := annotationsSource }
  | "string" => some { source := textsSource }
  | "textwrap" => some { source := linesSource }
  | "shlex" => some { source := wordsSource }
  | "codecs" => some { functions := [("_open", "open")], source := codingsSource }
  | "pathlib" => some { source := pathObjectsSource }
  | "fnmatch" => some { source := namePatternsSource }
  | "glob" => some { source := filePatternsSource }
  | "shutil" => some { source := fileCopiesSource }
  | "subprocess" => some { source := processesSource }
  | "platform" => some { source := machineSource }
  | "warnings" => some { source := warningsSource }
  | "sysconfig" => some { source := installationSource }
  | "importlib" =>
    some { functions := [("import_module", "importlib.import_module"),
             ("__import__", "__import__"), ("reload", "importlib.reload"),
             ("invalidate_caches", "importlib.invalidate_caches")] }
  | "importlib.util" =>
    some { functions := [("find_spec", "importlib.find_spec")]
           values := classes ["ModuleSpec"], source := loadingSource }
  | "importlib.machinery" =>
    some { values := classes ["ModuleSpec"], source := suffixesSource }
  | "site" =>
    some { values := [("ENABLE_USER_SITE", .bool false), ("PREFIXES", .tuple [.ofString "/usr"])] }
  | "__future__" =>
    some { values := ["annotations", "division", "absolute_import", "print_function",
             "unicode_literals", "generator_stop", "with_statement", "nested_scopes", "generators"].map
             fun n => (n, .none) }
  | "ast" => some { functions := [("literal_eval", "eval")] }
  | _ => none

end Handover.Interpreter.Library
