/-
  The classes that the interpreter provides.

  Each class but `object` stands below one other class, and has methods of its own; the methods of
  the class above are its methods too.
-/
import Handover.Interpreter.Syntax

namespace Handover.Interpreter.Kind

/-! ## The tree of classes -/

/-- The classes of exceptions, each with the class above it. -/
def exceptionParents : List (String × String) :=
  [("BaseException", "object"), ("Exception", "BaseException"), ("GeneratorExit", "BaseException"),
   ("KeyboardInterrupt", "BaseException"), ("SystemExit", "BaseException"),
   ("BaseExceptionGroup", "BaseException"), ("ExceptionGroup", "Exception"),
   ("ArithmeticError", "Exception"), ("FloatingPointError", "ArithmeticError"),
   ("OverflowError", "ArithmeticError"), ("ZeroDivisionError", "ArithmeticError"),
   ("AssertionError", "Exception"), ("AttributeError", "Exception"), ("BufferError", "Exception"),
   ("EOFError", "Exception"), ("ImportError", "Exception"), ("ModuleNotFoundError", "ImportError"),
   ("LookupError", "Exception"), ("IndexError", "LookupError"), ("KeyError", "LookupError"),
   ("MemoryError", "Exception"), ("NameError", "Exception"), ("UnboundLocalError", "NameError"),
   ("OSError", "Exception"), ("BlockingIOError", "OSError"), ("ChildProcessError", "OSError"),
   ("ConnectionError", "OSError"), ("BrokenPipeError", "ConnectionError"),
   ("ConnectionAbortedError", "ConnectionError"), ("ConnectionRefusedError", "ConnectionError"),
   ("ConnectionResetError", "ConnectionError"), ("FileExistsError", "OSError"),
   ("FileNotFoundError", "OSError"), ("InterruptedError", "OSError"),
   ("IsADirectoryError", "OSError"), ("NotADirectoryError", "OSError"),
   ("PermissionError", "OSError"), ("ProcessLookupError", "OSError"), ("TimeoutError", "OSError"),
   ("UnsupportedOperation", "OSError"),
   ("ReferenceError", "Exception"), ("RuntimeError", "Exception"),
   ("NotImplementedError", "RuntimeError"), ("RecursionError", "RuntimeError"),
   ("StopIteration", "Exception"), ("StopAsyncIteration", "Exception"),
   ("SyntaxError", "Exception"), ("IndentationError", "SyntaxError"),
   ("TabError", "IndentationError"), ("SystemError", "Exception"), ("TypeError", "Exception"),
   ("ValueError", "Exception"), ("JSONDecodeError", "ValueError"),
   ("Error", "ValueError"), ("UnicodeError", "ValueError"),
   ("UnicodeDecodeError", "UnicodeError"), ("UnicodeEncodeError", "UnicodeError"),
   ("UnicodeTranslateError", "UnicodeError"), ("Warning", "Exception"),
   ("BytesWarning", "Warning"), ("DeprecationWarning", "Warning"), ("EncodingWarning", "Warning"),
   ("FutureWarning", "Warning"), ("ImportWarning", "Warning"),
   ("PendingDeprecationWarning", "Warning"), ("ResourceWarning", "Warning"),
   ("RuntimeWarning", "Warning"), ("SyntaxWarning", "Warning"), ("UnicodeWarning", "Warning"),
   ("UserWarning", "Warning")]

/-- The class above a class; `object` has none. -/
def parent? (kind : String) : Option String :=
  if kind = "object" then none
  else if kind = "bool" then some "int"
  else some (((exceptionParents.find? fun e => e.1 == kind).map Prod.snd).getD "object")

/-- A class and those above it, as far as a number of steps leads. -/
def chain : Nat → String → List String
  | 0, kind => [kind]
  | n + 1, kind =>
    match parent? kind with
    | some above => kind :: chain n above
    | none => [kind]

/-- The most steps from a class up to `object`. -/
def highest : Nat := 8

/-- A class and those above it. -/
def order (kind : String) : List String := chain highest kind

/-- The class is one of exceptions. -/
def isException (kind : String) : Bool := exceptionParents.any fun e => e.1 == kind

/-- The classes of exceptions that only their modules can name. -/
def exceptionsOfModules : List String := ["JSONDecodeError", "Error", "UnsupportedOperation"]

/-- The classes that every module can name, apart from those of exceptions. -/
def named : List String :=
  ["object", "type", "int", "bool", "float", "str", "bytes", "bytearray", "list", "tuple", "dict",
   "set", "frozenset", "range", "slice", "property", "staticmethod", "classmethod", "super",
   "enumerate", "zip", "map", "filter", "reversed", "memoryview", "complex"]

/-! ## Methods -/

/-- The names of the methods for operators and comparisons. -/
def operatorMethods : List String :=
  (Operator.all.flatMap fun o =>
    ["__" ++ o.stem ++ "__", "__r" ++ o.stem ++ "__", "__i" ++ o.stem ++ "__"])
  ++ ["__lt__", "__le__", "__gt__", "__ge__", "__neg__", "__pos__", "__invert__", "__abs__",
      "__divmod__", "__rdivmod__"]

/-- The methods of texts and of byte strings alike. -/
def textMethods : List String :=
  ["capitalize", "center", "count", "endswith", "expandtabs", "find", "index", "isalnum", "isalpha",
   "isascii", "isdigit", "islower", "isspace", "istitle", "isupper", "join", "ljust", "lower",
   "lstrip", "maketrans", "partition", "removeprefix", "removesuffix", "replace", "rfind", "rindex",
   "rjust", "rpartition", "rsplit", "rstrip", "split", "splitlines", "startswith", "strip",
   "swapcase", "title", "translate", "upper", "zfill"]

/-- The methods of everything that has items. -/
def sequenceMethods : List String := ["__len__", "__getitem__", "__contains__", "__iter__"]

/-- The methods of what gives one value after another. -/
def iteratorMethods : List String := ["__iter__", "__next__", "__length_hint__"]

/-- The methods that a class has of its own. -/
def methods (kind : String) : List String :=
  match kind with
  | "object" =>
    ["__init__", "__new__", "__str__", "__repr__", "__eq__", "__ne__", "__hash__", "__setattr__",
     "__getattribute__", "__delattr__", "__format__", "__init_subclass__", "__dir__",
     "__sizeof__", "__reduce__", "__subclasshook__"]
  | "type" => ["mro", "__call__", "__instancecheck__", "__subclasscheck__", "__subclasses__"]
  | "int" =>
    ["bit_length", "bit_count", "to_bytes", "from_bytes", "as_integer_ratio", "conjugate",
     "is_integer", "__index__", "__int__", "__float__", "__bool__", "__round__", "__trunc__",
     "__floor__", "__ceil__"] ++ operatorMethods
  | "float" =>
    ["is_integer", "as_integer_ratio", "hex", "fromhex", "conjugate", "__int__", "__float__",
     "__bool__", "__round__", "__trunc__", "__floor__", "__ceil__"] ++ operatorMethods
  | "str" =>
    textMethods ++ sequenceMethods ++ operatorMethods
      ++ ["casefold", "encode", "format", "format_map", "isdecimal", "isidentifier", "isnumeric",
          "isprintable"]
  | "bytes" =>
    textMethods ++ sequenceMethods ++ operatorMethods ++ ["decode", "hex", "fromhex", "__bytes__"]
  | "bytearray" =>
    textMethods ++ sequenceMethods ++ operatorMethods
      ++ ["decode", "hex", "fromhex", "append", "extend", "clear", "copy", "pop", "insert",
          "remove", "reverse", "__setitem__", "__delitem__"]
  | "list" =>
    sequenceMethods ++ operatorMethods
      ++ ["append", "clear", "copy", "count", "extend", "index", "insert", "pop", "remove",
          "reverse", "sort", "__setitem__", "__delitem__", "__reversed__"]
  | "tuple" => sequenceMethods ++ operatorMethods ++ ["count", "index"]
  | "dict" =>
    sequenceMethods ++ operatorMethods
      ++ ["clear", "copy", "fromkeys", "get", "items", "keys", "pop", "popitem", "setdefault",
          "update", "values", "__setitem__", "__delitem__", "__reversed__"]
  | "set" | "frozenset" =>
    sequenceMethods ++ operatorMethods
      ++ ["add", "clear", "copy", "difference", "difference_update", "discard", "intersection",
          "intersection_update", "isdisjoint", "issubset", "issuperset", "pop", "remove",
          "symmetric_difference", "symmetric_difference_update", "union", "update"]
  | "dict_keys" | "dict_items" =>
    sequenceMethods ++ operatorMethods ++ ["isdisjoint", "__reversed__"]
  | "dict_values" => ["__len__", "__iter__", "__reversed__"]
  | "mappingproxy" => sequenceMethods ++ ["get", "items", "keys", "values", "copy"]
  | "range" => sequenceMethods ++ ["count", "index", "__reversed__"]
  | "slice" => ["indices"]
  | "generator" => iteratorMethods ++ ["send", "throw", "close"]
  | "property" => ["getter", "setter", "deleter", "__get__", "__set__", "__set_name__"]
  | "function" | "builtin_function_or_method" | "method" => ["__call__", "__get__"]
  | "staticmethod" | "classmethod" => ["__get__", "__call__"]
  | "BaseException" => ["with_traceback", "add_note", "__setstate__"]
  | "TextIOWrapper" | "BufferedReader" | "BufferedWriter" | "StringIO" | "BytesIO" =>
    ["read", "readline", "readlines", "write", "writelines", "flush", "close", "fileno", "isatty",
     "seek", "tell", "truncate", "readable", "writable", "seekable", "reconfigure", "detach",
     "__enter__", "__exit__", "__iter__", "__next__"]
      ++ (if kind == "StringIO" || kind == "BytesIO" then ["getvalue", "getbuffer"] else [])
  | "list_iterator" | "tuple_iterator" | "str_iterator" | "range_iterator" | "iterator" | "zip"
  | "map" | "filter" | "enumerate" | "reversed" => iteratorMethods
  | _ => []

/-- A class has a method of its own. -/
def hasMethod (kind name : String) : Bool := (methods kind).contains name

/-- The methods that take the class and not an instance of it. -/
def takesClass (kind name : String) : Bool :=
  (kind == "dict" && name == "fromkeys") || (kind == "int" && name == "from_bytes")
    || ((kind == "bytes" || kind == "bytearray" || kind == "float") && name == "fromhex")
    || name == "__init_subclass__" || name == "__subclasshook__"

/-- The methods that take neither. -/
def takesNothing (kind name : String) : Bool :=
  name == "__new__" || ((kind == "str" || kind == "bytes") && name == "maketrans")

/-! ## Readings -/

example : order "KeyError" = ["KeyError", "LookupError", "Exception", "BaseException", "object"] := by
  decide
example : order "bool" = ["bool", "int", "object"] := by decide

end Handover.Interpreter.Kind
