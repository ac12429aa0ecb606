/-
  What a host knows about its installation, and the document in which it says so.

  Directories are bytes; in the document each is text in Base64.  A directory that the host cannot
  name is null there.  The members come in a fixed order.
-/
import Handover.Base64
import Handover.Host.Error
import Handover.Json.Printer
import Handover.Path

namespace Handover.Host

/-- What a host knows about its installation. -/
structure Description where
  exeSuffix : String
  /-- The scripts directory of the active scheme. -/
  scripts : Option Path
  /-- The scripts directories of the schemes, in the order in which the host lists them. -/
  schemes : List (String × Option Path)
  /-- The name of the user scheme, if the host can tell. -/
  preferredUserScheme : Option String
  osName : String
  platform : String
  framework : Bool
  /-- The directory of the package, if the host found it. -/
  packageDir : Option Path
deriving Repr, DecidableEq

namespace Description

/-- Text of ASCII bytes. -/
def asciiText (bytes : Bytes) : String := String.ofList (bytes.map fun b => Char.ofNat b.toNat)

/-- A directory in the document. -/
def directory : Option Path → Json
  | none => .null
  | some path => .string (asciiText (Base64.encode path))

/-- A text in the document. -/
def optionalText : Option String → Json
  | none => .null
  | some text => .string text

/-- The document as a value. -/
def toJson (d : Description) : Json :=
  .object
    [(Field.exeSuffix.name, .string d.exeSuffix),
     (Field.scripts.name, directory d.scripts),
     (Field.schemes.name, .object (d.schemes.map fun e => (e.1, directory e.2))),
     (Field.preferredUserScheme.name, optionalText d.preferredUserScheme),
     (Field.osName.name, .string d.osName),
     (Field.platform.name, .string d.platform),
     (Field.framework.name, .bool d.framework),
     (Field.packageDir.name, directory d.packageDir)]

/-- The document as text. -/
def document (d : Description) : String := Json.toDocument d.toJson

end Description

end Handover.Host
