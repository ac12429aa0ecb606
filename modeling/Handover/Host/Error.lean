/-
  What can go wrong while the host is asked about its installation.
-/
import Handover.Base64
import Handover.OsError
import Handover.Json.Fault
import Handover.Settings.Field

namespace Handover.Host

/-- A member of the host's document, by its name. -/
structure Field where
  name : String
deriving Repr, DecidableEq

namespace Field

def exeSuffix : Field := ⟨"exe_suffix"⟩
def scripts : Field := ⟨"scripts"⟩
def schemes : Field := ⟨"schemes"⟩
def preferredUserScheme : Field := ⟨"preferred_user_scheme"⟩
def osName : Field := ⟨"os_name"⟩
def platform : Field := ⟨"platform"⟩
def framework : Field := ⟨"framework"⟩
def packageDir : Field := ⟨"package_dir"⟩

end Field

/-- Why a text is not a host document. -/
inductive DocumentFault where
  /-- The text cannot be read as a value. -/
  | unreadable (fault : Json.Fault)
  /-- The value, or a member of it, is of another kind than expected. -/
  | illTyped (fault : Settings.TypeFault)
  /-- Any other cause, told by its text. -/
  | other (text : String)

/-- The words of a document fault. -/
def DocumentFault.message : DocumentFault → String
  | .unreadable fault => fault.message
  | .illTyped fault => fault.message
  | .other text => text

/-- Why the text of a member is not accepted. -/
inductive FieldFault where
  /-- A suffix that would change the directory. -/
  | separator (suffix : String)
  /-- A directory that is not in Base64. -/
  | encoding (fault : Base64.Fault)
  /-- Any other cause, told by its text. -/
  | other (text : String)
deriving Repr, DecidableEq

/-- The words of a field fault. -/
def FieldFault.message : FieldFault → String
  | .separator suffix => s!"`{suffix}` must not contain path separators"
  | .encoding fault => s!"path is not base64-encoded: {fault.message}"
  | .other text => text

/-- An error met while the host is asked, or while its answer is read or used. -/
inductive Error where
  /-- None of the interpreters could be started. -/
  | interpreterUnavailable (tried : List String)
  /-- An interpreter is there but could not be started. -/
  | interpreterSpawn (interpreter : String) (source : OsError)
  /-- The interpreter ended without success; `exitCode` is `none` if a signal ended it. -/
  | queryFailed (interpreter : String) (exitCode : Option Int) (stderr : String)
  /-- The answer is not a document of the right form. -/
  | parse (source : DocumentFault)
  /-- A member that must be there is missing. -/
  | missingField (field : Field)
  /-- The text of a member is not accepted. -/
  | invalidField (field : Field) (fault : FieldFault)
  /-- The host does not define the scheme. -/
  | unknownScheme (scheme : String)

namespace Error

/-- An exit code in a message. -/
def exitText : Option Int → String
  | some code => s!"Some({code})"
  | none => "None"

/-- The words of an error. -/
def message : Error → String
  | .interpreterUnavailable tried =>
    "No Python interpreter found on PATH (tried: " ++ ", ".intercalate tried ++ ")"
  | .interpreterSpawn interpreter source =>
    s!"Failed to run interpreter `{interpreter}`: {source.message}"
  | .queryFailed interpreter exitCode stderr =>
    s!"Interpreter `{interpreter}` failed to report its configuration "
      ++ s!"(exit={exitText exitCode}): {stderr}"
  | .parse source => s!"Failed to parse host configuration: {source.message}"
  | .missingField field => s!"Host configuration is missing `{field.name}`"
  | .invalidField field fault => s!"Host configuration has invalid `{field.name}`: {fault.message}"
  | .unknownScheme scheme => s!"Installation scheme `{scheme}` is not defined by the host"

/-- The words of the error behind an error, if there is one. -/
def source? : Error → Option String
  | .interpreterSpawn _ source => some source.message
  | .parse source => some source.message
  | _ => none

end Error

end Handover.Host
