/-
  Installation schemes and the platform facts that choose among them.

  A host lays its files out by named schemes.  One of them is active; one is meant for a single
  user.  A host that can name its user scheme is believed; for the others the platform decides.
-/

namespace Handover.Host

/-- An installation scheme whose scripts directory may hold the executable. -/
inductive Scheme where
  /-- Whatever scheme the running installation uses. -/
  | active
  /-- The user scheme of Windows. -/
  | ntUser
  /-- The user scheme of a framework build on macOS. -/
  | osxFrameworkUser
  /-- The user scheme of other POSIX systems. -/
  | posixUser
  /-- A scheme by the name the host gives it. -/
  | named (name : String)
deriving Repr, DecidableEq

namespace Scheme

/-- The host's name of a scheme; the active one has none. -/
def name? : Scheme → Option String
  | .active => none
  | .ntUser => some "nt_user"
  | .osxFrameworkUser => some "osx_framework_user"
  | .posixUser => some "posix_user"
  | .named name => some name

/-- A scheme in a message. -/
def display (s : Scheme) : String := s.name?.getD "<active>"

end Scheme

/-- Platform facts of a host. -/
structure Platform where
  /-- The family of the operating system (`posix`, `nt`). -/
  osName : String
  /-- The system itself (`linux`, `darwin`, `win32`). -/
  platform : String
  /-- The interpreter is a framework build. -/
  framework : Bool
deriving Repr, DecidableEq

namespace Platform

/-- The host runs Windows. -/
def isWindows (p : Platform) : Bool := p.osName == "nt"

/-- The host is a framework build on macOS; elsewhere the framework flag says nothing. -/
def isDarwinFramework (p : Platform) : Bool := p.platform == "darwin" && p.framework

/-- The user scheme of a host that cannot name its own. -/
def userScheme (p : Platform) : Scheme :=
  if p.isWindows then .ntUser
  else if p.isDarwinFramework then .osxFrameworkUser
  else .posixUser

end Platform

/-! ## Readings -/

example : (Platform.mk "nt" "darwin" true).userScheme = .ntUser := by decide
example : (Platform.mk "posix" "linux" true).userScheme = .posixUser := by decide

end Handover.Host
