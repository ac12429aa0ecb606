/-
  The view of the host that the search for the executable works with.

  The search never talks to the host itself.  It reads a *provider*: the scripts directory of any
  scheme, the user scheme, the executable suffix and the package directory.  A snapshot is a
  provider; so is an *installation*, a snapshot together with the directory of the launcher, which
  stands in for a package that the host could not find.
-/
import Handover.Host.Snapshot

namespace Handover.Host

/-- A read-only view of a host's installation. -/
structure Provider where
  /-- The scripts directory of a scheme. -/
  scriptsDir : Scheme → Except Error Path
  /-- The user scheme, if the host can tell. -/
  preferredUserScheme : Option Scheme
  /-- What the host appends to the names of executables. -/
  exeSuffix : String
  platform : Platform
  /-- The directory of the package, if it is known. -/
  packageRoot : Option Path

/-- The user scheme: the one the host prefers, else the one of its platform. -/
def Provider.userScheme (p : Provider) : Scheme :=
  p.preferredUserScheme.getD p.platform.userScheme

namespace Snapshot

/-- The scripts directory of a scheme.  A scheme is looked up by its name alone. -/
def scriptsDir (s : Snapshot) (scheme : Scheme) : Except Error Path :=
  match scheme.name? with
  | none => .ok s.scripts
  | some name =>
    match s.schemes.find? name with
    | some dir => .ok dir
    | none => .error (.unknownScheme name)

/-- A snapshot as a provider. -/
def provider (s : Snapshot) : Provider where
  scriptsDir := s.scriptsDir
  preferredUserScheme := s.preferredUserScheme.map .named
  exeSuffix := s.exeSuffix
  platform := s.platform
  packageRoot := s.packageDir

end Snapshot

/-- A snapshot, and the directory that the launcher itself is in. -/
structure Installation where
  snapshot : Snapshot
  launcherDir : Option Path

/-- An installation as a provider: the snapshot, with the launcher's directory for a package that
    the host did not find. -/
def Installation.provider (i : Installation) : Provider :=
  { i.snapshot.provider with packageRoot := i.snapshot.packageDir.or i.launcherDir }

@[simp] theorem Snapshot.provider_scriptsDir (s : Snapshot) :
    s.provider.scriptsDir = s.scriptsDir := rfl

@[simp] theorem Installation.provider_scriptsDir (i : Installation) :
    i.provider.scriptsDir = i.snapshot.scriptsDir := rfl

end Handover.Host
