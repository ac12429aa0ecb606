/-
  The search for the executable.

  `candidates` lists every place where the executable may be, without looking at any of them.
  `resolve` looks at one place after another and ends with the first that is a regular file; a
  place is worked out only when the ones before it have been missed.  When all are missed the
  error names the first place, so that there is one to inspect.
-/
import Handover.Event
import Handover.Host.Provider

namespace Handover

/-- Why the executable was not found. -/
inductive ResolveError where
  /-- None of the places holds it; `primary` is the first of them. -/
  | notFound (primary : Path)
  /-- A place could not be worked out. -/
  | host (error : Host.Error)

namespace ResolveError

/-- The words of an error.  A host error speaks for itself. -/
def message : ResolveError → String
  | .notFound primary => s!"Executable not found: {Path.display primary}"
  | .host error => error.message

/-- The words of the error behind an error. -/
def source? : ResolveError → Option String
  | .notFound _ => none
  | .host error => error.source?

end ResolveError

/-! ## The places -/

/-- The directory of a scheme, asked of the provider. -/
def askScriptsDir (p : Host.Provider) (scheme : Host.Scheme) :
    Traced (Except ResolveError Path) := do
  Traced.step (.askedScriptsDir scheme)
  return (p.scriptsDir scheme).mapError .host

/-- The place in a scripts directory. -/
def candidateIn (kind : CandidateKind) (filename : String) (dir : Path) : Candidate :=
  ⟨kind, Path.join dir (Path.ofString filename)⟩

/-- The place in the active scheme. -/
def standardCandidate (p : Host.Provider) (filename : String) :
    Traced (Except ResolveError Candidate) := do
  return (← askScriptsDir p .active).map (candidateIn .standard filename)

/-- The place in the user scheme. -/
def userCandidate (p : Host.Provider) (filename : String) :
    Traced (Except ResolveError Candidate) := do
  Traced.emit (.userSchemeSelected p.userScheme)
  return (← askScriptsDir p p.userScheme).map (candidateIn .user filename)

/-- The place beside the package, if the package is known. -/
def adjacentCandidate (p : Host.Provider) (filename : String) : Traced (Option Candidate) := do
  Traced.step .askedPackageRoot
  match p.packageRoot with
  | none =>
    Traced.emit .packageRootUnknown
    return none
  | some root => return some ⟨.adjacentBin, adjacentBinPath root filename⟩

/-- Every place in the order of the search. -/
def candidates (p : Host.Provider) (baseName : String) :
    Traced (Except ResolveError (List Candidate)) := do
  let filename := targetFilename baseName p.exeSuffix
  match ← standardCandidate p filename with
  | .error e => return .error e
  | .ok standard =>
    match ← userCandidate p filename with
    | .error e => return .error e
    | .ok user => return .ok (standard :: user :: (← adjacentCandidate p filename).toList)

/-! ## The search -/

/-- Look at a place. -/
def probe (isFile : Path → Bool) (c : Candidate) : Traced Bool := do
  let found := isFile c.path
  Traced.emit (.probed c.kind c.path found)
  return found

/-- The first place that is a regular file. -/
def resolve (p : Host.Provider) (isFile : Path → Bool) (baseName : String) :
    Traced (Except ResolveError Candidate) := do
  let filename := targetFilename baseName p.exeSuffix
  match ← standardCandidate p filename with
  | .error e => return .error e
  | .ok standard =>
    if ← probe isFile standard then return .ok standard
    else
      match ← userCandidate p filename with
      | .error e => return .error e
      | .ok user =>
        if ← probe isFile user then return .ok user
        else
          match ← adjacentCandidate p filename with
          | none => return .error (.notFound standard.path)
          | some adjacent =>
            if ← probe isFile adjacent then return .ok adjacent
            else return .error (.notFound standard.path)

end Handover
