/-
  The search and the list of places.

  `candidates` works out every place before any of them is looked at; `resolve` works a place out
  only when the ones before it have been missed.  Written apart, the two must agree:

  1. **Places** — what the provider has to say about each of the three places, as a value of its
     own (`standardPlace`, `userPlace`, `adjacentPlace`).
  2. **Endings** — the seven ways in which a search ends, each with its steps and its answer
     (`SearchEnds`).  Only `resolve_ends` opens the search itself; whatever else is said of a search
     is read off its ending, case by case.
  3. **Values** — the list and the search told by the three places alone (`candidates_value`,
     `resolve_value`).
  4. **Host errors** — when the search ends with one (`resolve_eq_host_error_iff`).  A snapshot has
     only one to give: that it does not list the scheme asked for.
  5. **Refinement** — `resolve_refines_candidates`: where the list can be made the search ends with
     its first file, and where it cannot the search ends with the same error unless the first
     place makes the rest needless.
-/
import Handover.Proofs.Members
import Handover.Resolve

namespace Handover

/-! ## The places of a provider -/

/-- The place in the active scheme, or why there is none. -/
def standardPlace (p : Host.Provider) (baseName : String) : Except ResolveError Candidate :=
  ((p.scriptsDir .active).mapError .host).map
    (candidateIn .standard (targetFilename baseName p.exeSuffix))

/-- The place in the user scheme, or why there is none. -/
def userPlace (p : Host.Provider) (baseName : String) : Except ResolveError Candidate :=
  ((p.scriptsDir p.userScheme).mapError .host).map
    (candidateIn .user (targetFilename baseName p.exeSuffix))

/-- The place beside the package, if the package is known. -/
def adjacentPlace (p : Host.Provider) (baseName : String) : Option Candidate :=
  p.packageRoot.map fun root =>
    ⟨.adjacentBin, adjacentBinPath root (targetFilename baseName p.exeSuffix)⟩

variable {p : Host.Provider} {isFile : Path → Bool} {baseName : String}

theorem standardPlace_of_ok {dir : Path} (h : p.scriptsDir .active = .ok dir) :
    standardPlace p baseName
      = .ok (candidateIn .standard (targetFilename baseName p.exeSuffix) dir) := by
  unfold standardPlace
  rw [h]
  rfl

theorem standardPlace_of_error {e : Host.Error} (h : p.scriptsDir .active = .error e) :
    standardPlace p baseName = .error (.host e) := by
  unfold standardPlace
  rw [h]
  rfl

theorem userPlace_of_ok {dir : Path} (h : p.scriptsDir p.userScheme = .ok dir) :
    userPlace p baseName = .ok (candidateIn .user (targetFilename baseName p.exeSuffix) dir) := by
  unfold userPlace
  rw [h]
  rfl

theorem userPlace_of_error {e : Host.Error} (h : p.scriptsDir p.userScheme = .error e) :
    userPlace p baseName = .error (.host e) := by
  unfold userPlace
  rw [h]
  rfl

/-- Only the host can keep a scheme from having a place. -/
theorem standardPlace_error_is_host {e : ResolveError} (h : standardPlace p baseName = .error e) :
    ∃ hostError, e = .host hostError := by
  cases ha : p.scriptsDir .active with
  | ok dir => rw [standardPlace_of_ok ha] at h; cases h
  | error e' => rw [standardPlace_of_error ha] at h; cases h; exact ⟨e', rfl⟩

theorem userPlace_error_is_host {e : ResolveError} (h : userPlace p baseName = .error e) :
    ∃ hostError, e = .host hostError := by
  cases ha : p.scriptsDir p.userScheme with
  | ok dir => rw [userPlace_of_ok ha] at h; cases h
  | error e' => rw [userPlace_of_error ha] at h; cases h; exact ⟨e', rfl⟩

/-! ## The list and the search, told by the places -/

theorem standardCandidate_value :
    (standardCandidate p (targetFilename baseName p.exeSuffix)).value = standardPlace p baseName :=
  rfl

theorem userCandidate_value :
    (userCandidate p (targetFilename baseName p.exeSuffix)).value = userPlace p baseName :=
  rfl

theorem adjacentCandidate_value :
    (adjacentCandidate p (targetFilename baseName p.exeSuffix)).value
      = adjacentPlace p baseName := by
  unfold adjacentCandidate adjacentPlace
  cases p.packageRoot with
  | none => rfl
  | some root => rfl

/-- The list needs the first two places; the third may be missing. -/
theorem candidates_value : (candidates p baseName).value =
    match standardPlace p baseName with
    | .error e => .error e
    | .ok standard =>
      match userPlace p baseName with
      | .error e => .error e
      | .ok user => .ok (standard :: user :: (adjacentPlace p baseName).toList) := by
  unfold candidates
  simp only [Traced.bind_value, standardCandidate_value]
  cases hs : standardPlace p baseName with
  | error e => rfl
  | ok standard =>
    simp only [Traced.bind_value, userCandidate_value]
    cases hu : userPlace p baseName with
    | error e => rfl
    | ok user =>
      simp only [Traced.bind_value, adjacentCandidate_value]
      rfl

/-! ## The ways in which the search ends -/

section Endings

variable (p : Host.Provider) (isFile : Path → Bool) (baseName : String)

/-- The steps up to the directory of the user scheme, when the active one does not hold the file. -/
@[simp] def stepsToUser (standard : Candidate) : List Step :=
  [.askedScriptsDir .active, .emitted (.probed standard.kind standard.path false),
   .emitted (.userSchemeSelected p.userScheme), .askedScriptsDir p.userScheme]

/-- The steps up to the package, when neither scheme holds the file. -/
@[simp] def stepsToPackage (standard user : Candidate) : List Step :=
  stepsToUser p standard ++ [.emitted (.probed user.kind user.path false), .askedPackageRoot]

/-- **The ways in which a search ends**, each with the steps on the way and the answer. -/
inductive SearchEnds : List Step → Except ResolveError Candidate → Prop where
  | noStandard {e : ResolveError} (hstandard : standardPlace p baseName = .error e) :
      SearchEnds [.askedScriptsDir .active] (.error e)
  | standard {c : Candidate} (hstandard : standardPlace p baseName = .ok c)
      (hfile : isFile c.path = true) :
      SearchEnds [.askedScriptsDir .active, .emitted (.probed c.kind c.path true)] (.ok c)
  | noUser {standard : Candidate} {e : ResolveError}
      (hstandard : standardPlace p baseName = .ok standard)
      (hmiss : isFile standard.path = false) (huser : userPlace p baseName = .error e) :
      SearchEnds (stepsToUser p standard) (.error e)
  | user {standard c : Candidate} (hstandard : standardPlace p baseName = .ok standard)
      (hmiss : isFile standard.path = false) (huser : userPlace p baseName = .ok c)
      (hfile : isFile c.path = true) :
      SearchEnds (stepsToUser p standard ++ [.emitted (.probed c.kind c.path true)]) (.ok c)
  | noPackage {standard user : Candidate} (hstandard : standardPlace p baseName = .ok standard)
      (hmiss : isFile standard.path = false) (huser : userPlace p baseName = .ok user)
      (hmiss' : isFile user.path = false) (hadjacent : adjacentPlace p baseName = none) :
      SearchEnds (stepsToPackage p standard user ++ [.emitted .packageRootUnknown])
        (.error (.notFound standard.path))
  | adjacent {standard user c : Candidate} (hstandard : standardPlace p baseName = .ok standard)
      (hmiss : isFile standard.path = false) (huser : userPlace p baseName = .ok user)
      (hmiss' : isFile user.path = false) (hadjacent : adjacentPlace p baseName = some c)
      (hfile : isFile c.path = true) :
      SearchEnds (stepsToPackage p standard user ++ [.emitted (.probed c.kind c.path true)]) (.ok c)
  | nowhere {standard user c : Candidate} (hstandard : standardPlace p baseName = .ok standard)
      (hmiss : isFile standard.path = false) (huser : userPlace p baseName = .ok user)
      (hmiss' : isFile user.path = false) (hadjacent : adjacentPlace p baseName = some c)
      (hmiss'' : isFile c.path = false) :
      SearchEnds (stepsToPackage p standard user ++ [.emitted (.probed c.kind c.path false)])
        (.error (.notFound standard.path))

variable {p isFile baseName}

theorem probe_of {c : Candidate} {found : Bool} (h : isFile c.path = found) :
    probe isFile c = ⟨[.emitted (.probed c.kind c.path found)], found⟩ := by
  subst h
  rfl

/-- Looking for the package is reported only if it is not known. -/
theorem adjacentCandidate_steps :
    (adjacentCandidate p (targetFilename baseName p.exeSuffix)).steps
      = .askedPackageRoot ::
        if adjacentPlace p baseName = none then [.emitted .packageRootUnknown] else [] := by
  unfold adjacentCandidate adjacentPlace
  cases p.packageRoot with
  | none => rfl
  | some root => rfl

/-- **A search ends in one of these ways.** -/
theorem resolve_ends : SearchEnds p isFile baseName (resolve p isFile baseName).steps
    (resolve p isFile baseName).value := by
  unfold resolve
  simp only [Traced.bind_value, Traced.bind_steps, standardCandidate_value]
  cases hs : standardPlace p baseName with
  | error e => exact .noStandard hs
  | ok standard =>
    simp only [Traced.bind_value, Traced.bind_steps]
    by_cases h₁ : isFile standard.path = true
    · rw [probe_of h₁, if_pos rfl]
      exact .standard hs h₁
    · rw [Bool.not_eq_true] at h₁
      rw [probe_of h₁, if_neg Bool.false_ne_true]
      simp only [Traced.bind_value, Traced.bind_steps, userCandidate_value]
      cases hu : userPlace p baseName with
      | error e => exact .noUser hs h₁ hu
      | ok user =>
        simp only [Traced.bind_value, Traced.bind_steps]
        by_cases h₂ : isFile user.path = true
        · rw [probe_of h₂, if_pos rfl]
          exact .user hs h₁ hu h₂
        · rw [Bool.not_eq_true] at h₂
          rw [probe_of h₂, if_neg Bool.false_ne_true]
          simp only [Traced.bind_value, Traced.bind_steps, adjacentCandidate_value,
            adjacentCandidate_steps]
          cases ha : adjacentPlace p baseName with
          | none => exact .noPackage hs h₁ hu h₂ ha
          | some adjacent =>
            simp only [Traced.bind_value, Traced.bind_steps]
            by_cases h₃ : isFile adjacent.path = true
            · rw [probe_of h₃, if_pos rfl]
              exact .adjacent hs h₁ hu h₂ ha h₃
            · rw [Bool.not_eq_true] at h₃
              rw [probe_of h₃, if_neg Bool.false_ne_true]
              exact .nowhere hs h₁ hu h₂ ha h₃

end Endings

/-- The search asks for a place only when the ones before it are no files. -/
theorem resolve_value : (resolve p isFile baseName).value =
    match standardPlace p baseName with
    | .error e => .error e
    | .ok standard =>
      if isFile standard.path then .ok standard
      else
        match userPlace p baseName with
        | .error e => .error e
        | .ok user =>
          if isFile user.path then .ok user
          else
            match (adjacentPlace p baseName).filter fun c => isFile c.path with
            | some adjacent => .ok adjacent
            | none => .error (.notFound standard.path) := by
  have hends : SearchEnds p isFile baseName _ _ := resolve_ends
  generalize (resolve p isFile baseName).steps = steps at hends
  generalize (resolve p isFile baseName).value = answer at hends ⊢
  cases hends with
  | noStandard hstandard => simp [hstandard]
  | standard hstandard hfile => simp [hstandard, hfile]
  | noUser hstandard hmiss huser => simp [hstandard, hmiss, huser]
  | user hstandard hmiss huser hfile => simp [hstandard, hmiss, huser, hfile]
  | noPackage hstandard hmiss huser hmiss' hadjacent =>
    simp [hstandard, hmiss, huser, hmiss', hadjacent]
  | adjacent hstandard hmiss huser hmiss' hadjacent hfile =>
    simp [hstandard, hmiss, huser, hmiss', hadjacent, Option.filter_some, hfile]
  | nowhere hstandard hmiss huser hmiss' hadjacent hmiss'' =>
    simp [hstandard, hmiss, huser, hmiss', hadjacent, Option.filter_some, hmiss'']

/-! ## Host errors -/

/-- The search ends with a host error exactly when the error is met before a file is. -/
theorem resolve_eq_host_error_iff {e : Host.Error} :
    (resolve p isFile baseName).value = .error (.host e) ↔
      p.scriptsDir .active = .error e ∨
      ∃ standard, standardPlace p baseName = .ok standard ∧ isFile standard.path = false ∧
        p.scriptsDir p.userScheme = .error e := by
  rw [resolve_value]
  cases ha : p.scriptsDir .active with
  | error e' =>
    rw [standardPlace_of_error ha]
    constructor
    · intro h
      cases h
      exact Or.inl rfl
    · rintro (h | ⟨standard, h, -⟩)
      · cases h
        rfl
      · cases h
  | ok dir =>
    rw [standardPlace_of_ok ha]
    generalize candidateIn .standard (targetFilename baseName p.exeSuffix) dir = standard
    simp only [Except.ok.injEq, exists_eq_left']
    by_cases h₁ : isFile standard.path = true
    · simp [h₁]
    · cases hu : p.scriptsDir p.userScheme with
      | error e' =>
        rw [userPlace_of_error hu]
        simp [h₁]
      | ok dir' =>
        rw [userPlace_of_ok hu]
        -- Past the two directories only a file or "not found" is left.
        simp only [h₁]
        constructor
        · intro h
          split at h
          · cases h
          · split at h
            · cases h
            · split at h <;> cases h
        · rintro (h | ⟨-, h⟩) <;> cases h

/-- The scheme of a platform has a name. -/
theorem Host.Platform.exists_name_userScheme (platform : Platform) :
    ∃ name, platform.userScheme.name? = some name := by
  unfold Platform.userScheme
  split
  · exact ⟨_, rfl⟩
  · split
    · exact ⟨_, rfl⟩
    · exact ⟨_, rfl⟩

/-- The one error of a snapshot: it does not list the scheme. -/
theorem Host.Snapshot.scriptsDir_eq_error_iff {s : Snapshot} {scheme : Scheme} {e : Host.Error} :
    s.scriptsDir scheme = .error e ↔
      ∃ name, scheme.name? = some name ∧ name ∉ s.schemes.map Prod.fst ∧
        e = .unknownScheme name := by
  unfold Snapshot.scriptsDir
  cases hn : scheme.name? with
  | none => simp
  | some name =>
    cases hf : s.schemes.find? name with
    | none =>
      simp only [hf]
      have hout : name ∉ s.schemes.map Prod.fst := findNamed_eq_none_iff.mp hf
      constructor
      · intro h
        cases h
        exact ⟨name, rfl, hout, rfl⟩
      · rintro ⟨n, h, -, rfl⟩
        cases h
        rfl
    | some dir =>
      simp only [hf]
      constructor
      · intro h
        cases h
      · rintro ⟨n, h, hout, -⟩
        cases h
        have hnone : s.schemes.find? name = none := findNamed_eq_none_iff.mpr hout
        rw [hnone] at hf
        cases hf

/-! ## The search against the list -/

/-- Where the list can be made, the search ends with its first file; with none, it names the first
    place. -/
theorem resolve_of_candidates_ok {cs : List Candidate}
    (h : (candidates p baseName).value = .ok cs) :
    ∃ first later, cs = first :: later ∧
      (resolve p isFile baseName).value =
        match cs.find? fun c => isFile c.path with
        | some c => .ok c
        | none => .error (.notFound first.path) := by
  rw [candidates_value] at h
  rw [resolve_value]
  cases hs : standardPlace p baseName with
  | error e => rw [hs] at h; cases h
  | ok standard =>
    cases hu : userPlace p baseName with
    | error e => rw [hs, hu] at h; cases h
    | ok user =>
      rw [hs, hu] at h
      cases h
      refine ⟨standard, user :: (adjacentPlace p baseName).toList, rfl, ?_⟩
      by_cases h₁ : isFile standard.path = true
      · simp [h₁]
      · by_cases h₂ : isFile user.path = true
        · simp [h₁, h₂]
        · cases adjacentPlace p baseName with
          | none => simp [h₁, h₂]
          | some adjacent =>
            by_cases h₃ : isFile adjacent.path = true <;> simp [h₁, h₂, h₃, Option.filter]

/-- The list fails with a host error, that of the first directory that cannot be had. -/
theorem candidates_eq_error_iff {e : ResolveError} :
    (candidates p baseName).value = .error e ↔
      standardPlace p baseName = .error e ∨
      (∃ standard, standardPlace p baseName = .ok standard) ∧ userPlace p baseName = .error e := by
  rw [candidates_value]
  cases hs : standardPlace p baseName with
  | error e' => simp
  | ok standard =>
    cases hu : userPlace p baseName with
    | error e' => simp
    | ok user => simp

/-- Where the list cannot be made, the search fails with the same error, unless the first place is
    a file. -/
theorem resolve_of_candidates_error {e : ResolveError}
    (h : (candidates p baseName).value = .error e) :
    (resolve p isFile baseName).value =
      match standardPlace p baseName with
      | .ok standard => if isFile standard.path then .ok standard else .error e
      | .error _ => .error e := by
  rw [resolve_value]
  rcases candidates_eq_error_iff.mp h with hs | ⟨⟨standard, hs⟩, hu⟩
  · rw [hs]
  · rw [hs, hu]

/-- Only the host can keep the list from being made. -/
theorem candidates_error_is_host {e : ResolveError}
    (h : (candidates p baseName).value = .error e) : ∃ hostError, e = .host hostError := by
  rcases candidates_eq_error_iff.mp h with hs | ⟨-, hu⟩
  · exact standardPlace_error_is_host hs
  · exact userPlace_error_is_host hu

/-- **The search refines the list.**

  1. Where the list can be made the search gives its first file, or names its first place.
  2. Where it fails the search gives the standard place if that can be worked out and is a file,
     and else fails with the same host error.
  3. Of a snapshot, alone or in an installation, the search says that a scheme is unknown exactly
     when the standard place is no file and the user scheme is not among those listed, whatever
     lies beside the package. -/
theorem resolve_refines_candidates (p : Host.Provider) (isFile : Path → Bool)
    (baseName : String) :
    (∀ cs, (candidates p baseName).value = .ok cs →
      ∃ first later, cs = first :: later ∧
        (resolve p isFile baseName).value =
          match cs.find? fun c => isFile c.path with
          | some c => .ok c
          | none => .error (.notFound first.path)) ∧
    (∀ e, (candidates p baseName).value = .error e →
      (∃ hostError, e = .host hostError) ∧
      (resolve p isFile baseName).value =
        match p.scriptsDir .active with
        | .ok dir =>
          let path := Path.join dir (Path.ofString (targetFilename baseName p.exeSuffix))
          if isFile path then .ok ⟨.standard, path⟩ else .error e
        | .error _ => .error e) ∧
    (∀ s : Host.Snapshot,
      (p = s.provider ∨ ∃ launcherDir, p = (Host.Installation.mk s launcherDir).provider) →
      ∀ name, (resolve p isFile baseName).value = .error (.host (.unknownScheme name)) ↔
        isFile (Path.join s.scripts (Path.ofString (targetFilename baseName s.exeSuffix))) = false ∧
        p.userScheme.name? = some name ∧ name ∉ s.schemes.map Prod.fst) := by
  refine ⟨fun cs h => resolve_of_candidates_ok h, fun e h => ⟨candidates_error_is_host h, ?_⟩, ?_⟩
  · rw [resolve_of_candidates_error h]
    cases ha : p.scriptsDir .active with
    | error e' => rw [standardPlace_of_error ha]
    | ok dir => rw [standardPlace_of_ok ha]; rfl
  · intro s hp name
    have hdir : p.scriptsDir = s.scriptsDir := by
      rcases hp with rfl | ⟨launcherDir, rfl⟩
      · exact Host.Snapshot.provider_scriptsDir s
      · exact Host.Installation.provider_scriptsDir ⟨s, launcherDir⟩
    have hsuffix : p.exeSuffix = s.exeSuffix := by
      rcases hp with rfl | ⟨launcherDir, rfl⟩ <;> rfl
    have hactive : p.scriptsDir .active = .ok s.scripts := by rw [hdir]; rfl
    rw [resolve_eq_host_error_iff, standardPlace_of_ok hactive, hactive, hsuffix, hdir,
      Host.Snapshot.scriptsDir_eq_error_iff]
    constructor
    · rintro (h | ⟨standard, hs, hmiss, n, hn, hout, he⟩)
      · cases h
      · cases hs
        cases he
        exact ⟨hmiss, hn, hout⟩
    · rintro ⟨hmiss, hn, hout⟩
      exact Or.inr ⟨_, rfl, hmiss, name, hn, hout, rfl⟩

end Handover
