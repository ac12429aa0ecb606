/-
  What more files change.

  A search under one set of files may stop at another place than a search under a larger one, and it
  may meet a host error that the other never comes to.  Both can be told without looking at files:

  1. **Places in reach** — the places that a search can come to, in their order, and the error with
     which it ends if none of them is a file (`reachable`, `missed`).  Neither depends on the files.
     The search ends with the first file in reach (`resolve_eq_find?`).
  2. **First places** — under a larger predicate the first place of a list comes no later
     (`find?_of_imp`, by induction on the list), and the places in reach are in the order of their
     kinds (`reachable_pairwise`).
  3. **More files** — so a search that finds a file finds one no later, a search that finds nothing
     still finds nothing or finds something, and a host error stays or gives way to the standard
     place, the only one that lies before it (`more_files_never_worse`).
  4. **The same files in reach** — two searches that see the same there go the same way, step by
     step (`resolve_congr`).
-/
import Mathlib.Data.List.Find
import Handover.Proofs.Course

namespace Handover

/-! ## Places in reach -/

/-- The places that the search can come to: those before the first directory that cannot be had. -/
def reachable (p : Host.Provider) (baseName : String) : List Candidate :=
  match standardPlace p baseName with
  | .error _ => []
  | .ok standard =>
    match userPlace p baseName with
    | .error _ => [standard]
    | .ok user => standard :: user :: (adjacentPlace p baseName).toList

/-- The error of a search that comes to all of them and finds no file. -/
def missed (p : Host.Provider) (baseName : String) : ResolveError :=
  match standardPlace p baseName with
  | .error e => e
  | .ok standard =>
    match userPlace p baseName with
    | .error e => e
    | .ok _ => .notFound standard.path

section Reach

variable {p : Host.Provider} {isFile isFile' : Path → Bool} {baseName : String}

/-- **The search ends with the first file in reach.** -/
theorem resolve_eq_find? : (resolve p isFile baseName).value =
    match (reachable p baseName).find? fun c => isFile c.path with
    | some c => .ok c
    | none => .error (missed p baseName) := by
  rw [resolve_value]
  unfold reachable missed
  cases hs : standardPlace p baseName with
  | error e => rfl
  | ok standard =>
    by_cases h₁ : isFile standard.path = true
    · cases hu : userPlace p baseName <;> simp [h₁]
    · cases hu : userPlace p baseName with
      | error e => simp [h₁]
      | ok user =>
        by_cases h₂ : isFile user.path = true
        · simp [h₁, h₂]
        · cases ha : adjacentPlace p baseName with
          | none => simp [h₁, h₂]
          | some adjacent =>
            by_cases h₃ : isFile adjacent.path = true <;>
              simp [h₁, h₂, h₃, Option.filter_some]

/-- Where the list of places can be made, all of it is in reach. -/
theorem reachable_of_candidates_ok {cs : List Candidate}
    (h : (candidates p baseName).value = .ok cs) : reachable p baseName = cs := by
  rw [candidates_value] at h
  unfold reachable
  cases hs : standardPlace p baseName with
  | error e => rw [hs] at h; cases h
  | ok standard =>
    cases hu : userPlace p baseName with
    | error e => rw [hs, hu] at h; cases h
    | ok user => rw [hs, hu] at h; cases h; rfl

theorem kind_of_userPlace {c : Candidate} (h : userPlace p baseName = .ok c) : c.kind = .user := by
  cases hu : p.scriptsDir p.userScheme with
  | error e => rw [userPlace_of_error hu] at h; cases h
  | ok dir => rw [userPlace_of_ok hu] at h; cases h; rfl

theorem kind_of_adjacentPlace {c : Candidate} (h : adjacentPlace p baseName = some c) :
    c.kind = .adjacentBin := by
  obtain ⟨root, -, rfl⟩ := Option.map_eq_some_iff.mp h
  rfl

/-- The places in reach are in the order of their kinds, one of each kind. -/
theorem reachable_pairwise :
    (reachable p baseName).Pairwise fun c c' => c.kind.rank < c'.kind.rank := by
  unfold reachable
  cases hs : standardPlace p baseName with
  | error e => exact .nil
  | ok standard =>
    have hstandard := kind_of_standardPlace hs
    cases hu : userPlace p baseName with
    | error e => exact List.pairwise_singleton _ _
    | ok user =>
      have huser := kind_of_userPlace hu
      cases ha : adjacentPlace p baseName with
      | none => simp [hstandard, huser, CandidateKind.rank]
      | some adjacent =>
        have hadjacent := kind_of_adjacentPlace ha
        simp [hstandard, huser, hadjacent, CandidateKind.rank]

/-- Before a host error at most the standard place is in reach. -/
theorem kind_of_missed_host {e : Host.Error} (h : missed p baseName = .host e) :
    ∀ c ∈ reachable p baseName, c.kind = .standard := by
  unfold missed at h
  unfold reachable
  cases hs : standardPlace p baseName with
  | error e' => exact List.forall_mem_nil _
  | ok standard =>
    cases hu : userPlace p baseName with
    | error e' => exact List.forall_mem_singleton.mpr (kind_of_standardPlace hs)
    | ok user =>
      rw [hs, hu] at h
      cases h

/-! ## First places -/

/-- **Under a larger predicate the first of a list comes no later.** -/
theorem find?_of_imp {α : Type} {R : α → α → Prop} {q q' : α → Bool}
    (himp : ∀ a, q a = true → q' a = true) {line : List α} (hline : line.Pairwise R) {a : α}
    (h : line.find? q = some a) : ∃ b, line.find? q' = some b ∧ (b = a ∨ R b a) := by
  induction line with
  | nil => cases h
  | cons c rest ih =>
    obtain ⟨hfirst, hrest⟩ := List.pairwise_cons.mp hline
    by_cases hc' : q' c = true
    · refine ⟨c, List.find?_cons_of_pos hc', ?_⟩
      by_cases hc : q c = true
      · rw [List.find?_cons_of_pos hc] at h
        exact Or.inl (Option.some.inj h)
      · rw [List.find?_cons_of_neg hc] at h
        exact Or.inr (hfirst a (List.mem_of_find?_eq_some h))
    · have hc : ¬ q c = true := fun hc => hc' (himp c hc)
      rw [List.find?_cons_of_neg hc] at h
      rw [List.find?_cons_of_neg hc']
      exact ih hrest h

/-! ## More files -/

/-- An answer of the search that is no worse than another. -/
structure NoWorse (before after : Except ResolveError Candidate) : Prop where
  /-- What was found is found again, or something in an earlier place. -/
  found : ∀ c, before = .ok c → ∃ c', after = .ok c' ∧ c'.kind.rank ≤ c.kind.rank ∧
    (c'.kind = c.kind → c'.path = c.path)
  /-- Where nothing was found, something is, or the same place is named. -/
  notFound : ∀ primary, before = .error (.notFound primary) →
    (∃ c', after = .ok c') ∨ after = .error (.notFound primary)
  /-- A host error stays, unless the standard place makes the rest needless. -/
  host : ∀ e, before = .error (.host e) →
    after = .error (.host e) ∨ ∃ c', after = .ok c' ∧ c'.kind = .standard

/-- A search that finds no file in reach ends with the error that is there without any files. -/
theorem missed_of_error {e : ResolveError} (h : (resolve p isFile baseName).value = .error e) :
    missed p baseName = e := by
  rw [resolve_eq_find?] at h
  cases hfind : (reachable p baseName).find? fun c => isFile c.path with
  | some c => rw [hfind] at h; cases h
  | none => rw [hfind] at h; cases h; rfl

/-- What a search finds is in reach. -/
theorem mem_reachable_of_resolve {c : Candidate} (h : (resolve p isFile baseName).value = .ok c) :
    c ∈ reachable p baseName := by
  rw [resolve_eq_find?] at h
  cases hfind : (reachable p baseName).find? fun c => isFile c.path with
  | none => rw [hfind] at h; cases h
  | some first =>
    rw [hfind] at h
    cases h
    exact List.mem_of_find?_eq_some hfind

/-- **More files make no answer worse.** -/
theorem resolve_noWorse (hmore : ∀ path, isFile path = true → isFile' path = true) :
    NoWorse (resolve p isFile baseName).value (resolve p isFile' baseName).value := by
  -- Whatever the files are, the answer is a place in reach or the one error.
  have hanswer : (∃ c ∈ reachable p baseName, (resolve p isFile' baseName).value = .ok c) ∨
      (resolve p isFile' baseName).value = .error (missed p baseName) := by
    rw [resolve_eq_find?]
    cases hfind : (reachable p baseName).find? fun c => isFile' c.path with
    | some c => exact Or.inl ⟨c, List.mem_of_find?_eq_some hfind, rfl⟩
    | none => exact Or.inr rfl
  refine ⟨fun c hc => ?_, fun primary herror => ?_, fun e herror => ?_⟩
  · rw [resolve_eq_find?] at hc ⊢
    cases hfind : (reachable p baseName).find? fun c => isFile c.path with
    | none => rw [hfind] at hc; cases hc
    | some first =>
      rw [hfind] at hc
      obtain rfl : first = c := Except.ok.inj hc
      obtain ⟨c', hfind', hc'⟩ :=
        find?_of_imp (fun c => hmore c.path) reachable_pairwise hfind
      rw [hfind']
      rcases hc' with rfl | hlt
      · exact ⟨_, rfl, Nat.le_refl _, fun _ => rfl⟩
      · refine ⟨_, rfl, Nat.le_of_lt hlt, fun hkind => ?_⟩
        rw [hkind] at hlt
        exact absurd hlt (Nat.lt_irrefl _)
  · rw [missed_of_error herror] at hanswer
    exact hanswer.imp_left fun ⟨c, _, hc⟩ => ⟨c, hc⟩
  · have hmissed := missed_of_error herror
    rw [hmissed] at hanswer
    rcases hanswer with ⟨c, hmem, hc⟩ | hsame
    · exact Or.inr ⟨c, hc, kind_of_missed_host hmissed c hmem⟩
    · exact Or.inl hsame

/-! ## The same files in reach -/

/-- What is in reach is in reach by the steps that led there. -/
theorem mem_reachable_standard {c : Candidate} (hs : standardPlace p baseName = .ok c) :
    c ∈ reachable p baseName := by
  unfold reachable
  rw [hs]
  cases userPlace p baseName with
  | error e => exact List.mem_singleton_self c
  | ok user => exact List.mem_cons_self

theorem mem_reachable_later {standard user c : Candidate}
    (hs : standardPlace p baseName = .ok standard) (hu : userPlace p baseName = .ok user)
    (h : c = user ∨ adjacentPlace p baseName = some c) : c ∈ reachable p baseName := by
  unfold reachable
  rw [hs, hu]
  refine List.mem_cons_of_mem _ ?_
  rcases h with rfl | ha
  · exact List.mem_cons_self
  · rw [ha]
    exact List.mem_cons_of_mem _ (List.mem_singleton_self c)

/-- An ending of a search is one under any other files that look the same in reach. -/
theorem SearchEnds.congr (hsame : ∀ c ∈ reachable p baseName, isFile c.path = isFile' c.path)
    {steps : List Step} {answer : Except ResolveError Candidate}
    (h : SearchEnds p isFile baseName steps answer) :
    SearchEnds p isFile' baseName steps answer := by
  have hstandard' {c} (hs : standardPlace p baseName = .ok c) : isFile' c.path = isFile c.path :=
    (hsame c (mem_reachable_standard hs)).symm
  have hlater {standard user c} (hs : standardPlace p baseName = .ok standard)
      (hu : userPlace p baseName = .ok user) (hc : c = user ∨ adjacentPlace p baseName = some c) :
      isFile' c.path = isFile c.path :=
    (hsame c (mem_reachable_later hs hu hc)).symm
  cases h with
  | noStandard hs => exact .noStandard hs
  | standard hs hfile => exact .standard hs (hstandard' hs ▸ hfile)
  | noUser hs hmiss hu => exact .noUser hs (hstandard' hs ▸ hmiss) hu
  | user hs hmiss hu hfile =>
    exact .user hs (hstandard' hs ▸ hmiss) hu (hlater hs hu (.inl rfl) ▸ hfile)
  | noPackage hs hmiss hu hmiss' ha =>
    exact .noPackage hs (hstandard' hs ▸ hmiss) hu (hlater hs hu (.inl rfl) ▸ hmiss') ha
  | adjacent hs hmiss hu hmiss' ha hfile =>
    exact .adjacent hs (hstandard' hs ▸ hmiss) hu (hlater hs hu (.inl rfl) ▸ hmiss') ha
      (hlater hs hu (.inr ha) ▸ hfile)
  | nowhere hs hmiss hu hmiss' ha hmiss'' =>
    exact .nowhere hs (hstandard' hs ▸ hmiss) hu (hlater hs hu (.inl rfl) ▸ hmiss') ha
      (hlater hs hu (.inr ha) ▸ hmiss'')

/-- **Files out of reach do not matter**, neither to the answer nor to the steps on the way. -/
theorem resolve_congr (hsame : ∀ c ∈ reachable p baseName, isFile c.path = isFile' c.path) :
    resolve p isFile baseName = resolve p isFile' baseName := by
  have hends : SearchEnds p isFile baseName _ _ := resolve_ends
  have hends' : SearchEnds p isFile' baseName _ _ := resolve_ends
  have hsteps : (resolve p isFile baseName).steps = (resolve p isFile' baseName).steps :=
    (hends.congr hsame).travels.trans hends'.travels.symm
  have hvalue : (resolve p isFile baseName).value = (resolve p isFile' baseName).value := by
    rw [resolve_eq_find?, resolve_eq_find?, List.find?_congr hsame]
  calc resolve p isFile baseName
      = ⟨(resolve p isFile baseName).steps, (resolve p isFile baseName).value⟩ := rfl
    _ = ⟨(resolve p isFile' baseName).steps, (resolve p isFile' baseName).value⟩ := by
        rw [hsteps, hvalue]
    _ = resolve p isFile' baseName := rfl

end Reach

/-- **More files never make the search worse.**  Under more files

  1. a place that was found is found again, unless there is a file in an earlier one;
  2. a search that found nothing finds something, or names the same place, but meets no host error;
  3. a host error is met again, unless the standard place is a file.

  Of the files only those in reach count, which are the ones in the list of places if this can be
  made: where they are the same, the two searches are the same in every step. -/
theorem more_files_never_worse (p : Host.Provider) (baseName : String) :
    (∀ isFile isFile' : Path → Bool, (∀ path, isFile path = true → isFile' path = true) →
      NoWorse (resolve p isFile baseName).value (resolve p isFile' baseName).value) ∧
    (∀ cs, (candidates p baseName).value = .ok cs → reachable p baseName = cs) ∧
    (∀ isFile isFile' : Path → Bool,
      (∀ c ∈ reachable p baseName, isFile c.path = isFile' c.path) →
        resolve p isFile baseName = resolve p isFile' baseName) :=
  ⟨fun _ _ => resolve_noWorse, fun _ => reachable_of_candidates_ok, fun _ _ => resolve_congr⟩

/-- The search that finds its file in the second place finds one no later when a file is put into
    the first; one that lies elsewhere changes nothing. -/
theorem one_more_file :
    (∃ c, (resolve threePlaces.provider
        (fun path => path == Path.ofString "/u/tool" || path == Path.ofString "/s/tool")
        "tool").value = .ok c ∧ c.kind.rank ≤ CandidateKind.user.rank) ∧
    resolve threePlaces.provider
        (fun path => path == Path.ofString "/u/tool" || path == Path.ofString "/tool") "tool"
      = resolve threePlaces.provider (· == Path.ofString "/u/tool") "tool" := by
  obtain ⟨hmore, hlisted, hsame⟩ := more_files_never_worse threePlaces.provider "tool"
  have hfound : (resolve threePlaces.provider (· == Path.ofString "/u/tool") "tool").value
      = .ok ⟨.user, Path.ofString "/u/tool"⟩ := rfl
  have hplaces : (candidates threePlaces.provider "tool").value
      = .ok [⟨.standard, Path.ofString "/s/tool"⟩, ⟨.user, Path.ofString "/u/tool"⟩,
          ⟨.adjacentBin, Path.ofString "/bin/tool"⟩] := rfl
  constructor
  · have himp : ∀ path, (path == Path.ofString "/u/tool") = true →
        (path == Path.ofString "/u/tool" || path == Path.ofString "/s/tool") = true := by
      intro path hpath
      rw [hpath, Bool.true_or]
    obtain ⟨c, hc, hrank, -⟩ := (hmore _ _ himp).found _ hfound
    exact ⟨c, hc, hrank⟩
  · refine hsame _ _ ?_
    rw [hlisted _ hplaces]
    decide

end Handover
