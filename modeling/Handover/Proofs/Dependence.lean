/-
  What the search depends on.

  A host tells much about itself, but the search looks at five facts only: the suffix, the active
  scripts directory, the name of the user scheme, the directory under that name, and the package.
  Everything else may differ from one host to another, and nobody can tell from the answers or the
  events.

  1. **Reports** — a scheme is told by its name in an event, so two events count as the same if the
     same is reported of them (`Event.SameReport`).
  2. **Views** — `SameView` tells the five facts of any two providers.  It leaves all three places
     alone (`SameView.standardPlace_eq` and the like), so the two routes differ in one event at most
     (`SameView.eventRoute`), and going along them keeps the reports the same
     (`forall₂_travelled`, by induction on the routes).
  3. **Configurations** — a snapshot and an installation look schemes up by their names, so for them
     the five facts are entries of their snapshots (`Configuration.Agrees.sameView`).
     `five_facts_decide` draws the conclusion, and names three changes of a configuration that
     leave the facts alone.
-/
import Handover.Proofs.Course
import Mathlib.Data.List.Forall2

namespace Handover

/-! ## Reports -/

/-- All that is reported of an event. -/
def Event.report (e : Event) : Level × String × String × List (String × FieldValue) :=
  (e.level, e.target, e.message, e.fields)

/-- The same is reported of two events. -/
def Event.SameReport (e e' : Event) : Prop := e.report = e'.report

/-- Whether an event is a look, and whether it is a hit, is reported. -/
theorem Event.isProbe_eq (e : Event) :
    e.isProbe = (e.message == "Probed candidate executable") := by
  cases e <;> rfl

theorem Event.isHit_eq (e : Event) : e.isHit = e.fields.contains ("found", .flag true) := by
  cases e with
  | probed kind path found => cases found <;> rfl
  | _ => rfl

theorem Event.SameReport.isProbe_eq {e e' : Event} (h : e.SameReport e') :
    e.isProbe = e'.isProbe := by
  have hmessage : e.message = e'.message := congrArg (·.2.2.1) h
  rw [e.isProbe_eq, e'.isProbe_eq, hmessage]

theorem Event.SameReport.isHit_eq {e e' : Event} (h : e.SameReport e') : e.isHit = e'.isHit := by
  have hfields : e.fields = e'.fields := congrArg (·.2.2.2) h
  rw [e.isHit_eq, e'.isHit_eq, hfields]

/-- A scheme is told by its name. -/
theorem Event.sameReport_userSchemeSelected {scheme scheme' : Host.Scheme}
    (h : scheme.name? = scheme'.name?) :
    (Event.userSchemeSelected scheme).SameReport (.userSchemeSelected scheme') := by
  have hdisplay : scheme.display = scheme'.display := congrArg (·.getD "<active>") h
  show (_, _, _, [("scheme", FieldValue.text scheme.display)])
    = (_, _, _, [("scheme", FieldValue.text scheme'.display)])
  rw [hdisplay]
  rfl

/-- Going along two routes that agree, step by step, on what they show. -/
theorem forall₂_travelled {α : Type} {R : α → α → Prop} {hit : α → Bool}
    (hR : ∀ a b, R a b → hit a = hit b) {line line' : List (Option α)}
    (h : List.Forall₂ (Option.Rel R) line line') :
    List.Forall₂ R (travelled hit line) (travelled hit line') := by
  induction h with
  | nil => exact .nil
  | cons hstop _ ih =>
    cases hstop with
    | none => exact .nil
    | some hab =>
      rw [travelled, travelled, ← hR _ _ hab]
      split
      · exact .cons hab .nil
      · exact .cons hab ih

/-! ## Views -/

/-- Two providers that agree on the five facts. -/
structure SameView (p q : Host.Provider) : Prop where
  suffix : p.exeSuffix = q.exeSuffix
  active : p.scriptsDir .active = q.scriptsDir .active
  /-- The user scheme has the same name, though it may be given in two ways. -/
  userName : p.userScheme.name? = q.userScheme.name?
  userDir : p.scriptsDir p.userScheme = q.scriptsDir q.userScheme
  packageRoot : p.packageRoot = q.packageRoot

namespace SameView

variable {p q : Host.Provider} {isFile : Path → Bool} {baseName : String}

theorem standardPlace_eq (h : SameView p q) :
    standardPlace p baseName = standardPlace q baseName := by
  unfold standardPlace
  rw [h.active, h.suffix]

theorem userPlace_eq (h : SameView p q) : userPlace p baseName = userPlace q baseName := by
  unfold userPlace
  rw [h.userDir, h.suffix]

theorem adjacentPlace_eq (h : SameView p q) :
    adjacentPlace p baseName = adjacentPlace q baseName := by
  unfold adjacentPlace
  rw [h.packageRoot, h.suffix]

/-- The two routes differ at most in how the user scheme is given. -/
theorem eventRoute (h : SameView p q) :
    List.Forall₂ (Option.Rel Event.SameReport) (eventRoute p isFile baseName)
      (eventRoute q isFile baseName) := by
  have hsame : ∀ stop : Option Event, Option.Rel Event.SameReport stop stop := by
    intro stop
    cases stop with
    | none => exact .none
    | some e => exact .some rfl
  have hscheme := Event.sameReport_userSchemeSelected h.userName
  unfold Handover.eventRoute lookBeside
  rw [h.standardPlace_eq, h.userPlace_eq, h.adjacentPlace_eq]
  exact .cons (hsame _) (.cons (.some hscheme) (.cons (hsame _) (.cons (hsame _) .nil)))

theorem search_events (h : SameView p q) :
    List.Forall₂ Event.SameReport (resolve p isFile baseName).events
      (resolve q isFile baseName).events := by
  rw [(resolve_accounts p isFile baseName).events, (resolve_accounts q isFile baseName).events]
  exact forall₂_travelled (fun _ _ he => Event.SameReport.isHit_eq he) h.eventRoute

theorem list_events (h : SameView p q) :
    List.Forall₂ Event.SameReport (candidates p baseName).events
      (candidates q baseName).events := by
  rw [candidates_events, candidates_events]
  refine List.rel_filter (fun e e' he => ?_) h.search_events
  simp only [Event.SameReport.isProbe_eq he]

end SameView

/-- Nobody can tell two providers apart by a search, or by a list of places. -/
structure SameAnswers (p q : Host.Provider) : Prop where
  found : ∀ isFile baseName,
    (resolve p isFile baseName).value = (resolve q isFile baseName).value
  searchEvents : ∀ isFile baseName,
    (resolve p isFile baseName).events.map Event.report
      = (resolve q isFile baseName).events.map Event.report
  listed : ∀ baseName, (candidates p baseName).value = (candidates q baseName).value
  listEvents : ∀ baseName,
    (candidates p baseName).events.map Event.report
      = (candidates q baseName).events.map Event.report

theorem map_report_eq {es es' : List Event} (h : List.Forall₂ Event.SameReport es es') :
    es.map Event.report = es'.map Event.report := by
  induction h with
  | nil => rfl
  | cons he _ ih => rw [List.map_cons, List.map_cons, ih, he]

/-- **Providers that agree on the five facts give the same answers.** -/
theorem SameView.sameAnswers {p q : Host.Provider} (h : SameView p q) : SameAnswers p q where
  found isFile baseName := by
    rw [resolve_value, resolve_value, h.standardPlace_eq, h.userPlace_eq, h.adjacentPlace_eq]
  searchEvents isFile baseName := map_report_eq h.search_events
  listed baseName := by
    rw [candidates_value, candidates_value, h.standardPlace_eq, h.userPlace_eq, h.adjacentPlace_eq]
  listEvents baseName := map_report_eq h.list_events

/-! ## Configurations -/

namespace Host

/-- A snapshot looks a scheme up by its name alone. -/
theorem Snapshot.scriptsDir_congr {s s' : Snapshot} {scheme scheme' : Scheme}
    (hname : scheme.name? = scheme'.name?) (hscripts : s.scripts = s'.scripts)
    (hlisted : ∀ name, scheme.name? = some name → s.schemes.find? name = s'.schemes.find? name) :
    s.scriptsDir scheme = s'.scriptsDir scheme' := by
  unfold Snapshot.scriptsDir
  rw [← hname]
  cases hscheme : scheme.name? with
  | none => exact congrArg Except.ok hscripts
  | some name => simp only [hlisted name hscheme]

/-- What the search is run on: a snapshot alone, or an installation. -/
inductive Configuration where
  | snapshot (s : Snapshot)
  | installation (i : Installation)

namespace Configuration

/-- The snapshot of a configuration. -/
def toSnapshot : Configuration → Snapshot
  | .snapshot s => s
  | .installation i => i.snapshot

def provider : Configuration → Provider
  | .snapshot s => s.provider
  | .installation i => i.provider

/-- Two configurations that agree on the five facts. -/
structure Agrees (a b : Configuration) : Prop where
  suffix : a.toSnapshot.exeSuffix = b.toSnapshot.exeSuffix
  scripts : a.toSnapshot.scripts = b.toSnapshot.scripts
  userName : a.provider.userScheme.name? = b.provider.userScheme.name?
  /-- The same directory stands under that name, or none does. -/
  userDir : ∀ name, a.provider.userScheme.name? = some name →
    a.toSnapshot.schemes.find? name = b.toSnapshot.schemes.find? name
  packageRoot : a.provider.packageRoot = b.provider.packageRoot

variable {a b : Configuration}

theorem provider_scriptsDir (a : Configuration) :
    a.provider.scriptsDir = a.toSnapshot.scriptsDir := by
  cases a <;> rfl

theorem provider_exeSuffix (a : Configuration) : a.provider.exeSuffix = a.toSnapshot.exeSuffix := by
  cases a <;> rfl

theorem Agrees.sameView (h : a.Agrees b) : SameView a.provider b.provider where
  suffix := by rw [provider_exeSuffix, provider_exeSuffix, h.suffix]
  active := by
    rw [provider_scriptsDir, provider_scriptsDir]
    exact congrArg Except.ok h.scripts
  userName := h.userName
  userDir := by
    rw [provider_scriptsDir, provider_scriptsDir]
    exact Snapshot.scriptsDir_congr h.userName h.scripts h.userDir
  packageRoot := h.packageRoot

end Configuration

/-! ## Changes that leave the facts alone -/

variable {s : Snapshot}

/-- The snapshot with the user scheme of its platform named as the preferred one. -/
def Snapshot.withNamedScheme (s : Snapshot) : Snapshot :=
  { s with preferredUserScheme := s.platform.userScheme.name? }

/-- A host that names the scheme that would have been taken anyway looks the same. -/
theorem sameView_withNamedScheme (h : s.preferredUserScheme = none) :
    SameView s.provider s.withNamedScheme.provider := by
  have hname : s.provider.userScheme.name? = s.withNamedScheme.provider.userScheme.name? := by
    obtain ⟨name, hplatform⟩ := s.platform.exists_name_userScheme
    unfold Provider.userScheme Snapshot.withNamedScheme
    simp only [Snapshot.provider, h, hplatform]
    exact hplatform
  exact ⟨rfl, rfl, hname, Snapshot.scriptsDir_congr hname rfl fun _ _ => rfl, rfl⟩

end Host

open Host

/-- **The search depends on five facts of the host and on nothing else.**  Two configurations that
    agree on them give the same results with the same events, in the search and in the list of
    places.  So nothing changes when

    1. a snapshot that prefers no scheme is made to prefer the one of its platform, alone or in an
       installation;
    2. the launcher of a host that has found the package lies elsewhere;
    3. the launcher's directory is given as the package of a host that has not found it. -/
theorem five_facts_decide :
    (∀ a b : Configuration, a.Agrees b → SameAnswers a.provider b.provider) ∧
    (∀ s : Snapshot, s.preferredUserScheme = none →
      SameAnswers s.provider s.withNamedScheme.provider ∧
      ∀ launcherDir, SameAnswers (Installation.mk s launcherDir).provider
        (Installation.mk s.withNamedScheme launcherDir).provider) ∧
    (∀ s : Snapshot, s.packageDir ≠ none → ∀ dir dir',
      SameAnswers (Installation.mk s dir).provider (Installation.mk s dir').provider) ∧
    (∀ s : Snapshot, s.packageDir = none → ∀ dir,
      SameAnswers (Installation.mk s (some dir)).provider
        { s with packageDir := some dir }.provider) := by
  refine ⟨fun a b h => h.sameView.sameAnswers, fun s h => ⟨?_, fun launcherDir => ?_⟩,
    fun s h dir dir' => ?_, fun s h dir => ?_⟩
  · exact (sameView_withNamedScheme h).sameAnswers
  · have hview := sameView_withNamedScheme h
    exact SameView.sameAnswers ⟨rfl, rfl, hview.userName, hview.userDir, rfl⟩
  · have hpackage : s.packageDir.or dir = s.packageDir.or dir' := by
      obtain ⟨package, hpackage⟩ := Option.ne_none_iff_exists'.mp h
      rw [hpackage]
      rfl
    exact SameView.sameAnswers ⟨rfl, rfl, rfl, rfl, hpackage⟩
  · have hpackage : s.packageDir.or (some dir) = some dir := by
      rw [h]
      rfl
    exact SameView.sameAnswers ⟨rfl, rfl, rfl, rfl, hpackage⟩

/-- A host that names no user scheme and has not found the package. -/
def quietHost : Snapshot where
  exeSuffix := ""
  scripts := Path.ofString "/s"
  schemes := [("posix_user", Path.ofString "/u")]
  preferredUserScheme := none
  platform := ⟨"posix", "linux", false⟩
  packageDir := none

/-- A host of another platform that says more. -/
def talkativeHost : Snapshot where
  exeSuffix := ""
  scripts := Path.ofString "/s"
  schemes := [("nt_user", Path.ofString "/n"), ("posix_user", Path.ofString "/u")]
  preferredUserScheme := some "posix_user"
  platform := ⟨"nt", "darwin", true⟩
  packageDir := some (Path.ofString "/t/pkg")

/-- The two cannot be told apart, if the launcher of the first lies where the second has the
    package. -/
theorem quiet_as_talkative :
    quietHost.platform ≠ talkativeHost.platform ∧ quietHost.schemes ≠ talkativeHost.schemes ∧
    SameAnswers (Installation.mk quietHost (some (Path.ofString "/t/pkg"))).provider
      talkativeHost.provider := by
  refine ⟨by decide, by decide, five_facts_decide.1
    (.installation ⟨quietHost, some (Path.ofString "/t/pkg")⟩) (.snapshot talkativeHost)
    ⟨rfl, rfl, rfl, fun name h => ?_, rfl⟩⟩
  obtain rfl : "posix_user" = name := Option.some.inj h
  rfl

end Handover
