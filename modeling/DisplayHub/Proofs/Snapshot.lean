import DisplayHub.Proofs.Admission
import DisplayHub.Proofs.BootstrapState

/-!
# What the Hub Remembers

The topology that a hub has cached is the latest report that it asked for itself.

The hardware is asked in many places. A display looks for its entry when it is
created, and when it is brought into service again; interfaces are looked up; and
all of these get a report and forget it. The hub keeps one in two places only:
when it comes up, and when somebody asks it for a fresh one. So what is cached is
a matter of history, and `Session.reportsAfter` is that history. It holds what was
answered in those two places since the hub came up, the latest answer first, and
the failures among them, since a question that failed was asked as well.

An answer is not kept anywhere else in the hub, so it has to be told where it is
given: what the hardware answers to a hub, as the hub then is (`Hub.report`). For
a hub that comes up that is the hub before, because nothing on the way up touches
what a report is made from.

Everything else leaves the core of the hub alone, whether it is an ordinary step or
goes to the compositor directly.

## Main definitions

* `Session.reportsAfter`: The answers since the hub came up.
* `Session.CacheLaws`: What is remembered, what changes it, and what it decides.

## Theorems

* `Session.core_step`: What the core does not show.
* `Hub.CachesLatest.step`: A step adds its answer.
* `Session.cacheLaws_after`: What is remembered after any run.
-/

namespace DisplayHub

/-- What the hub knows is left alone by all service of displays. -/
theorem Hub.ignoresService_core : Hub.IgnoresService Hub.core where
  noted _ _ _ := rfl
  notedAll _ _ := rfl
  called _ _ := rfl
  read _ _ := rfl
  counted _ _ := rfl
  dealt _ _ _ := rfl

theorem Hub.ignoresBootstrap_core : Hub.IgnoresBootstrap Hub.core :=
  ⟨fun _ _ _ => rfl, fun _ _ => rfl, fun _ _ => rfl, fun _ _ => rfl, fun _ _ => rfl,
    fun _ _ => rfl, fun _ _ => rfl, fun _ _ => rfl, fun _ _ => rfl, fun _ _ => rfl⟩

namespace Session

/-- No step but those that ask for a report changes what the hub knows. -/
theorem core_step (s : Session) {step : Step} (keepsTopology : step.keepsTopology = true) :
    (s.step step).2.hub.core = s.hub.core := by
  have ignores := Hub.ignoresService_core
  have ignoring := Hub.ignoresBootstrap_core
  by_cases serving : step.serving = true
  · exact ignores.step (fun _ _ _ => rfl) (fun keeps => nomatch keepsTopology.symm.trans keeps)
      (fun _ _ => rfl) s serving
  cases ordinary : step.ordinary with
  | false => exact ignoring.step_past ignores (fun _ _ => rfl) s ordinary
  | true =>
      cases step with
      | loadExtension => exact ignoring.tryExtension s.hub
      | setFault call stop => exact Hub.view_setFault (fun _ _ => rfl) (fun _ _ => rfl) s call stop
      | setDisplays entries => rfl
      | setResource resource => rfl
      | setExtension outcome => rfl
      | changeFiles removes layout => rfl
      | restorePipe => rfl
      | bootstrap => nomatch keepsTopology
      | teardown => nomatch keepsTopology
      | _ => exact absurd ordinary serving

/-! ### Answers -/

/-- What a round of work was answered, if it got as far as asking again. -/
def roundReports (id : Int32) (h : Hub) : List (Except Stop Topology) :=
  match Act.createById id (some .record) h with
  | (.ok _, u) => [u.report]
  | (.error _, _) => []

/-- What rounds of work were answered, before the answers given earlier. -/
def roundsReports (id : Int32) :
    Nat → Hub → List (Except Stop Topology) → List (Except Stop Topology)
  | 0, _, answers => answers
  | rounds + 1, h, answers =>
    roundsReports id rounds (workRound id h).2 (roundReports id h ++ answers)

/-- The same for work on several displays. -/
def workReports (rounds : Nat) :
    List Int32 → Hub → List (Except Stop Topology) → List (Except Stop Topology)
  | [], _, answers => answers
  | id :: rest, h, answers =>
    workReports rounds rest (workRounds id rounds h).2 (roundsReports id rounds h answers)

/-- What the hub was answered since it came up when it asked for a report to keep,
    once a step was taken. The latest answer comes first. -/
def reportsStep (s : Session) (answers : List (Except Stop Topology)) :
    Step → List (Except Stop Topology)
  | .bootstrap => match (Act.bootstrap s.hub).1 with
    | .ok _ => [s.hub.report]
    | .error _ => answers
  | .teardown => []
  | .refresh => if s.hub.initialized then s.hub.report :: answers else answers
  | .work ids rounds => workReports rounds ids s.hub answers
  | _ => answers

/-- The same after a sequence of steps. -/
def reportsAfter (s : Session) (answers : List (Except Stop Topology)) :
    List Step → List (Except Stop Topology)
  | [] => answers
  | step :: rest => (s.step step).2.reportsAfter (s.reportsStep answers step) rest

end Session

namespace Hub

/-- The cached topology is the latest report among the answers, and a hub that is
    down was not answered yet. -/
structure CachesLatest (h : Hub) (answers : List (Except Stop Topology)) : Prop where
  latest : h.core.topology = Topology.recent answers
  blank : h.initialized = false → answers = []

variable {h u : Hub} {answers : List (Except Stop Topology)}

theorem CachesLatest.same (cachesLatest : h.CachesLatest answers) (core : u.core = h.core) :
    u.CachesLatest answers := by
  obtain ⟨latest, blank⟩ := cachesLatest
  unfold initialized at blank
  rw [← core] at latest blank
  exact ⟨latest, blank⟩

/-- Asking again adds an answer, and a failure hides nothing that was answered
    before. -/
theorem CachesLatest.refresh (cachesLatest : h.CachesLatest answers) (up : h.initialized = true) :
    (Act.refresh h).2.CachesLatest (h.report :: answers) := by
  have still : h.asked.initialized = true := by
    unfold initialized
    rw [core_asked]
    exact up
  rw [Act.refresh_of_up up]
  cases h.report with
  | ok topology => exact ⟨rfl, fun down => nomatch down.symm.trans still⟩
  | error stop =>
      refine ⟨?_, fun down => nomatch down.symm.trans still⟩
      change h.asked.core.topology = Topology.recent answers
      rw [core_asked]
      exact cachesLatest.latest

/-- A hub that comes up remembers what it was answered on the way, and nothing from
    before. One that does not remembers what it did. -/
theorem CachesLatest.bootstrap (cachesLatest : h.CachesLatest answers) :
    (Act.bootstrap h).2.CachesLatest (match (Act.bootstrap h).1 with
      | .ok _ => [h.report]
      | .error _ => answers) := by
  rcases ending : Act.bootstrap h with ⟨stop | _, u⟩
  · exact cachesLatest.same (Act.core_bootstrap ending)
  · obtain ⟨-, up, topology, -⟩ := Act.bootstrap_report ending
    exact ⟨topology, fun down => nomatch down.symm.trans up⟩

theorem cachesLatest_teardown (h : Hub) : h.teardown.CachesLatest [] := by
  have core : h.teardown.core = {} :=
    Hub.told_of_ground Hub.core (ground_clear h.disableColor.stopCompositor) rfl rfl
  refine ⟨?_, fun _ => rfl⟩
  rw [core]
  rfl

/-- A round of work asks twice, and keeps the second answer. -/
theorem CachesLatest.workRound (cachesLatest : h.CachesLatest answers) (id : Int32) :
    (Session.workRound id h).2.CachesLatest (Session.roundReports id h ++ answers) := by
  have known := ignoresService_core.createById id (some .record) h
  unfold Session.workRound Session.roundReports
  rw [bind_apply]
  rcases made : Act.createById id (some .record) h with ⟨stop | d, u⟩
  · rw [made] at known
    exact cachesLatest.same known
  · rw [made] at known
    have up : u.initialized = true := by
      have there : h.initialized = true := by
        rw [Act.createById_apply] at made
        cases found : h.core.topology.find? id with
        | none =>
            rw [found] at made
            nomatch made
        | some entry =>
            rw [found] at made
            exact Act.up_of_construct (congrArg Prod.fst made)
      unfold initialized
      rw [known]
      exact there
    have asked := (cachesLatest.same known).refresh up
    dsimp only
    rw [bind_apply]
    unfold Act.onStop
    -- the display goes whatever was answered, and the answer stays
    rcases ending : Act.refresh u with ⟨stop | t, w⟩
    all_goals rw [ending] at asked
    · exact asked.same (ignoresService_core.drop d w)
    · exact asked.same (ignoresService_core.decommission d w)

theorem CachesLatest.workRounds (id : Int32) (rounds : Nat)
    (cachesLatest : h.CachesLatest answers) : (Session.workRounds id rounds h).2.CachesLatest
      (Session.roundsReports id rounds h answers) := by
  induction rounds generalizing h answers with
  | zero => exact cachesLatest
  | succ rounds ih =>
      have rest := ih (cachesLatest.workRound id)
      unfold Session.workRounds Session.roundsReports
      rcases ending : Session.workRound id h with ⟨_ | _, u⟩
      all_goals
        rw [ending] at rest
        exact rest

theorem CachesLatest.workAll (rounds : Nat) (ids : List Int32)
    (cachesLatest : h.CachesLatest answers) :
    (Session.workAll rounds ids h).2.CachesLatest (Session.workReports rounds ids h answers) := by
  induction ids generalizing h answers with
  | nil => exact cachesLatest
  | cons id ids ih => exact ih (cachesLatest.workRounds id rounds)

/-- Every step adds the answer that it got, if it got one to keep. -/
theorem CachesLatest.step {s : Session} (cachesLatest : s.hub.CachesLatest answers) (step : Step) :
    (s.step step).2.hub.CachesLatest (s.reportsStep answers step) := by
  by_cases keepsTopology : step.keepsTopology = true
  · have silent : s.reportsStep answers step = answers := by
      cases step <;> first | rfl | nomatch keepsTopology
    rw [silent]
    exact cachesLatest.same (s.core_step keepsTopology)
  · cases step with
    | bootstrap => exact cachesLatest.bootstrap
    | teardown => exact cachesLatest_teardown s.hub
    | refresh =>
        change (Act.refresh s.hub).2.CachesLatest (if s.hub.initialized = true then _ else _)
        by_cases up : s.hub.initialized = true
        · rw [if_pos up]
          exact cachesLatest.refresh up
        · rw [if_neg up, Act.refresh_of_down (Bool.not_eq_true _ ▸ up)]
          exact cachesLatest
    | work ids rounds => exact cachesLatest.workAll rounds ids
    | _ => exact absurd rfl keepsTopology

end Hub

namespace Session

/-- What a session's hub remembers, given the answers that it got. -/
structure CacheLaws (s : Session) (answers : List (Except Stop Topology)) : Prop where
  /-- A hub that is down knows of no display. -/
  blank : s.hub.initialized = false → s.hub.core.topology = .empty
  /-- What is cached is the latest report that the hub was given. -/
  latest : s.hub.core.topology = Topology.recent answers
  /-- It is changed in a few ways only. -/
  steady : ∀ step, step.keepsTopology = true →
    (s.step step).2.hub.core.topology = s.hub.core.topology
  /-- Even in those it is not if the hardware, or anybody else, fails. -/
  failed : ∀ stop, (Act.refresh s.hub).1 = .error stop →
    (s.step .refresh).2.hub.core.topology = s.hub.core.topology
  rejected : ∀ stop, (Act.bootstrap s.hub).1 = .error stop →
    (s.step .bootstrap).2.hub.core.topology = s.hub.core.topology
  /-- Whoever brings a hub up a second time is turned down. -/
  twice : s.hub.initialized = true →
    (Act.bootstrap s.hub).1 = .error (.failure .parameters)
  /-- A number means what is cached. -/
  named : ∀ k handler, (Act.createById k (some handler) s.hub).1 = .error (.failure .parameters) ↔
    s.hub.core.topology.find? k = none ∨
      ∃ entry, s.hub.core.topology.find? k = some entry ∧
        s.hub.CollaboratorStops entry.variant k (.failure .parameters)

theorem cacheLaws_of_cachesLatest {s : Session} {answers : List (Except Stop Topology)}
    (cachesLatest : s.hub.CachesLatest answers) : s.CacheLaws answers where
  blank down := by
    rw [cachesLatest.latest, cachesLatest.blank down]
    rfl
  latest := cachesLatest.latest
  steady step keepsTopology := congrArg Core.topology (s.core_step keepsTopology)
  failed stop refused := by
    change (Act.refresh s.hub).2.core.topology = _
    by_cases up : s.hub.initialized = true
    · rw [Act.refresh_of_up up] at refused ⊢
      cases report : s.hub.report with
      | ok t =>
          rw [report] at refused
          nomatch refused
      | error other => exact congrArg Core.topology s.hub.core_asked
    · rw [Act.refresh_of_down (Bool.not_eq_true _ ▸ up)]
  rejected stop refused := by
    change (Act.bootstrap s.hub).2.core.topology = _
    rcases ending : Act.bootstrap s.hub with ⟨r, u⟩
    rw [ending] at refused
    obtain rfl : r = .error stop := refused
    exact congrArg Core.topology (Act.core_bootstrap ending)
  twice up := by
    rw [Act.bootstrap_of_up up]
  named k handler := by
    refine Act.createById_parameters_iff fun entry found => ?_
    -- a hub that is down has no entry to be found
    refine Decidable.byContradiction fun down => ?_
    rw [cachesLatest.latest, cachesLatest.blank (Bool.not_eq_true _ ▸ down)] at found
    nomatch found

/-- Whatever was done with a hub, its displays, its collaborators and the hardware,
    the cached topology is the latest report that the hub asked for itself. -/
theorem cacheLaws_after {s : Session} (fresh : s.hub.Fresh) (steps : List Step) :
    (s.after steps).CacheLaws (s.reportsAfter [] steps) := by
  refine cacheLaws_of_cachesLatest ?_
  have before : s.hub.CachesLatest [] := by
    refine ⟨?_, fun _ => rfl⟩
    rw [fresh.core]
    rfl
  clear fresh
  generalize ([] : List (Except Stop Topology)) = answers at before ⊢
  induction steps generalizing s answers with
  | nil => exact before
  | cons step rest ih => exact ih _ (before.step step)

/-- The panel disappears, and then nobody can tell. -/
def failedRefresh : List Step :=
  [.bootstrap, .setDisplays [], .setFault .queryStatus (some (.failure .parameters)), .refresh]

/-- It is remembered still, and whoever asks for it is turned down by the provider. -/
theorem cacheLaws_after_failedRefresh :
    bench.hub.Fresh ∧ (bench.after failedRefresh).hub.core.topology.ids = [0] ∧
    (bench.reportsAfter [] failedRefresh).length = 2 ∧
    (Act.createById 0 (some .record) (bench.after failedRefresh).hub).1 =
      .error (.failure .parameters) ∧
    (bench.after failedRefresh).CacheLaws (bench.reportsAfter [] failedRefresh) := by
  have fresh : bench.hub.Fresh := fresh_recording _ _ _ _
  exact ⟨fresh, rfl, rfl, rfl, cacheLaws_after fresh failedRefresh⟩

end Session

end DisplayHub
