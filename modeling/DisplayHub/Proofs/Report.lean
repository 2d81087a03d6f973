import DisplayHub.Proofs.Views
import DisplayHub.Proofs.Bootstrap

/-!
# Reports

What the hardware answers when it is asked which displays there are.

An answer is made from three things only: the fault that is set at the question,
the listing, and the files (`Hub.reportInputs`). Two hubs that agree on these are
answered alike, whatever else they know (`report_congr`). So the answer that
some operation gets half way can be told from the hub that it began with, as
long as nothing it did before touches the three.

Bringing the hub up is such an operation. It asks last, after everything that it
cannot do without, and none of that reads or changes what a report is made from.
Asking does change the files: a file may take others along when it is opened, so
the second answer can be another one.

## Main definitions

* `Hub.report`, `Hub.asked`: The answer, and the hub once it was given.
* `Hub.reportInputs`: What an answer is made from.
* `Topology.recent`: The latest report among answers.

## Theorems

* `Hub.report_congr`: What an answer depends on.
* `Hub.logged_asked`: Asking is written down once.
* `Act.core_bootstrap`: What the hub knows once it is up.
* `Act.refresh_of_up`, `Act.refresh_of_down`: What it knows once it asked again.
-/

namespace DisplayHub

/-- The latest report among answers, of which the latest comes first. -/
def Topology.recent : List (Except Stop Topology) → Topology
  | [] => .empty
  | .ok topology :: _ => topology
  | .error _ :: rest => recent rest

namespace Hub

/-- What a report is made from: the fault that is set at the question, the
    listing, and the files. -/
def reportInputs (h : Hub) : Option Stop × Listing × Storage :=
  (h.faults .queryStatus, h.hardware.listing, h.storage)

/-- What the hardware answers when it is asked for a report. -/
def report (h : Hub) : Except Stop Topology :=
  (Act.queryStatus h).1

/-- The hub once it asked for a report. -/
def asked (h : Hub) : Hub :=
  (Act.queryStatus h).2

variable {h u : Hub} {c : Compositor} {a : Allocator}

/-- Nothing that is dealt out makes a difference to what the hub knows. -/
theorem core_of_ground (dealt : u.ground = h.dealing c a) : u.core = h.core :=
  Hub.told_of_ground core dealt rfl rfl

theorem core_of_same (same : u.ground = h.ground) : u.core = h.core :=
  core_of_ground (same.trans rfl : u.ground = h.dealing h.compositor h.allocator)

/-- Nothing that is dealt out makes a difference to a report. -/
theorem reportInputs_of_ground (dealt : u.ground = h.dealing c a)
    (storage : u.storage = h.storage) : u.reportInputs = h.reportInputs := by
  have hardware : u.hardware = h.hardware := Hub.told_of_ground Hub.hardware dealt rfl rfl
  unfold reportInputs
  rw [faults_of_ground dealt, hardware, storage]

theorem ground_asked (h : Hub) : h.asked.ground = h.ground :=
  Act.keeps_queryStatus h

theorem core_asked (h : Hub) : h.asked.core = h.core :=
  core_of_same h.ground_asked

end Hub

namespace Act

variable {α : Type} {h h' : Hub}

theorem queryStatus_apply (h : Hub) : queryStatus h = (h.report, h.asked) := rfl

/-- A scan answers from the files, and leaves them as it found them opened. -/
theorem scanConnectors_apply (root : String) (h : Hub) : scanConnectors root h =
    (match (Connector.scan h.storage root).1 with
      | .ok topology => .ok topology
      | .error fault => .error (.failure
          (.hardware ("read_dir " ++ root ++ ": " ++ fault.message))),
    { h with storage := (Connector.scan h.storage root).2.1 }.noteAll
      (Connector.scan h.storage root).2.2) := by
  unfold scanConnectors
  rw [get_bind]
  rcases Connector.scan h.storage root with ⟨result, storage, notes⟩
  dsimp only
  rw [set_bind]
  cases result <;> rfl

end Act

namespace Hub

variable {h u : Hub}

/-- Hubs that agree on what a report is made from are answered alike, and agree
    on it afterwards. -/
theorem report_congr (same : u.reportInputs = h.reportInputs) :
    u.report = h.report ∧ u.asked.reportInputs = h.asked.reportInputs := by
  obtain ⟨fault, rest⟩ := Prod.mk.inj same
  obtain ⟨listing, storage⟩ := Prod.mk.inj rest
  have called (v : Hub) : (v.recordCall .queryStatus).hardware = v.hardware := rfl
  unfold report asked Act.queryStatus
  rw [bind_apply, bind_apply, Act.visit_apply, Act.visit_apply, fault]
  cases h.faults .queryStatus with
  | some stop => exact ⟨rfl, same⟩
  | none =>
      dsimp only
      rw [get_bind, get_bind, called, called, listing]
      cases h.hardware.listing with
      | described entries => exact ⟨rfl, same⟩
      | scripted entries => exact ⟨rfl, same⟩
      | connectors root =>
          have files : (u.recordCall .queryStatus).storage = (h.recordCall .queryStatus).storage :=
            storage
          dsimp only
          rw [Act.scanConnectors_apply, Act.scanConnectors_apply, files]
          refine ⟨rfl, ?_⟩
          unfold reportInputs
          exact Prod.ext fault (Prod.ext listing rfl)

/-- Asking is written down once, whatever is answered. -/
theorem logged_asked (h : Hub) : h.Logged 0 0 [.call .queryStatus] h.asked := by
  by_cases quiet : h.faults .queryStatus = some .collapse
  · have called := (onlyLogged_recordCall .queryStatus h).toLogged
    unfold asked Act.queryStatus
    rw [bind_apply, Act.visit_apply, quiet]
    exact called
  · obtain ⟨r, u, ran, -, logged⟩ := Act.queryStatus_logged quiet
    rw [Act.queryStatus_apply] at ran
    obtain ⟨-, rfl⟩ := Prod.mk.inj ran
    exact logged

/-- What a report is made from, and what the hub knows. -/
def reportInputsAndCore (h : Hub) : (Option Stop × Listing × Storage) × Core :=
  (h.reportInputs, h.core)

theorem OnlyLogged.reportInputsAndCore {a b : Nat} {l : List Record}
    (onlyLogged : OnlyLogged a b l h u) : u.reportInputsAndCore = h.reportInputsAndCore := by
  have same : u.ground = h.dealing h.compositor h.allocator := onlyLogged.ground
  exact Prod.ext (reportInputs_of_ground same onlyLogged.storage) (core_of_ground same)

end Hub

namespace Act

variable {α : Type} {h h' : Hub}

/-! ### Bringing the hub up -/

/-- Nothing that comes before the question shows in what the answer is made from. -/
theorem ignoresBootstrap_reportInputsAndCore : Hub.IgnoresBootstrap Hub.reportInputsAndCore :=
  ⟨fun _ _ _ => rfl, fun _ _ => rfl, fun _ _ => rfl, fun _ _ => rfl, fun _ _ => rfl,
    fun _ _ => rfl, fun _ _ => rfl, fun _ _ => rfl, fun _ _ => rfl, fun _ _ => rfl⟩

/-- Where there is a topology, it is the report, or one without displays. -/
theorem tryStatus_report {t : Topology} (run : tryStatus h = (.ok t, h')) :
    t = Topology.recent [h.report] ∧ h'.reportInputsAndCore = h.asked.reportInputsAndCore := by
  unfold tryStatus at run
  rw [bind_apply] at run
  unfold attempt at run
  rw [queryStatus_apply] at run
  cases answer : h.report with
  | ok topology =>
      rw [answer] at run
      obtain ⟨⟨⟩, rfl⟩ := Prod.mk.inj run
      exact ⟨rfl, rfl⟩
  | error stop =>
      rw [answer] at run
      cases stop with
      | failure f =>
          obtain ⟨⟨⟩, rfl⟩ := Prod.mk.inj run
          exact ⟨rfl, rfl⟩
      | collapse => nomatch run

/-- Asking for a report changes the files at most. -/
theorem core_tryStatus : Keeps Hub.core tryStatus :=
  fun h => Hub.core_of_same (keeps_tryStatus h)

theorem core_describe (extension : Option Extension) : Keeps Hub.core (describe extension) := by
  have known {β : Type} {act : Act β}
    (keeps : Keeps Hub.reportInputsAndCore act) : Keeps Hub.core act :=
    fun h => congrArg Prod.snd (keeps h)
  exact (known ignoresBootstrap_reportInputsAndCore.queryResource).bind fun _ =>
    (known (ignoresBootstrap_reportInputsAndCore.note _ _)).bind fun _ =>
    (known (ignoresBootstrap_reportInputsAndCore.startCompositor _ _)).bind fun _ =>
      (known (ignoresBootstrap_reportInputsAndCore.tryColor _)).bind fun _ =>
    core_tryStatus.bind fun _ =>
      (known ignoresBootstrap_reportInputsAndCore.ignoreBrokenPipe).bind fun _ =>
    (known (ignoresBootstrap_reportInputsAndCore.note _ _)).bind fun _ => keeps_pure _

/-- What is found out last is what the hardware answered all along. -/
theorem describe_report {extension : Option Extension} {found : Resource × Topology}
    (run : describe extension h = (.ok found, h')) :
    found.2 = Topology.recent [h.report] ∧ h'.reportInputs = h.asked.reportInputs := by
  unfold describe at run
  rcases ignoresBootstrap_reportInputsAndCore.queryResource.bind_cases
    run with ⟨resource, h₁, asked, run⟩ | ⟨_, ⟨⟩, -⟩
  rcases (ignoresBootstrap_reportInputsAndCore.note _ _).bind_cases
    run with ⟨_, h₂, noted, run⟩ | ⟨_, ⟨⟩, -⟩
  rcases (ignoresBootstrap_reportInputsAndCore.startCompositor _ _).bind_cases
    run with ⟨_, h₃, started, run⟩ | ⟨_, ⟨⟩, -⟩
  rcases (ignoresBootstrap_reportInputsAndCore.tryColor _).bind_cases
    run with ⟨_, h₄, lit, run⟩ | ⟨_, ⟨⟩, -⟩
  have before : h₄.reportInputs = h.reportInputs :=
    congrArg Prod.fst (lit.trans (started.trans (noted.trans asked)))
  obtain ⟨answer, later⟩ := Hub.report_congr before
  rcases bind_cases run with ⟨t, h₅, reported, run⟩ | ⟨_, -, ⟨⟩⟩
  obtain ⟨rfl, left⟩ := tryStatus_report reported
  rcases ignoresBootstrap_reportInputsAndCore.ignoreBrokenPipe.bind_cases
    run with ⟨_, h₆, ignored, run⟩ | ⟨_, ⟨⟩, -⟩
  obtain ⟨⟨⟩, rfl⟩ := Prod.mk.inj run
  refine ⟨by rw [answer], ?_⟩
  exact (congrArg Prod.fst (ignored.trans left)).trans later

/-- A hub comes up from below, and knows then what the hardware answered. -/
theorem bootstrap_report (run : bootstrap h = (.ok (), h')) : h.initialized = false ∧
    h'.initialized = true ∧ h'.core.topology = Topology.recent [h.report] ∧
    h'.reportInputs = h.asked.reportInputs := by
  by_cases up : h.initialized = true
  · rw [bootstrap_of_up up] at run
    nomatch run
  · rw [Bool.not_eq_true] at up
    obtain ⟨u, -, onlyLogged, ran⟩ := bootstrap_of_down up
    rw [ran] at run
    cases loaded : h.extensionAnswer with
    | error stop =>
        rw [loaded] at run
        nomatch run
    | ok extension =>
        rw [loaded] at run
        rcases onStop_cases run with ⟨_, assembled, ⟨⟩⟩ | ⟨_, _, -, ⟨⟩, -⟩
        obtain ⟨v, granted, way⟩ := assemble_apply extension u
        rw [way] at assembled
        cases provided : u.providerAnswer with
        | error stop =>
            rw [provided] at assembled
            nomatch assembled
        | ok _ =>
            rw [provided] at assembled
            unfold complete at assembled
            rcases bind_cases assembled with ⟨found, w, described, last⟩ | ⟨_, -, ⟨⟩⟩
            rcases onStop_cases described with ⟨_, described, ⟨⟩⟩ | ⟨_, _, -, ⟨⟩, -⟩
            obtain ⟨topology, later⟩ := describe_report described
            obtain ⟨-, rfl⟩ := Prod.mk.inj last
            -- nothing before the description touched what a report is made from
            have before : v.reportInputs = h.reportInputs :=
              congrArg Prod.fst (granted.reportInputsAndCore.trans onlyLogged.reportInputsAndCore)
            obtain ⟨answer, after⟩ := Hub.report_congr before
            exact ⟨up, rfl, topology.trans (by rw [answer]), later.trans after⟩

/-- A hub that does not come up knows what it knew before. -/
theorem core_bootstrap {stop : Stop} (run : bootstrap h = (.error stop, h')) :
    h'.core = h.core := by
  by_cases up : h.initialized = true
  · rw [bootstrap_of_up up] at run
    obtain ⟨-, rfl⟩ := Prod.mk.inj run
    rfl
  · -- the core is set last of all, so whatever stops the hub leaves it
    rw [Bool.not_eq_true] at up
    obtain ⟨u, -, onlyLogged, ran⟩ := bootstrap_of_down up
    have below : u.core = h.core := congrArg Prod.snd onlyLogged.reportInputsAndCore
    rw [ran] at run
    cases loaded : h.extensionAnswer with
    | error stop =>
        rw [loaded] at run
        obtain ⟨-, rfl⟩ := Prod.mk.inj run
        exact below
    | ok extension =>
        rw [loaded] at run
        -- letting an interface go leaves the core alone, so only the assembly is looked at
        rcases onStop_cases run with ⟨_, -, ⟨⟩⟩ | ⟨_, v, assembled, -, rfl⟩
        refine (Hub.core_of_same (Hub.ground_letGo? extension v)).trans (Eq.trans ?_ below)
        obtain ⟨w, granted, way⟩ := assemble_apply extension u
        have provided : w.core = u.core := congrArg Prod.snd granted.reportInputsAndCore
        rw [way] at assembled
        cases answer : u.providerAnswer with
        | error stop =>
            rw [answer] at assembled
            obtain ⟨-, rfl⟩ := Prod.mk.inj assembled
            exact provided
        | ok _ =>
            rw [answer] at assembled
            unfold complete at assembled
            rcases bind_cases assembled with ⟨_, _, -, last⟩ | ⟨_, aborted, -⟩
            · nomatch last
            · rcases onStop_cases aborted with ⟨_, -, ⟨⟩⟩ | ⟨_, x, described, -, rfl⟩
              have same := core_describe extension w
              rw [described] at same
              exact same.trans provided

/-! ### Asking again -/

/-- A hub that is up remembers what it is told, if it is told anything. -/
theorem refresh_of_up (up : h.initialized = true) : refresh h = match h.report with
    | .ok topology => (.ok topology, { h.asked with core := { h.asked.core with topology } })
    | .error stop => (.error stop, h.asked) := by
  unfold refresh requireProvider
  rw [bind_apply, get_bind, if_neg (by simp [up])]
  change (queryStatus >>= fun topology => _ : Act Topology) h = _
  rw [bind_apply, queryStatus_apply]
  cases h.report <;> rfl

theorem refresh_of_down (down : h.initialized = false) :
    refresh h = (.error (.failure .notInitialized), h) := by
  unfold refresh requireProvider
  rw [bind_apply, get_bind, if_pos (by simp [down])]
  rfl

end Act

end DisplayHub
