import DisplayHub.Proofs.Exclusion
import DisplayHub.Proofs.BootstrapState

/-!
# One Account of the Hardware

The hub, the compositor and the color service never disagree.

Three of the parts of a hub keep a copy of what was found out on the way up,
and nobody compares them. They are written one after the other, in the order in
which collaborators are called, and erased in another order on the way down. In
between the parts do disagree, but no step ends there: a way up that fails has
not started the compositor yet, and what comes after that cannot fail.

That leaves two ways to part them, and `Step.keepsHardware` rules both out. A collaborator
that is not needed may bring the whole program down after the compositor
started. And the description may change while the hub is up. Neither happens
where the description is a part of the settings, whether displays are listed
there or found among the connectors.

What a resting hub has no trace of is said for all of it: nothing is known,
nobody is active, and taking it down once more changes nothing.

## Main definitions

* `Step.keepsHardware`: The steps that can happen around fixed hardware.
* `BootstrapState.Coherent`: The copies are the same.
* `Hub.Agrees`: What that means for a hub.

## Theorems

* `BootstrapState.Coherent.transition`: No transition breaks the agreement.
* `Session.agrees_after`: Nor does any run around fixed
  hardware.
-/

namespace DisplayHub

/-- The steps that can happen where the description of the hardware is fixed.
    Most collaborators may fail at any time. The color service decides from the
    description alone, and what the hardware says of itself is never missing. -/
def Step.keepsHardware : Step → Bool
  | setResource _ => false
  | setFault .queryResource _ | setFault .queryLimit _ | setFault .startColor _ => false
  | setFault .queryStatus (some .collapse) => false
  | step => step.ordinary

namespace BootstrapState

/-- The copies of a description are the same, and there is none while the hub
    rests. -/
structure Coherent (r : Resource) (s : BootstrapState) : Prop where
  providersBalanced : s.ProvidersBalanced
  offer : s.offer = .ok r
  real : s.color.standIn = false
  bright : s.faults .startColor = none
  unbarred : s.faults .queryLimit = none
  sees : s.faults .queryStatus ≠ some .collapse
  up : s.core.provider.isSome = true → s.core.resource = some r ∧
    s.setup = some ⟨r, s.core.extension⟩ ∧ s.color.active = r.hasColor
  down : s.core.provider = none → s.core = {} ∧ s.setup = none ∧ s.color.active = false

variable {r : Resource} {s t : BootstrapState}

theorem Coherent.transition (transition : s.Transition t) (coherent : s.Coherent r) :
    t.Coherent r := by
  have providersBalanced := coherent.providersBalanced.transition transition
  obtain ⟨-, offer, real, bright, unbarred, sees, up, down⟩ := coherent
  cases transition with
  | stay => exact ⟨providersBalanced, offer, real, bright, unbarred, sees, up, down⟩
  | fall => exact ⟨providersBalanced, offer, real, bright, unbarred, sees, nofun, fun _ =>
      ⟨rfl, rfl, rfl⟩⟩
  | fail loads creates => exact ⟨providersBalanced, offer, real, bright, unbarred, sees, up, down⟩
  | collapse extension resource color idle reason next =>
      -- neither of the two that could do it does
      rcases reason with dark | blind
      · exact absurd (bright.symm.trans dark) nofun
      · exact absurd blind sees
  | rise extension resource atRest idle offered next =>
      obtain ⟨-, -, unlit⟩ := down atRest
      obtain rfl : r = resource := Except.ok.inj (offer.symm.trans offered)
      refine ⟨providersBalanced, offer, ?_, bright, unbarred, sees, fun _ => ⟨rfl, rfl, ?_⟩, nofun⟩
      · unfold ColorService.called
        split
        · exact real
        · exact real
      · unfold ColorService.called
        rw [bright, real]
        cases able : r.hasColor with
        | true => rfl
        | false => exact unlit
  | probe loads => exact ⟨providersBalanced, offer, real, bright, unbarred, sees, up, down⟩

end BootstrapState

namespace Hub

/-- The parts of a hub agree on what it is about. -/
structure Agrees (h : Hub) : Prop where
  together : h.initialized = h.compositor.setup.isSome
  /-- A hub that is up knows what the compositor deals out, and tells nobody
      anything else. -/
  up : ∀ setup, h.compositor.setup = some setup →
    h.core.resource = some setup.resource ∧ h.core.extension = setup.extension ∧
    h.color.active = setup.resource.hasColor ∧
    ∀ v, (Act.limit v h).1 = .ok (setup.resource.limit v) ∧
      (h.compositor.refusal? v none = some (.kindFull v (setup.resource.limit v)) ↔
        setup.resource.limit v ≤ h.compositor.countOf v)
  /-- A hub that is down knows nothing, and there is nothing to take down. -/
  down : h.initialized = false → h.core = {} ∧ h.color.active = false ∧
    h.compositor.active = [] ∧ { h.teardown with journal := h.journal } = h

variable {h : Hub} {r : Resource}

/-- A kind is full when the compositor says so. -/
theorem refusal?_kindFull_iff {c : Compositor} {setup : Setup} (work : c.setup = some setup)
    (v : Variant) : c.refusal? v none = some (.kindFull v (setup.resource.limit v)) ↔
      setup.resource.limit v ≤ c.countOf v := by
  unfold Compositor.refusal?
  rw [work]
  dsimp only [Option.filter_none]
  constructor
  · intro refused
    by_contra room
    rw [if_neg room] at refused
    split at refused <;> nomatch refused
  · intro full
    rw [if_pos full]

/-- A provider answers from the description that the compositor was started
    with. -/
theorem limit_of_coherent (coherent : h.bootstrapState.Coherent r) (up : h.initialized = true)
    (v : Variant) : (Act.limit v h).1 = .ok (r.limit v) := by
  have asked : h.faults .queryLimit = none := coherent.unbarred
  have offer : (h.recordCall .queryLimit).hardware.resource = .ok r := coherent.offer
  unfold Act.limit Act.requireProvider Act.queryLimit
  change ((ite ((!h.initialized) = true) (Act.fail .notInitialized) (pure ()) >>= fun _ =>
    Act.visit .queryLimit >>= fun _ => _ : Act Nat) h).1 = _
  rw [if_neg (by simp [up]), return_bind, bind_apply, Act.visit_apply, asked]
  dsimp only
  rw [get_bind, offer]
  rfl

theorem agrees_of_coherent (coherent : h.bootstrapState.Coherent r) (lawful : h.compositor.Lawful) :
    h.Agrees := by
  cases up : h.initialized with
  | true =>
      -- the last report is no part of it, and is not spoken of
      have core : h.coreButReport = { h.core with topology := {} } := by
        unfold coreButReport
        rw [if_pos up]
      obtain ⟨resource, work, lit⟩ := coherent.up (by
        change h.coreButReport.provider.isSome = true
        rw [core]
        exact up)
      have setup : h.compositor.setup = some ⟨r, h.core.extension⟩ := by
        refine Eq.trans work ?_
        change some (Setup.mk r h.coreButReport.extension) = _
        rw [core]
      refine ⟨by rw [up, setup]; rfl, ?_, fun down => absurd (up.symm.trans down) (by decide)⟩
      rintro s works
      obtain rfl := Option.some.inj (setup.symm.trans works)
      refine ⟨?_, rfl, lit, fun v =>
        ⟨limit_of_coherent coherent up v, refusal?_kindFull_iff setup v⟩⟩
      change h.coreButReport.resource = some r at resource
      rw [core] at resource
      exact resource
  | false =>
      have core : h.coreButReport = h.core := by
        unfold coreButReport
        rw [if_neg (by simp [up])]
      obtain ⟨nothing, work, dark⟩ := coherent.down (by
        change h.coreButReport.provider = none
        rw [core]
        simpa [initialized] using up)
      have idle : h.compositor.setup = none := work
      have unknown : h.core = {} := core.symm.trans nothing
      have active := lawful.idle idle
      refine ⟨by rw [up, idle]; rfl,
        fun s work => absurd (work.symm.trans idle) (Option.some_ne_none s), ?_⟩
      intro _
      exact ⟨unknown, dark, active, teardown_of_resting unknown idle active dark⟩

end Hub

/-! ### Runs -/

theorem Step.ordinary_of_keepsHardware {step : Step} (keepsHardware : step.keepsHardware = true) :
    step.ordinary = true := by
  cases step with
  | setResource resource => rfl
  | setFault call stop => rfl
  | _ => exact keepsHardware

/-- A fault that can be set around fixed hardware parts nobody. -/
theorem BootstrapState.Coherent.fault {r : Resource} {s : BootstrapState} {call : Call}
    {stop : Option Stop}
    (keepsHardware : (Step.setFault call stop).keepsHardware = true) (coherent : s.Coherent r) :
    BootstrapState.Coherent r
    { s with faults := fun c => if c = call then stop else s.faults c } := by
  have other (c : Call) (different : c ≠ call) :
      (if c = call then stop else s.faults c) = s.faults c := if_neg different
  -- a step that keeps the hardware sets no fault that matters here
  refine ⟨⟨coherent.providersBalanced.balanced, coherent.providersBalanced.known,
    coherent.providersBalanced.dealt⟩,
    coherent.offer, coherent.real, ?_, ?_, ?_, coherent.up, coherent.down⟩
  · refine (other .startColor ?_).trans coherent.bright
    rintro rfl
    nomatch keepsHardware
  · refine (other .queryLimit ?_).trans coherent.unbarred
    rintro rfl
    nomatch keepsHardware
  · change (if Call.queryStatus = call then stop else s.faults .queryStatus) ≠ _
    split
    · rintro rfl
      next same =>
        subst same
        nomatch keepsHardware
    · exact coherent.sees

namespace Session

variable {s : Session} {r : Resource} {steps : List Step}

theorem coherent_after (fresh : s.hub.Fresh) (even : s.created = s.destroyed)
    (fixed : s.hub.hardware.resource = .ok r) (dark : s.hub.color = {})
    (calm : ∀ call, s.hub.faults call = none)
    (keepsHardware : ∀ step ∈ steps, step.keepsHardware = true) :
    (s.after steps).hub.bootstrapState.Coherent r := by
  have coreButReport : s.hub.coreButReport = {} := by
    unfold Hub.coreButReport Hub.initialized
    rw [fresh.core]
    rfl
  have core : s.hub.bootstrapState.core = {} := coreButReport
  have idle : s.hub.bootstrapState.setup = none := by
    change s.hub.compositor.setup = none
    rw [fresh.compositor]
  have color : s.hub.bootstrapState.color = {} := dark
  -- a fresh hub has no copies that could differ
  have before : s.hub.bootstrapState.Coherent r := by
    refine ⟨Hub.providersBalanced_of_fresh fresh even, fixed, by rw [color], calm _,
      calm _, ?_, ?_, ?_⟩
    · change s.hub.faults .queryStatus ≠ _
      rw [calm]
      exact nofun
    · rw [core]
      exact nofun
    · intro _
      exact ⟨core, idle, by rw [color]⟩
  refine stands_after (fun step => step.keepsHardware = true)
    BootstrapState.Coherent.providersBalanced
    BootstrapState.Coherent.transition ?_ ?_ BootstrapState.Coherent.fault before
    (fun step taken => Step.ordinary_of_keepsHardware (keepsHardware step taken)) keepsHardware
  · exact fun allowed => nomatch allowed
  · exact fun allowed => nomatch allowed

/-- Around fixed hardware the parts of a hub agree after any run, whichever
    collaborators failed in it. -/
theorem agrees_after (fresh : s.hub.Fresh) (even : s.created = s.destroyed)
    (fixed : s.hub.hardware.resource = .ok r) (dark : s.hub.color = {})
    (calm : ∀ call, s.hub.faults call = none)
    (keepsHardware : ∀ step ∈ steps, step.keepsHardware = true) : (s.after steps).hub.Agrees := by
  have start : (s.ledger 0 0).WellFormed := by
    rw [ledger_of_fresh fresh]
    exact ⟨Accounted.new, Compositor.lawful_new, fun up => nomatch up⟩
  have wellFormed := upholds_after (fun _ => True) Ledger.WellFormed.move
    (fun _ wellFormed => ⟨wellFormed.accounts, wellFormed.lawful, wellFormed.linked⟩) start
    (fun step taken => Step.ordinary_of_keepsHardware (keepsHardware step taken)) fun _ _ => trivial
  exact Hub.agrees_of_coherent
    (coherent_after fresh even fixed dark calm keepsHardware) wellFormed.lawful

/-- The compositor refuses to start at first. Then the hub comes up with a vendor
    interface, is asked to come up once more, goes down with a display in service,
    and comes up again. -/
def upAndDown : List Step :=
  [.setExtension (.ok true), .setFault .startCompositor (some (.failure .memory)), .bootstrap,
    .setFault .startCompositor none, .bootstrap, .createById 0 (some .record), .bootstrap,
    .teardown, .teardown, .setDisplays [], .bootstrap]

theorem agrees_after_upAndDown : bench.hub.Fresh ∧ bench.created = bench.destroyed ∧
    bench.hub.hardware.resource = .ok {} ∧ bench.hub.color = {} ∧
    (∀ call, bench.hub.faults call = none) ∧ (∀ step ∈ upAndDown, step.keepsHardware = true) ∧
    (bench.after upAndDown).hub.initialized = true ∧ (bench.after upAndDown).hub.Agrees := by
  have fresh : bench.hub.Fresh := fresh_recording _ _ _ _
  have keepsHardware : ∀ step ∈ upAndDown, step.keepsHardware = true := by decide
  exact ⟨fresh, rfl, rfl, rfl, fun _ => rfl, keepsHardware, rfl,
    agrees_after fresh rfl rfl rfl (fun _ => rfl) keepsHardware⟩

end Session

end DisplayHub
