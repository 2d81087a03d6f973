import DisplayHub.Proofs.Teardown
import DisplayHub.Proofs.Slots

/-!
# Starting Over

A hub that was taken down is as good as new.

After `Hub.teardown` much is left of what was done before: displays that
somebody still holds, their buffers and tokens, and every number that was
counted on the way. None of it decides about an answer. So whatever is done
next is answered as it would be by a hub that was just built in the same
surroundings (`Session.renewed`), and what the hub knows afterwards is the same
(`Hub.Resembles`).

The new session has no slots yet. Displays are put behind the slots of the old
one there, which is where `Session.onLaterSlots` moves the steps on them. Tokens of
the old session are counted from where its compositor is, and those of the new
one from nothing.

One thing is different. The policy for bandwidth is chosen when the compositor
starts, and one that stops keeps it. Until it is started again, the old policy
can be read off a compositor that is not at work (`Session.mode_survives`).
From then on the policy is the same as well, even once the compositor has
stopped another time.

## Main definitions

* `Session.renewed`: A session on a new hub in the same surroundings.
* `Session.onLaterSlots`: The steps that are taken in the old session.
* `Hub.Resembles`: What is the same afterwards.
* `Session.BehavesAsNew`: A sequence of steps goes as in a new session.

## Theorems

* `Hub.sameUpTo_renewed`: A hub that was taken down is an image of a new one.
* `Session.behavesAsNew_after`: What follows going down goes as in a new session.
* `Session.mode_survives`: The policy for bandwidth is not reset by going down.
-/

namespace DisplayHub

/-! ### A new hub -/

namespace Hub

/-- A hub that was just built in the surroundings of this one. -/
def renewed (h : Hub) : Hub where
  storage := h.storage
  override := h.override
  loader := h.loader
  hardware := h.hardware
  faults := h.faults
  allocator := { limit := h.allocator.limit }
  color := { standIn := h.color.standIn }

/-- Two hubs that know the same and have the same displays active. -/
structure Resembles (h u : Hub) : Prop where
  initialized : h.initialized = u.initialized
  topology : h.core.topology = u.core.topology
  resource : h.core.resource = u.core.resource
  extension : h.core.extension.isSome = u.core.extension.isSome
  color : h.color = u.color
  /-- What the compositors work with. -/
  work : h.compositor.setup.map (fun s => (s.resource, s.extension.isSome)) =
    u.compositor.setup.map fun s => (s.resource, s.extension.isSome)
  active : h.compositor.active.map (fun a => (a.variant, a.id)) =
    u.compositor.active.map fun a => (a.variant, a.id)

variable {ρ : Nat → Nat} {agreed : Prop} {h u : Hub}

theorem SameUpTo.resembles (images : h.SameUpTo ρ agreed u) : h.Resembles u where
  initialized := images.initialized
  topology := images.topology
  resource := congrArg (fun f : Observed => f.core.resource) images.observed
  extension := by
    have same := congrArg (fun f : Observed => f.core.extension.isSome) images.observed
    change (h.core.extension.map Extension.erased).isSome =
      (u.core.extension.map Extension.erased).isSome at same
    rwa [Option.isSome_map, Option.isSome_map] at same
  color := congrArg Observed.color images.observed
  work := by
    -- no more than the number of the interface is erased
    have unerased (s : Option Setup) : s.map (fun s => (s.resource, s.extension.isSome)) =
        (s.map Setup.erased).map fun s => (s.resource, s.extension.isSome) := by
      rw [Option.map_map]
      refine congrArg (s.map ·) (funext fun s => ?_)
      exact congrArg (s.resource, ·) Option.isSome_map.symm
    rw [unerased, images.compositor.setup, ← unerased]
  active := by
    rw [images.compositor.active, List.map_map]
    rfl

/-- Compositors that are at work agree on the policy for good. -/
theorem SameUpTo.settle (images : h.SameUpTo ρ agreed u)
    (working : u.compositor.setup.isSome = true) : h.SameUpTo ρ True u where
  observed := images.observed
  compositor := by
    have work : h.compositor.setup.isSome = true := by
      rcases images.compositor.setup_cases with ⟨-, resting⟩ | ⟨s, t, one, -, -⟩
      · rw [resting] at working
        nomatch working
      · rw [one]
        rfl
    exact ⟨images.compositor.setup, images.compositor.active, images.compositor.next,
      fun _ => images.compositor.mode (Or.inl work)⟩

/-- A hub that was taken down is an image of a new one, with a policy that is not
    agreed on. -/
theorem sameUpTo_renewed (h : Hub) :
    h.teardown.SameUpTo (h.compositor.nextToken + ·) False h.teardown.renewed := by
  have down := ground_teardown h
  have core : h.teardown.core = {} := Hub.told_of_ground Hub.core down rfl rfl
  have compositor : h.teardown.compositor = h.compositor.stop :=
    Hub.told_of_ground Hub.compositor down rfl rfl
  have color : h.teardown.color = { h.color with active := false } :=
    Hub.told_of_ground Hub.color down rfl rfl
  refine ⟨?_, ?_⟩
  · unfold observed renewed
    rw [core, compositor, color]
    rfl
  · rw [compositor]
    refine ⟨rfl, rfl, fun i => ?_, ?_⟩
    · change h.compositor.nextToken + i = h.compositor.nextToken + (0 + i)
      rw [Nat.zero_add]
    · rintro (working | ⟨⟨⟩⟩)
      nomatch working

end Hub

namespace Session

/-! ### A new session -/

/-- A session on a new hub in the same surroundings. -/
def renewed (s : Session) : Session where
  rig := s.rig
  hub := s.hub.renewed

/-- Where displays are put that a session gets from now on. -/
def seat (s : Session) (i : Nat) : Nat :=
  s.hub.slots.length + i

/-- Steps on the displays that a session gets from now on. -/
def onLaterSlots (s : Session) (steps : List Step) : List Step :=
  steps.map (Step.reseat s.seat)

/-- A sequence of steps is answered as in a new session, and leaves the same
    behind. The policy for bandwidth is the same as soon as the compositor was
    started. -/
structure BehavesAsNew (s : Session) (steps : List Step) : Prop where
  answers : List.Forall₂ (Outcome.Matches s.seat) (s.answers (s.onLaterSlots steps))
    (s.renewed.answers steps)
  resembles : (s.after (s.onLaterSlots steps)).hub.Resembles (s.renewed.after steps).hub
  mode : ∀ first rest, steps = first ++ rest →
    (s.renewed.after first).hub.compositor.setup.isSome = true →
    (s.after (s.onLaterSlots steps)).hub.compositor.mode =
    (s.renewed.after steps).hub.compositor.mode

variable {ρ seat : Nat → Nat} {agreed : Prop} {s t : Session}

theorem seat_injective (s : Session) : Function.Injective s.seat :=
  fun _ _ same => Nat.add_left_cancel same

theorem after_append (s : Session) (first rest : List Step) :
    s.after (first ++ rest) = (s.after first).after rest :=
  List.foldl_append

theorem sameUpTo_renewed (s : Session) : (s.step .teardown).2.SameUpTo
    (s.hub.compositor.nextToken + ·) False (s.step .teardown).2.seat
    (s.step .teardown).2.renewed where
  rig := rfl
  hub := Hub.sameUpTo_renewed s.hub
  ahead i := congrArg ((s.step .teardown).2.hub.slots.length + ·) (Nat.zero_add i).symm
  seated i := by
    -- nothing was put into the slots behind the last one
    have vacant : (s.step .teardown).2.hub.display? ((s.step .teardown).2.seat i) = none := by
      unfold Hub.display? Session.seat
      rw [List.getElem?_eq_none (Nat.le_add_right _ i)]
      rfl
    rw [vacant]
    exact Option.Rel.none

/-- The policy is the same from the moment on at which the compositor is at work. -/
theorem SameUpTo.mode (apart : Function.Injective ρ) (seats : Function.Injective seat)
    (images : s.SameUpTo ρ agreed seat t) {first rest : List Step}
    (plain : ∀ step ∈ first ++ rest, step.plain = true)
    (working : (t.after first).hub.compositor.setup.isSome = true) :
    (s.after ((first ++ rest).map (Step.reseat seat))).hub.compositor.mode =
      (t.after (first ++ rest)).hub.compositor.mode := by
  have before := (images.run apart seats fun step early =>
    plain step (List.mem_append_left rest early)).2
  have settled : (s.after (first.map (Step.reseat seat))).SameUpTo ρ True seat (t.after first) :=
    ⟨before.rig, before.hub.settle working, before.ahead, before.seated⟩
  have last := (settled.run apart seats fun step late =>
    plain step (List.mem_append_right first late)).2
  rw [List.map_append, after_append, after_append]
  exact last.hub.compositor.mode (Or.inr trivial)

/-- Whatever was done before a hub was taken down, what is done next goes as in a
    new session. -/
theorem behavesAsNew_after (s : Session) (earlier : List Step) {later : List Step}
    (plain : ∀ step ∈ later, step.plain = true) :
    (s.after (earlier ++ [.teardown])).BehavesAsNew later := by
  rw [after_append]
  have images := sameUpTo_renewed (s.after earlier)
  have apart : Function.Injective ((s.after earlier).hub.compositor.nextToken + ·) :=
    fun _ _ same => Nat.add_left_cancel same
  have seats := seat_injective ((s.after earlier).step .teardown).2
  obtain ⟨answers, last⟩ := images.run apart seats plain
  refine ⟨answers, last.hub.resembles, ?_⟩
  rintro first rest rfl working
  exact images.mode apart seats plain working

/-- A hub gets two displays, one of which is dropped, and a policy for a camera. -/
def busyRun : List Step :=
  [.bootstrap, .create .offscreen (some .record), .createById 0 (some .record), .drop 0,
    .setBandwidth .camera]

/-- The panel is created again, and switched on. -/
def laterRun : List Step :=
  [.bootstrap, .createById 0 (some .record), .setPower 0 .on, .refresh]

theorem behavesAsNew_after_teardown : (∀ step ∈ laterRun, step.plain = true) ∧
    (bench.after (busyRun ++ [.teardown])).onLaterSlots laterRun =
      [.bootstrap, .createById 0 (some .record), .setPower 2 .on, .refresh] ∧
    (bench.after (busyRun ++ [.teardown])).BehavesAsNew laterRun := by
  have plain : ∀ step ∈ laterRun, step.plain = true := by decide
  exact ⟨plain, rfl, behavesAsNew_after bench busyRun plain⟩

/-- The hub is to come up again, but gets no provider. -/
def failedBootstrap : List Step :=
  [.setFault .createProvider (some (.failure .memory)), .bootstrap]

/-- The compositor is not started then, and keeps the policy from before. In a new
    session it has the usual one. -/
theorem mode_survives : (∀ step ∈ failedBootstrap, step.plain = true) ∧
    ((bench.after (busyRun ++ [.teardown])).after
      ((bench.after (busyRun ++ [.teardown])).onLaterSlots failedBootstrap)).hub.compositor.mode =
      .camera ∧
    ((bench.after (busyRun ++ [.teardown])).renewed.after failedBootstrap).hub.compositor.mode =
      .standard := by
  have plain : ∀ step ∈ failedBootstrap, step.plain = true := by decide
  exact ⟨plain, rfl, rfl⟩

end Session

end DisplayHub
