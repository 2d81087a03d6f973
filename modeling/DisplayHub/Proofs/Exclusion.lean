import DisplayHub.Proofs.Registration
import Mathlib.Data.List.Pairwise

/-!
# Driving No Hardware Twice

Which displays are kept from driving the same hardware.

The compositor keeps to its rules among the displays that are active
(`Compositor.Lawful`), and those are the ones whose tokens count. So two of
them never have the same number, and no kind has more of them than the
hardware supports, where the hardware is what the hub found out on its way up.

It does not go further than that. A display that was in service when the hub
went down takes itself for one that still is. Once the hub is up again, another
display can be brought into service for the same number, and then there are
two that can be switched on.

## Main definitions

* `Ledger.WellFormed`: Accounts in order, under the compositor's rules.
* `Hub.Exclusive`: Displays of a sort drive no hardware twice.

## Theorems

* `Ledger.WellFormed.move`: No entry in the ledger breaks the order.
* `Hub.countP_current`: Counting displays is counting what is active.
* `Session.exclusive_after`: Displays whose tokens count drive no hardware
  twice.
* `Session.driven_twice_after_rebootstrap`: Displays that are initialized may.
-/

namespace DisplayHub

/-- The accounts are in order, the compositor deals lawfully, and the hub knows
    the hardware that the compositor deals out. -/
structure Ledger.WellFormed (b : Ledger) : Prop where
  accounts : Accounted b.floor b.displays b.stock.compositor
  lawful : b.stock.compositor.Lawful
  linked : b.stock.up = true → ∃ setup, b.stock.compositor.setup = some setup ∧
    b.stock.resource = some setup.resource

namespace Ledger

/-- A display that is gone breaks no rule. -/
theorem lawful_release {c : Compositor} (lawful : c.Lawful) (d : Display) :
    (d.release c).Lawful ∧ (d.release c).setup = c.setup := by
  unfold Display.release
  cases d.token with
  | none => exact ⟨lawful, rfl⟩
  | some token => exact ⟨Compositor.lawful_unregister lawful token, rfl⟩

theorem WellFormed.move {a b : Ledger} (move : a.Move b) (before : a.WellFormed) :
    b.WellFormed := by
  have accounts := before.accounts.move move
  obtain ⟨-, lawful, linked⟩ := before
  cases move with
  | reorder same => exact ⟨accounts, lawful, linked⟩
  | make idle _ => exact ⟨accounts, lawful, linked⟩
  | touch alike => exact ⟨accounts, lawful, linked⟩
  | @bringUp _ _ _ _ _ h h' _ raised =>
      obtain ⟨c, allocator, dealt, granted⟩ := raised.dealt
      have stock : h'.stock = h.stock.dealing c allocator :=
        congrArg Prod.fst (Hub.holdings_of_ground dealt)
      refine ⟨accounts, ?_, ?_⟩
      · change h'.stock.compositor.Lawful
        rw [stock]
        rcases granted with rfl | ⟨v, id, free, rfl⟩
        · exact lawful
        · exact Compositor.lawful_grant lawful free
      · change h'.stock.up = true → ∃ setup, h'.stock.compositor.setup = some setup ∧
          h'.stock.resource = some setup.resource
        rw [stock]
        rcases granted with rfl | ⟨v, id, free, rfl⟩
        · exact linked
        · exact linked
  | @takeDown _ _ _ _ d =>
      obtain ⟨kept, setup⟩ := lawful_release lawful d
      refine ⟨accounts, kept, fun up => ?_⟩
      obtain ⟨work, atWork, known⟩ := linked up
      exact ⟨work, setup.trans atWork, known⟩
  | @drop _ _ _ _ d =>
      obtain ⟨kept, setup⟩ := lawful_release lawful d
      refine ⟨accounts, kept, fun up => ?_⟩
      obtain ⟨work, atWork, known⟩ := linked up
      exact ⟨work, setup.trans atWork, known⟩
  | start started =>
      -- a hub that is up has a compositor at work, which does not start again
      obtain ⟨idle, -, -⟩ := Compositor.start_eq_ok started
      refine ⟨accounts, Compositor.lawful_start lawful started, fun up => ?_⟩
      obtain ⟨setup, work, -⟩ := linked up
      exact absurd (work.symm.trans idle) (Option.some_ne_none setup)
  | rise started =>
      refine ⟨accounts, Compositor.lawful_start lawful started, fun _ => ?_⟩
      obtain ⟨-, -, rfl⟩ := Compositor.start_eq_ok started
      exact ⟨_, rfl, rfl⟩
  | setMode chosen =>
      refine ⟨accounts, Compositor.lawful_setMode lawful chosen, ?_⟩
      obtain ⟨_, -, -, rfl⟩ := Compositor.setMode_eq_ok chosen
      exact linked
  | stop => exact ⟨accounts, Compositor.lawful_stop _, fun up => nomatch up⟩

end Ledger

namespace Hub

/-- No hardware is driven twice by displays of a sort. -/
structure Exclusive (sort : Display → Bool) (h : Hub) : Prop where
  /-- Displays in two slots are not bound to the same number. -/
  apart : ∀ {i j d e id}, i ≠ j → h.display? i = some d → h.display? j = some e →
    sort d = true → sort e = true → d.id = some id → e.id ≠ some id
  /-- No kind has more displays than the hardware supports. -/
  limits : h.initialized = true → ∃ r, h.core.resource = some r ∧
    ∀ v, (h.live.countP fun d => sort d && decide (d.variant = v)) ≤ r.limit v

variable {h : Hub} {f : Nat}

/-- The displays of a kind whose tokens count are the active ones. -/
theorem countP_current (accounts : Accounted f h.live h.compositor) (v : Variant) :
    (h.live.countP fun d => d.current f && decide (d.variant = v)) = h.compositor.countOf v := by
  unfold Compositor.countOf
  rw [accounts.active.countP_eq, List.countP_filterMap]
  refine List.countP_congr fun d _ => ?_
  unfold Display.current
  cases claims : d.claim f with
  | none => simp
  | some a =>
      have variant := (Display.claim_eq_some_iff.mp claims).2.2.1
      simp [variant]

theorem exclusive_of_wellFormed {n : Nat} (wellFormed : (h.ledger h.live f n).WellFormed) :
    h.Exclusive (Display.current f) where
  apart {i j d e id} differ first second counts also bound same := by
    have accounts : Accounted f h.live h.compositor := wellFormed.accounts
    have matching := matched_of_accounted accounts
    obtain ⟨a, claims⟩ := Option.isSome_iff_exists.mp counts
    obtain ⟨b, rival⟩ := Option.isSome_iff_exists.mp also
    obtain ⟨held, -, -, known⟩ := Display.claim_eq_some_iff.mp claims
    obtain ⟨theirs, -, -, too⟩ := Display.claim_eq_some_iff.mp rival
    -- one entry for both would be one token in two slots
    have other : a ≠ b := by
      rintro rfl
      exact differ (slot_unique accounts.distinct first second held theirs)
    -- the rule on numbers reads the same from either side
    have symm : Std.Symm fun x y : Active => ∀ id, x.id = some id → y.id ≠ some id :=
      ⟨fun _ _ rule id its clash => rule id clash its⟩
    exact wellFormed.lawful.apart.forall (matching.claimed first claims)
      (matching.claimed second rival) other id (known.symm.trans bound) (too.symm.trans same)
  limits up := by
    have accounts : Accounted f h.live h.compositor := wellFormed.accounts
    obtain ⟨setup, work, known⟩ := wellFormed.linked up
    refine ⟨setup.resource, known, fun v => ?_⟩
    rw [countP_current accounts]
    exact wellFormed.lawful.limits setup work v

end Hub

namespace Session

/-- Whatever was done with a hub and its displays, those that got their tokens
    since the hub last went down drive no hardware twice. -/
theorem exclusive_after {s : Session} (fresh : s.hub.Fresh) {steps : List Step}
    (ordinary : ∀ step ∈ steps, step.ordinary = true) :
    (s.after steps).hub.Exclusive (Display.current (s.floorAfter 0 steps)) := by
  have before : (s.ledger 0 0).WellFormed := by
    rw [ledger_of_fresh fresh]
    exact ⟨Accounted.new, Compositor.lawful_new, fun up => nomatch up⟩
  exact Hub.exclusive_of_wellFormed (upholds_after (fun _ => True) Ledger.WellFormed.move
    (fun _ wellFormed => ⟨wellFormed.accounts, wellFormed.lawful, wellFormed.linked⟩) before
    ordinary fun _ _ => trivial)

theorem exclusive_after_rebootstrap : bench.hub.Fresh ∧
    (∀ step ∈ rebootstrap, step.ordinary = true) ∧
    (bench.after rebootstrap).hub.Exclusive (Display.current 1) := by
  have fresh : bench.hub.Fresh := fresh_recording _ _ _ _
  have ordinary : ∀ step ∈ rebootstrap, step.ordinary = true := by decide
  exact ⟨fresh, ordinary, exclusive_after fresh ordinary⟩

/-- The display from before goes on to be initialized, so the same hardware is
    driven by two displays that are. -/
theorem driven_twice_after_rebootstrap : bench.hub.Fresh ∧
    (∀ step ∈ rebootstrap, step.ordinary = true) ∧
    (bench.after rebootstrap).hub.initialized = true ∧
    ¬ (bench.after rebootstrap).hub.Exclusive Display.initialized := by
  refine ⟨fresh_recording _ _ _ _, by decide, rfl, ?_⟩
  intro exclusive
  have differ : (0 : Nat) ≠ 1 := by decide
  exact exclusive.apart differ rfl rfl rfl rfl rfl rfl

end Session

end DisplayHub
