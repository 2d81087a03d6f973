import DisplayHub.Compositor

/-!
# Lawful Dealing

What a compositor keeps to, whatever is demanded of it and in whatever order.

The three rules of `refusal?` are checked when a token is granted and at no
other time. That is enough only because nothing else can break them: a token
taken back makes room, a stop revokes every token at once, and a start finds
nothing active, so a smaller resource description can never meet more displays
than it allows. `Lawful` says all of this of one state, and there is one lemma
for each demand that it outlives.

The rule on mixers counts displays that are not off-screen, which is the same
as counting the two kinds with a panel (`onMixers_eq`). Tokens are numbers
without an upper end here, so a new one is never in use.

## Main definitions

* `Demand`: What can be demanded of a compositor.
* `Compositor.after`: The state after a demand.
* `Compositor.afterAll`: The state after a sequence of demands.
* `Compositor.Lawful`: The rules, said of a state.

## Theorems

* `Compositor.refusal?_eq_none_iff`: When a display is not refused.
* `Compositor.countOf_grant`: One more display counts for its kind alone.
* `Compositor.lawful_start`, `Compositor.lawful_stop`, `Compositor.lawful_setMode`,
  `Compositor.lawful_grant`, `Compositor.lawful_unregister`: No demand breaks
  the rules.
* `Compositor.lawful_afterAll`: Nor does any sequence of them.
-/

namespace DisplayHub

/-- What can be demanded of a compositor. -/
inductive Demand where
  | start (resource : Resource) (extension : Option Extension)
  | stop
  | setMode (mode : BandwidthMode)
  | register (variant : Variant) (id : Option Int32)
  | unregister (token : Nat)

namespace Compositor

/-- The state that an answer leaves. A refusal leaves it as it was. -/
def settle (c : Compositor) : Except Refusal Compositor → Compositor
  | .ok after => after
  | .error _ => c

/-- The state after a demand. -/
def after (c : Compositor) : Demand → Compositor
  | .start resource extension => c.settle (c.start resource extension)
  | .stop => c.stop
  | .setMode mode => c.settle (c.setMode mode)
  | .register variant id => c.settle ((c.register variant id).map (·.2))
  | .unregister token => c.unregister token

/-- The state after a sequence of demands. -/
def afterAll (c : Compositor) (demands : List Demand) : Compositor :=
  demands.foldl after c

/-- The rules by which a compositor deals. -/
structure Lawful (c : Compositor) : Prop where
  /-- Nothing is active outside of work. -/
  idle : c.setup = none → c.active = []
  /-- No kind has more active displays than the hardware supports. -/
  limits : ∀ s, c.setup = some s → ∀ v, c.countOf v ≤ s.resource.limit v
  /-- Every active display with a panel has a mixer. -/
  mixers : ∀ s, c.setup = some s →
    c.countOf .builtIn + c.countOf .pluggable ≤ s.resource.mixers.toNat
  /-- There is a mixer to deal out. -/
  equipped : ∀ s, c.setup = some s → 0 < s.resource.mixers
  /-- The mode that stays within a budget has one. -/
  budget : ∀ s, c.setup = some s → c.mode = .optimal → 0 < s.resource.maxBandwidth
  /-- No number is driven twice, not even by displays of two kinds. -/
  apart : c.active.Pairwise fun a b => ∀ id, a.id = some id → b.id ≠ some id
  /-- Active displays stand in the order of their tokens, so a token names one
      at most. -/
  rising : c.active.Pairwise fun a b => a.token < b.token
  /-- Every active token was granted. -/
  granted : ∀ a ∈ c.active, a.token < c.nextToken

/-! ### Counting -/

/-- What uses a mixer is what has a panel. -/
theorem onMixers_eq (c : Compositor) :
    c.onMixers = c.countOf .builtIn + c.countOf .pluggable := by
  unfold onMixers countOf
  -- one display more adds one on both sides, or on neither
  induction c.active with
  | nil => rfl
  | cons a rest ih =>
      simp only [List.countP_cons, ih]
      cases a.variant with
      | builtIn =>
          simp only [ne_eq, reduceCtorEq, not_false_eq_true, decide_true, decide_false, if_true,
            Bool.false_eq_true, if_false]
          omega
      | pluggable =>
          simp only [ne_eq, reduceCtorEq, not_false_eq_true, decide_true, decide_false, if_true,
            Bool.false_eq_true, if_false]
          omega
      | offscreen =>
          simp only [ne_eq, reduceCtorEq, not_true_eq_false, decide_false, Bool.false_eq_true,
            if_false, Nat.add_zero]

/-- One more display counts for its kind alone. -/
theorem countOf_grant (c : Compositor) (v w : Variant) (id : Option Int32) :
    (c.grant v id).countOf w = c.countOf w + if v = w then 1 else 0 := by
  simp only [countOf, grant, List.countP_append, List.countP_singleton, decide_eq_true_eq]

/-- A display that is driven is one of the active ones. -/
theorem drives_eq_false_iff (c : Compositor) (id : Int32) :
    c.drives id = false ↔ ∀ a ∈ c.active, a.id ≠ some id := by
  simp only [drives, List.any_eq_false, decide_eq_true_eq, ne_eq]

/-- A display is not refused exactly if the compositor is at work, the number
    is not driven yet, and there is room in its kind and on the mixers. -/
theorem refusal?_eq_none_iff {c : Compositor} {v : Variant} {id : Option Int32} :
    c.refusal? v id = none ↔ ∃ s, c.setup = some s ∧
      (∀ i, id = some i → ∀ a ∈ c.active, a.id ≠ some i) ∧
      c.countOf v < s.resource.limit v ∧
      (v ≠ .offscreen → c.onMixers < s.resource.mixers.toNat) := by
  unfold refusal?
  cases c.setup with
  | none => simp only [reduceCtorEq, false_and, exists_false]
  | some s =>
      have free : id.filter c.drives = none ↔
          ∀ i, id = some i → ∀ a ∈ c.active, a.id ≠ some i := by
        simp only [Option.filter_eq_none_iff, Bool.not_eq_true, drives_eq_false_iff]
      cases taken : id.filter c.drives with
      | some i =>
          -- The number is driven, so the condition on it fails as well.
          have driven : ¬ ∀ i, id = some i → ∀ a ∈ c.active, a.id ≠ some i := by
            intro all
            rw [free.mpr all] at taken
            exact Option.some_ne_none i taken.symm
          simp only [reduceCtorEq, Option.some.injEq, exists_eq_left', driven, false_and]
      | none =>
          simp only [Option.some.injEq, exists_eq_left', iff_true_intro (free.mp taken), true_and]
          by_cases full : s.resource.limit v ≤ c.countOf v
          · rw [if_pos full]
            simp only [reduceCtorEq, false_iff]
            omega
          · rw [if_neg full]
            by_cases busy : v ≠ .offscreen ∧ s.resource.mixers.toNat ≤ c.onMixers
            · rw [if_pos busy]
              simp only [reduceCtorEq, false_iff]
              intro room
              have := room.2 busy.1
              omega
            · rw [if_neg busy]
              simp only [true_iff]
              exact ⟨by omega, fun panel => by
                have := not_and.mp busy panel
                omega⟩

/-! ### The demands -/

/-- A new compositor deals lawfully. -/
theorem lawful_new : Lawful {} where
  idle _ := rfl
  limits _ h := nomatch h
  mixers _ h := nomatch h
  equipped _ h := nomatch h
  budget _ h := nomatch h
  apart := List.Pairwise.nil
  rising := List.Pairwise.nil
  granted _ h := nomatch h

/-- What a compositor is once it took up work: nothing is active yet, so any
    description allows for what is. -/
theorem start_eq_ok {c c' : Compositor} {r : Resource} {e : Option Extension}
    (h : c.start r e = .ok c') :
    c.setup = none ∧ 0 < r.mixers ∧ c' = { c with setup := some ⟨r, e⟩, mode := .standard } := by
  unfold start at h
  cases idle : c.setup with
  | some s =>
      rw [idle, if_pos (Option.isSome_some)] at h
      nomatch h
  | none =>
      rw [idle, Option.isSome_none, if_neg Bool.false_ne_true] at h
      by_cases bare : r.mixers = 0
      · rw [if_pos bare] at h
        nomatch h
      · rw [if_neg bare] at h
        exact ⟨rfl, UInt32.pos_iff_ne_zero.mpr bare, (Except.ok.inj h).symm⟩

/-- A mode that was chosen is affordable. -/
theorem setMode_eq_ok {c c' : Compositor} {mode : BandwidthMode} (h : c.setMode mode = .ok c') :
    ∃ s, c.setup = some s ∧ (mode = .optimal → 0 < s.resource.maxBandwidth) ∧
      c' = { c with mode } := by
  unfold setMode at h
  cases work : c.setup with
  | none =>
      rw [work] at h
      nomatch h
  | some s =>
      rw [work] at h
      dsimp only at h
      by_cases broke : mode = .optimal ∧ s.resource.maxBandwidth = 0
      · rw [if_pos broke] at h
        nomatch h
      · rw [if_neg broke] at h
        refine ⟨s, rfl, fun optimal => ?_, (Except.ok.inj h).symm⟩
        exact UInt64.pos_iff_ne_zero.mpr fun zero => broke ⟨optimal, zero⟩

/-- A token is granted only to a display that is not refused. -/
theorem register_eq_ok {c c' : Compositor} {v : Variant} {id : Option Int32} {token : Nat}
    (h : c.register v id = .ok (token, c')) :
    c.refusal? v id = none ∧ token = c.nextToken ∧ c' = c.grant v id := by
  unfold register at h
  cases free : c.refusal? v id with
  | some r =>
      rw [free] at h
      nomatch h
  | none =>
      rw [free] at h
      obtain ⟨rfl, rfl⟩ := Prod.mk.inj (Except.ok.inj h)
      exact ⟨rfl, rfl, rfl⟩

/-- Taking up work keeps the rules. -/
theorem lawful_start {c c' : Compositor} {r : Resource} {e : Option Extension}
    (lawful : c.Lawful) (h : c.start r e = .ok c') : c'.Lawful := by
  obtain ⟨idle, pos, rfl⟩ := start_eq_ok h
  -- the new description may be smaller than the last, but nothing meets it
  have none_active : c.active = [] := lawful.idle idle
  refine ⟨?_, ?_, ?_, ?_, ?_, lawful.apart, lawful.rising, lawful.granted⟩
  · intro resting
    nomatch resting
  · intro s _ v
    simp only [countOf, none_active, List.countP_nil, Nat.zero_le]
  · intro s _
    simp only [countOf, none_active, List.countP_nil, Nat.add_zero, Nat.zero_le]
  · rintro s ⟨⟩
    exact pos
  · intro s _ optimal
    nomatch optimal

/-- Leaving work keeps the rules, since nothing stays active. -/
theorem lawful_stop (c : Compositor) : c.stop.Lawful where
  idle _ := rfl
  limits _ h := nomatch h
  mixers _ h := nomatch h
  equipped _ h := nomatch h
  budget _ h := nomatch h
  apart := List.Pairwise.nil
  rising := List.Pairwise.nil
  granted _ h := nomatch h

/-- Choosing a mode keeps the rules. -/
theorem lawful_setMode {c c' : Compositor} {mode : BandwidthMode} (lawful : c.Lawful)
    (h : c.setMode mode = .ok c') : c'.Lawful := by
  obtain ⟨s, work, affordable, rfl⟩ := setMode_eq_ok h
  refine { lawful with budget := fun t at_work optimal => ?_ }
  have same : s = t := Option.some.inj (work.symm.trans at_work)
  rw [← same]
  exact affordable optimal

/-- Granting a token keeps the rules, if the display was not refused. -/
theorem lawful_grant {c : Compositor} {v : Variant} {id : Option Int32} (lawful : c.Lawful)
    (free : c.refusal? v id = none) : (c.grant v id).Lawful := by
  obtain ⟨s, work, undriven, room, mixer⟩ := refusal?_eq_none_iff.mp free
  refine ⟨?_, ?_, ?_, lawful.equipped, lawful.budget, ?_, ?_, ?_⟩
  · intro idle
    exact absurd (work.symm.trans idle) (Option.some_ne_none s)
  · intro t at_work w
    have kept := lawful.limits t at_work w
    obtain rfl : s = t := Option.some.inj (work.symm.trans at_work)
    rw [countOf_grant]
    by_cases same : v = w
    · rw [if_pos same, ← same]
      omega
    · rw [if_neg same]
      exact kept
  · intro t at_work
    have kept := lawful.mixers t at_work
    obtain rfl : s = t := Option.some.inj (work.symm.trans at_work)
    rw [onMixers_eq] at mixer
    rw [countOf_grant, countOf_grant]
    -- A display with a panel takes one of the mixers, an off-screen one none.
    cases v with
    | builtIn =>
        have := mixer Variant.noConfusion
        simp only [if_true, reduceCtorEq, if_false]
        omega
    | pluggable =>
        have := mixer Variant.noConfusion
        simp only [if_true, reduceCtorEq, if_false]
        omega
    | offscreen =>
        simp only [reduceCtorEq, if_false]
        exact kept
  · refine List.pairwise_append.mpr ⟨lawful.apart, List.pairwise_singleton _ _, ?_⟩
    intro a ha b hb i driven
    obtain rfl := List.mem_singleton.mp hb
    intro same
    exact undriven i same a ha driven
  · refine List.pairwise_append.mpr ⟨lawful.rising, List.pairwise_singleton _ _, ?_⟩
    intro a ha b hb
    obtain rfl := List.mem_singleton.mp hb
    exact lawful.granted a ha
  · intro a ha
    rcases List.mem_append.mp ha with ha | ha
    · exact Nat.lt_succ_of_lt (lawful.granted a ha)
    · obtain rfl := List.mem_singleton.mp ha
      exact Nat.lt_succ_self _

/-- Taking a token back keeps the rules, whatever token it is. -/
theorem lawful_unregister {c : Compositor} (lawful : c.Lawful) (token : Nat) :
    (c.unregister token).Lawful := by
  have fewer : (c.unregister token).active.Sublist c.active := List.filter_sublist
  have count (v : Variant) : (c.unregister token).countOf v ≤ c.countOf v := fewer.countP_le
  refine ⟨?_, ?_, ?_, lawful.equipped, lawful.budget, lawful.apart.sublist fewer,
    lawful.rising.sublist fewer, fun a ha => lawful.granted a (fewer.subset ha)⟩
  · intro idle
    exact List.sublist_nil.mp (lawful.idle idle ▸ fewer)
  · intro s work v
    exact Nat.le_trans (count v) (lawful.limits s work v)
  · intro s work
    exact Nat.le_trans (Nat.add_le_add (count .builtIn) (count .pluggable)) (lawful.mixers s work)

/-! ### Runs -/

/-- An answer keeps the rules if what it gives does. A refusal gives nothing. -/
theorem lawful_settle {c : Compositor} {answer : Except Refusal Compositor} (lawful : c.Lawful)
    (given : ∀ c', answer = .ok c' → c'.Lawful) : (c.settle answer).Lawful := by
  cases answer with
  | error _ => exact lawful
  | ok c' => exact given c' rfl

/-- No demand breaks the rules. -/
theorem lawful_after {c : Compositor} (lawful : c.Lawful) (demand : Demand) :
    (c.after demand).Lawful := by
  cases demand with
  | start r e => exact lawful_settle lawful fun c' h => lawful_start lawful h
  | stop => exact lawful_stop c
  | setMode mode => exact lawful_settle lawful fun c' h => lawful_setMode lawful h
  | register v id =>
      refine lawful_settle lawful fun c' h => ?_
      cases answer : c.register v id with
      | error _ =>
          rw [answer] at h
          nomatch h
      | ok granted =>
          rw [answer] at h
          obtain ⟨free, -, same⟩ := register_eq_ok answer
          have kept : granted.2 = c' := Except.ok.inj h
          rw [← kept, same]
          exact lawful_grant lawful free
  | unregister token => exact lawful_unregister lawful token

/-- A sequence of demands breaks the rules no more than one does. -/
theorem lawful_foldl {c : Compositor} (lawful : c.Lawful) (demands : List Demand) :
    (c.afterAll demands).Lawful := by
  induction demands generalizing c with
  | nil => exact lawful
  | cons demand rest ih => exact ih (lawful_after lawful demand)

/-- A new compositor deals lawfully after any sequence of demands. -/
theorem lawful_afterAll (demands : List Demand) : (afterAll {} demands).Lawful :=
  lawful_foldl lawful_new demands

end Compositor

end DisplayHub
