import DisplayHub.Pool
import Mathlib.Algebra.Ring.Nat
import Mathlib.Data.List.Basic

/-!
# Counting Buffers

What the counts of several allocators say about the buffers that are held.

An allocator counts its buffers and keeps no list of them, and a buffer can be
given back to another one than the one that made it. So a count is not the
number of buffers made there that are still held, and it is not the difference
of what went out and what came back either, since it stops at nothing. The
obvious invariants fail with the first buffer that is given back elsewhere.

What holds is about all the counts at once. Giving a buffer back takes one from
the held buffers and one from the counts, except where the allocator counted
nothing: there the counts stay, and the sum is one too large from then on. The
counts are `Consistent` if their sum exceeds the held buffers by the number of
these strays, and this is kept by every step, whoever made the buffer.

That a count is exact needs that buffers go back to their makers. The maker is
read off the answers of the run (`grants`), since neither the allocator nor the
buffer knows it.

The numbers of an allocator are apart from all this. They go up by one with
each buffer and never otherwise, as long as the run goes on. A request can end
the run, with its number taken and no buffer to show for it, and what is said
here of a run is said of the steps before that (`history`). That there is no
such request takes limits that can be allocated: none above the largest block,
and a system that has the blocks.

## Main definitions

* `Pool.opened`: New allocators.
* `Pool.history`, `Pool.after`: A run on a pool, as far as it goes.
* `Pool.StepOutcome`: What a step can do.
* `Pool.grants`, `Pool.returns`: What went out in a run, and what came back.
* `Pool.strays`: How often an allocator that counted nothing got a buffer back.
* `Pool.Consistent`: The counts, the numbers and the held buffers fit together.
* `Pool.ExactCounts`: Each count is the number of buffers held from there.
* `Pool.LimitsAllocatable`: No request that a limit lets through ends the run.
* `Pool.CountLaws`: All that holds of the counts and numbers after a run.
* `Pool.Answered`: A request is turned down for a good reason with nothing
  changed, or a buffer of the size goes out and is counted.

## Theorems

* `Pool.stepOutcome`: Every step does one of seven things.
* `Pool.Consistent.step`, `Pool.Consistent.after`: The counts stay consistent in
  a step, and in a run.
* `Pool.ExactCounts.step`, `Pool.ExactCounts.after`: So do exact counts, if every
  buffer goes back to its maker.
* `Pool.exists_run`: A run with limits that can be allocated goes to its end.
* `Pool.countLaws_opened`: What the counts and numbers say after any run.
* `Pool.answered_iff`: Which requests are answered as they should be.
-/

namespace DisplayHub

namespace Pool

/-! ### Runs -/

/-- A pool of new allocators with these limits, and a system with these blocks. -/
def opened (serves : Nat → Bool) (limits : List Nat) : Pool :=
  { serves, allocators := limits.map fun limit => { limit } }

/-- A step of a run that was answered, with the pool that it found. -/
structure Turn where
  found : Pool
  step : PoolStep
  outcome : Outcome

/-- The steps that a run answers. There are no more after one that ends it. -/
def history (p : Pool) : List PoolStep → List Turn
  | [] => []
  | step :: rest => match p.step step with
    | .ok (outcome, next) => ⟨p, step, outcome⟩ :: history next rest
    | .error _ => []

/-- The pool after the steps that a run answers. -/
def after (p : Pool) : List PoolStep → Pool
  | [] => p
  | step :: rest => match p.step step with
    | .ok (_, next) => after next rest
    | .error _ => p

/-- The buffer that a step handed out by its answer, with the place of the
    allocator that made it. -/
def Turn.granted (t : Turn) : List (Nat × Buffer) :=
  match t.step, t.outcome with
  | .allocate _ on, ⟨.ok (.buffer _ b), _⟩ => [(on, b)]
  | _, _ => []

/-- Where the buffer that a step gave back was among those handed out, and the
    place of the allocator that it was given to. -/
def Turn.returned (t : Turn) : Option (Nat × Nat) :=
  match t.step, t.outcome with
  | .free place on, ⟨.ok .nothing, _⟩ => some (place, on)
  | _, _ => none

/-- One if a step gives a buffer back where nothing is counted. -/
def Turn.stray (t : Turn) : Nat :=
  match t.returned with
  | some (_, on) => if t.found.outstanding[on]? = some 0 then 1 else 0
  | none => 0

/-- The buffers that were handed out in a run, with their makers. -/
def grants (p : Pool) (steps : List PoolStep) : List (Nat × Buffer) :=
  (p.history steps).flatMap Turn.granted

/-- Where the buffers that came back in a run were among those handed out, with
    the places of the allocators that they were given to. -/
def returns (p : Pool) (steps : List PoolStep) : List (Nat × Nat) :=
  (p.history steps).filterMap Turn.returned

/-- How often in a run a buffer was given back where nothing was counted. -/
def strays (p : Pool) (steps : List PoolStep) : Nat :=
  ((p.history steps).map Turn.stray).sum

/-- How many buffers were not given back. -/
def held (p : Pool) : Nat :=
  p.buffers.countP Option.isSome

/-- The buffers that one allocator made. -/
def madeBy (made : List (Nat × Buffer)) (on : Nat) : List Buffer :=
  (made.filter (·.1 = on)).map (·.2)

/-- How many buffers that one allocator made were not given back. -/
def heldFrom (p : Pool) (made : List (Nat × Buffer)) (on : Nat) : Nat :=
  (made.zip p.buffers).countP fun e => e.1.1 = on && e.2.isSome

section Cons

variable {p q : Pool} {step : PoolStep} {outcome : Outcome} {ending : Ending}

theorem history_of_ok (ran : p.step step = .ok (outcome, q)) (rest : List PoolStep) :
    p.history (step :: rest) = ⟨p, step, outcome⟩ :: q.history rest := by
  rw [history, ran]

theorem history_of_error (ended : p.step step = .error ending) (rest : List PoolStep) :
    p.history (step :: rest) = [] := by
  rw [history, ended]

theorem after_of_ok (ran : p.step step = .ok (outcome, q)) (rest : List PoolStep) :
    p.after (step :: rest) = q.after rest := by
  rw [after, ran]

theorem after_of_error (ended : p.step step = .error ending) (rest : List PoolStep) :
    p.after (step :: rest) = p := by
  rw [after, ended]

theorem grants_of_ok (ran : p.step step = .ok (outcome, q)) (rest : List PoolStep) :
    p.grants (step :: rest) = Turn.granted ⟨p, step, outcome⟩ ++ q.grants rest := by
  rw [grants, history_of_ok ran, List.flatMap_cons, grants]

theorem returns_of_ok (ran : p.step step = .ok (outcome, q)) (rest : List PoolStep) :
    p.returns (step :: rest) = (Turn.returned ⟨p, step, outcome⟩).toList ++ q.returns rest := by
  rw [returns, history_of_ok ran]
  rcases back : Turn.returned ⟨p, step, outcome⟩ with _ | r
  · rw [List.filterMap_cons_none back]
    rfl
  · rw [List.filterMap_cons_some back]
    rfl

theorem strays_of_ok (ran : p.step step = .ok (outcome, q)) (rest : List PoolStep) :
    p.strays (step :: rest) = Turn.stray ⟨p, step, outcome⟩ + q.strays rest := by
  rw [strays, history_of_ok ran, List.map_cons, List.sum_cons, strays]

/-- A step that ends the run leaves no answers, whatever comes after it. -/
theorem run_of_error (ended : p.step step = .error ending) (rest : List PoolStep) :
    p.run (step :: rest) = .error ending := by
  rw [run, ended]
  rfl

end Cons

/-! ### What a step does -/

/-- What a step can do: what it answers and the pool that it leaves, or how it
    ends the run. -/
inductive StepOutcome (p : Pool) : PoolStep → Except Ending (Outcome × Pool) → Prop where
  | nobody (size on : Nat) (absent : p.allocators[on]? = none) :
      StepOutcome p (.allocate size on) (.ok (.trouble .noBuffer, p))
  | refused (size on : Nat) (a : Allocator) (found : p.allocators[on]? = some a) (f : Failure)
      (cause : size = 0 ∧ f = .parameters ∨ 0 < size ∧ a.limit < size ∧ f = .memory)
      (notes : List Note) :
      StepOutcome p (.allocate size on)
        (.ok (.trouble (.stop (.failure f)), ⟨p.serves, p.allocators, p.buffers, notes⟩))
  | collapsed (size on : Nat) (a : Allocator) (found : p.allocators[on]? = some a)
      (large : Allocator.largestBlock < size) (allowed : size ≤ a.limit) (notes : List Note) :
      StepOutcome p (.allocate size on)
        (.error (.collapsed ⟨p.serves, p.allocators.set on a.issue, p.buffers, notes⟩))
  | aborted (size on : Nat) (a : Allocator) (found : p.allocators[on]? = some a)
      (positive : 0 < size) (allowed : size ≤ a.limit) (fits : size ≤ Allocator.largestBlock)
      (unserved : p.serves size = false) : StepOutcome p (.allocate size on) (.error .aborted)
  | granted (size on : Nat) (a : Allocator) (found : p.allocators[on]? = some a)
      (positive : 0 < size) (allowed : size ≤ a.limit) (fits : size ≤ Allocator.largestBlock)
      (served : p.serves size = true) (notes : List Note) :
      StepOutcome p (.allocate size on)
        (.ok (.value (.buffer p.buffers.length ⟨a.nextId, size⟩), ⟨p.serves,
          p.allocators.set on a.issue, p.buffers ++ [some ⟨a.nextId, size⟩], notes⟩))
  | missing (place on : Nat) (absent : p.buffers[place]?.join = none ∨ p.allocators[on]? = none) :
      StepOutcome p (.free place on) (.ok (.trouble .noBuffer, p))
  | freed (place on : Nat) (b : Buffer) (present : p.buffers[place]? = some (some b))
      (a : Allocator) (found : p.allocators[on]? = some a) (notes : List Note) :
      StepOutcome p (.free place on) (.ok (.done,
        ⟨p.serves, p.allocators.set on a.free, p.buffers.set place none, notes⟩))

/-- No step does anything else. -/
theorem stepOutcome (p : Pool) (step : PoolStep) : p.StepOutcome step (p.step step) := by
  cases step with
  | allocate size on =>
    rcases found : p.allocators[on]? with _ | a
    · simpa only [Pool.step, found] using .nobody size on found
    -- a refusal puts the allocator back as it was
    have kept : p.allocators.set on a = p.allocators := by
      obtain ⟨inside, rfl⟩ := List.getElem?_eq_some_iff.mp found
      exact List.set_getElem_self inside
    -- the ways to end, in the order in which they are looked for
    by_cases empty : size = 0
    · have ending : a.allocate size (p.serves size) = .refused .parameters := by
        rw [Allocator.allocate, Allocator.refusal?, if_pos empty]
      simpa only [Pool.step, found, ending, update, kept] using
        StepOutcome.refused size on a found .parameters (.inl ⟨empty, rfl⟩) _
    have positive := Nat.pos_of_ne_zero empty
    by_cases above : a.limit < size
    · have ending : a.allocate size (p.serves size) = .refused .memory := by
        rw [Allocator.allocate, Allocator.refusal?, if_neg empty, if_pos above]
      simpa only [Pool.step, found, ending, update, kept] using
        StepOutcome.refused size on a found .memory (.inr ⟨positive, above, rfl⟩) _
    have allowed := Nat.le_of_not_lt above
    have passed : a.refusal? size = none := by
      rw [Allocator.refusal?, if_neg empty, if_neg above]
    by_cases large : Allocator.largestBlock < size
    · have ending : a.allocate size (p.serves size) = .collapsed a.issue := by
        simp only [Allocator.allocate, passed, if_pos large]
      simpa only [Pool.step, found, ending, update] using
        StepOutcome.collapsed size on a found large allowed _
    have fits := Nat.le_of_not_lt large
    cases served : p.serves size with
    | false =>
      have ending : a.allocate size (p.serves size) = .aborted := by
        simp only [Allocator.allocate, passed, if_neg large, served, Bool.false_eq_true, if_false]
      simpa only [Pool.step, found, ending] using
        StepOutcome.aborted size on a found positive allowed fits served
    | true =>
      have ending : a.allocate size (p.serves size) = .granted ⟨a.nextId, size⟩ a.issue := by
        simp only [Allocator.allocate, passed, if_neg large, served, if_true]
      simpa only [Pool.step, found, ending, update] using
        StepOutcome.granted size on a found positive allowed fits served _
  | free place on =>
    rcases present : p.buffers[place]?.join with _ | b
    · simpa only [Pool.step, present] using StepOutcome.missing place on (.inl present)
    rcases found : p.allocators[on]? with _ | a
    · simpa only [Pool.step, present, found] using StepOutcome.missing place on (.inr found)
    simpa only [Pool.step, present, found, update] using
      StepOutcome.freed place on b (Option.join_eq_some_iff.mp present) a found _

/-- What a step does that is answered. -/
theorem stepOutcome_of_ok {p q : Pool} {step : PoolStep} {outcome : Outcome}
    (ran : p.step step = .ok (outcome, q)) : p.StepOutcome step (.ok (outcome, q)) :=
  ran ▸ p.stepOutcome step

/-! ### Lists of counts -/

/-- Changing one member changes a sum by as much. -/
theorem sum_map_set {α : Type} (f : α → Nat) {l : List α} {i : Nat} {a : α} (b : α)
    (found : l[i]? = some a) : ((l.set i b).map f).sum + f a = (l.map f).sum + f b := by
  induction l generalizing i with
  | nil => cases found
  | cons x l ih =>
    cases i with
    | zero =>
      obtain rfl : x = a := Option.some.inj found
      simp only [List.set_cons_zero, List.map_cons, List.sum_cons]
      omega
    | succ i =>
      have rest := ih found
      simp only [List.set_cons_succ, List.map_cons, List.sum_cons]
      omega

/-- Changing one member changes how many have a property by as much. -/
theorem countP_set_add {α : Type} (q : α → Bool) {l : List α} {i : Nat} {a : α} (b : α)
    (found : l[i]? = some a) :
    (l.set i b).countP q + (if q a then 1 else 0) = l.countP q + (if q b then 1 else 0) := by
  obtain ⟨inside, rfl⟩ := List.getElem?_eq_some_iff.mp found
  rw [List.countP_set inside]
  -- the number that is taken away was counted
  have counted : (if q l[i] then 1 else 0) ≤ l.countP q := by
    split
    · next has => exact List.countP_pos_iff.mpr ⟨_, List.getElem_mem inside, has⟩
    · exact Nat.zero_le _
  omega

/-- Changing a member of the second list changes the pair at its place. -/
theorem zip_set_right {α β : Type} {l : List α} {m : List β} {i : Nat} {a : α} (b : β)
    (found : l[i]? = some a) : l.zip (m.set i b) = (l.zip m).set i (a, b) := by
  induction l generalizing m i with
  | nil => cases found
  | cons x l ih =>
    cases m with
    | nil => rfl
    | cons y m =>
      cases i with
      | zero =>
        obtain rfl : x = a := Option.some.inj found
        rfl
      | succ i =>
        simp only [List.set_cons_succ, List.zip_cons_cons, ih (m := m) found]

/-- One allocator changed changes the sum of the counts by as much. -/
theorem sum_outstanding_set {l : List Allocator} {on : Nat} {a : Allocator} (b : Allocator)
    (found : l[on]? = some a) :
    ((l.set on b).map (·.outstanding)).sum + a.outstanding
      = (l.map (·.outstanding)).sum + b.outstanding :=
  sum_map_set (·.outstanding) b found

theorem madeBy_concat (made : List (Nat × Buffer)) (on i : Nat) (b : Buffer) :
    madeBy (made ++ [(on, b)]) i = madeBy made i ++ if on = i then [b] else [] := by
  by_cases same : on = i
  · simp only [madeBy, List.filter_append, List.map_append, same, if_true, List.filter_cons,
      decide_true, List.filter_nil, List.map_cons, List.map_nil]
  · simp only [madeBy, List.filter_append, List.map_append, same, if_false, List.filter_cons,
      decide_false, List.filter_nil, List.map_nil, Bool.false_eq_true]

/-- An allocator after one was changed is the changed one or an old one. -/
theorem getElem?_set_cases {l : List Allocator} {on i : Nat} {b c : Allocator}
    (found : (l.set on b)[i]? = some c) : (on = i ∧ c = b) ∨ (on ≠ i ∧ l[i]? = some c) := by
  rw [List.getElem?_set] at found
  split at found
  · rename_i same
    split at found
    · exact .inl ⟨same, (Option.some.inj found).symm⟩
    · cases found
  · rename_i other
    exact .inr ⟨other, found⟩

/-- A buffer added at the end makes no place empty. -/
theorem vacant_concat (l : List (Option Buffer)) (b : Buffer) (i : Nat) :
    (l ++ [some b])[i]? = some none ↔ l[i]? = some none := by
  rcases Nat.lt_trichotomy i l.length with inside | rfl | beyond
  · rw [List.getElem?_append_left inside]
  · simp
  · rw [List.getElem?_eq_none (by simp; omega), List.getElem?_eq_none (Nat.le_of_lt beyond)]

/-! ### Consistent counts -/

/-- The numbers, the counts and the held buffers fit together, where `made` was
    handed out and `back` came back, with so many strays. -/
structure Consistent (p : Pool) (made : List (Nat × Buffer)) (back : List (Nat × Nat))
    (strays : Nat) : Prop where
  /-- Every buffer has its place. -/
  placed : p.buffers.length = made.length
  /-- What is held at a place is what was handed out there. -/
  same : ∀ (place : Nat) (b : Buffer), p.buffers[place]? = some (some b) →
    ∃ on, made[place]? = some (on, b)
  /-- A place is empty once the buffer that was handed out there came back. -/
  gone : ∀ place : Nat, p.buffers[place]? = some none ↔ place ∈ back.map (·.1)
  /-- No buffer came back twice. -/
  once : (back.map (·.1)).Nodup
  /-- What did not come back is held. -/
  live : p.held + back.length = made.length
  /-- The numbers of an allocator count from one. -/
  numbered : ∀ on, (madeBy made on).map (·.id) = List.range' 1 (madeBy made on).length
  /-- The next number continues them. -/
  next : ∀ (on : Nat) (a : Allocator), p.allocators[on]? = some a →
    a.nextId = (madeBy made on).length + 1
  /-- No count exceeds what was made. -/
  within : ∀ (on : Nat) (a : Allocator), p.allocators[on]? = some a →
    a.outstanding ≤ (madeBy made on).length
  /-- The sum exceeds the held buffers by the strays. -/
  total : p.outstanding.sum = p.held + strays

namespace Consistent

variable {p : Pool} {made : List (Nat × Buffer)} {back : List (Nat × Nat)} {n : Nat}

/-- What is noted does not matter. -/
theorem renote (t : p.Consistent made back n) (notes : List Note) :
    Consistent ⟨p.serves, p.allocators, p.buffers, notes⟩ made back n :=
  { t with }

/-- A buffer that goes out has the next number, and is counted and held. -/
theorem granted (t : p.Consistent made back n) {on : Nat} {a : Allocator} (size : Nat)
    (found : p.allocators[on]? = some a) (notes : List Note) :
    Consistent ⟨p.serves, p.allocators.set on a.issue, p.buffers ++ [some ⟨a.nextId, size⟩], notes⟩
      (made ++ [(on, ⟨a.nextId, size⟩)]) back n where
  placed := by simp only [List.length_append, t.placed, List.length_singleton]
  same place b present := by
    -- a place that was there before holds what it held, and the new one is the last
    rcases Nat.lt_or_ge place p.buffers.length with inside | beyond
    · rw [List.getElem?_append_left inside] at present
      obtain ⟨maker, there⟩ := t.same place b present
      exact ⟨maker, by rw [List.getElem?_append_left (t.placed ▸ inside), there]⟩
    · rw [List.getElem?_append_right beyond] at present
      refine ⟨on, ?_⟩
      rw [List.getElem?_append_right (t.placed ▸ beyond), ← t.placed]
      rcases ending : place - p.buffers.length with _ | k
      · rw [ending] at present
        obtain rfl : (⟨a.nextId, size⟩ : Buffer) = b := Option.some.inj (Option.some.inj present)
        rfl
      · rw [ending] at present
        cases present
  gone place := (vacant_concat _ _ place).trans (t.gone place)
  once := t.once
  live := by
    have live : p.buffers.countP Option.isSome + back.length = made.length := t.live
    simp only [held, List.countP_append, List.countP_singleton, Option.isSome_some, if_true,
      List.length_append, List.length_singleton]
    omega
  numbered i := by
    -- the new number continues those of its maker, and the others have none more
    rw [madeBy_concat]
    split
    · next here =>
      subst here
      rw [List.map_append, t.numbered, List.length_append, List.length_singleton,
        List.range'_1_concat, List.map_singleton, t.next on a found, Nat.add_comm]
    · rw [List.append_nil, t.numbered]
  next i c there := by
    rw [madeBy_concat, List.length_append]
    rcases getElem?_set_cases there with ⟨rfl, rfl⟩ | ⟨other, old⟩
    · rw [if_pos rfl, List.length_singleton, ← t.next on a found]
      rfl
    · rw [if_neg other, List.length_nil, t.next i c old]
  within i c there := by
    rw [madeBy_concat, List.length_append]
    rcases getElem?_set_cases there with ⟨rfl, rfl⟩ | ⟨other, old⟩
    · rw [if_pos rfl, List.length_singleton]
      exact Nat.succ_le_succ (t.within on a found)
    · exact Nat.le_trans (t.within i c old) (Nat.le_add_right _ _)
  total := by
    -- both sides of the balance go up by one
    have counts := sum_outstanding_set a.issue found
    have total : (p.allocators.map (·.outstanding)).sum = p.buffers.countP Option.isSome + n :=
      t.total
    simp only [outstanding, held, List.countP_append, List.countP_singleton, Option.isSome_some,
      if_true]
    simp only [Allocator.issue] at counts ⊢
    omega

/-- A buffer that comes back is not held any more. It is taken from a count, or
    it is a stray. -/
theorem freed (t : p.Consistent made back n) {place on : Nat} {a : Allocator} {b : Buffer}
    (present : p.buffers[place]? = some (some b)) (found : p.allocators[on]? = some a)
    (notes : List Note) :
    Consistent ⟨p.serves, p.allocators.set on a.free, p.buffers.set place none, notes⟩ made
      (back ++ [(place, on)]) (n + if p.outstanding[on]? = some 0 then 1 else 0) where
  placed := by rw [List.length_set, t.placed]
  same i c there := by
    rw [List.getElem?_set] at there
    split at there
    · split at there <;> cases there
    · exact t.same i c there
  gone i := by
    have inside : place < p.buffers.length := (List.getElem?_eq_some_iff.mp present).1
    rw [List.map_append, List.mem_append, ← t.gone i, List.getElem?_set]
    by_cases here : place = i
    · simp [here, here ▸ inside]
    · simp [here, Ne.symm here]
  once := by
    have fresh : place ∉ back.map (·.1) := fun before => by
      have empty := (t.gone place).mpr before
      rw [present] at empty
      cases empty
    rw [List.map_append, List.map_singleton]
    refine List.nodup_append.mpr
      ⟨t.once, List.nodup_cons.mpr ⟨List.not_mem_nil, List.nodup_nil⟩, ?_⟩
    rintro i before j here rfl
    obtain rfl := List.mem_singleton.mp here
    exact fresh before
  live := by
    have fewer := countP_set_add Option.isSome none present
    have live : p.buffers.countP Option.isSome + back.length = made.length := t.live
    simp only [Option.isSome_some, Option.isSome_none, if_true, Bool.false_eq_true, if_false]
      at fewer
    simp only [held, List.length_append, List.length_singleton]
    omega
  numbered := t.numbered
  next i c there := by
    rcases getElem?_set_cases there with ⟨rfl, rfl⟩ | ⟨-, old⟩
    · exact t.next on a found
    · exact t.next i c old
  within i c there := by
    rcases getElem?_set_cases there with ⟨rfl, rfl⟩ | ⟨-, old⟩
    · exact Nat.le_trans (Nat.sub_le _ _) (t.within on a found)
    · exact t.within i c old
  total := by
    have counts := sum_outstanding_set a.free found
    have fewer : (p.buffers.set place none).countP Option.isSome + 1 = p.held :=
      countP_set_add Option.isSome none present
    have total : (p.allocators.map (·.outstanding)).sum = p.held + n := t.total
    have before : p.outstanding[on]? = some a.outstanding := by
      rw [outstanding, List.getElem?_map, found, Option.map_some]
    simp only [before, Option.some.injEq]
    change ((p.allocators.set on a.free).map (·.outstanding)).sum
      = (p.buffers.set place none).countP Option.isSome + _
    rw [Allocator.free_outstanding] at counts
    -- where nothing is counted, the sum stays and one buffer less is held
    split <;> omega

/-- Every step that is answered keeps the counts consistent. -/
theorem step (t : p.Consistent made back n) {s : PoolStep} {o : Outcome} {q : Pool}
    (ran : p.step s = .ok (o, q)) :
    q.Consistent (made ++ Turn.granted ⟨p, s, o⟩) (back ++ (Turn.returned ⟨p, s, o⟩).toList)
      (n + Turn.stray ⟨p, s, o⟩) := by
  cases stepOutcome_of_ok ran with
  | nobody size on absent =>
    simpa only [Turn.granted, Turn.returned, Turn.stray, Outcome.trouble, Option.toList,
      List.append_nil, Nat.add_zero] using t
  | refused size on a found f cause notes =>
    simpa only [Turn.granted, Turn.returned, Turn.stray, Outcome.trouble, Option.toList,
      List.append_nil, Nat.add_zero] using t.renote notes
  | granted size on a found positive allowed fits served notes =>
    simpa only [Turn.granted, Turn.returned, Turn.stray, Outcome.value, Option.toList,
      List.append_nil, Nat.add_zero] using t.granted size found notes
  | missing place on absent =>
    simpa only [Turn.granted, Turn.returned, Turn.stray, Outcome.trouble, Option.toList,
      List.append_nil, Nat.add_zero] using t
  | freed place on b present a found notes =>
    simpa only [Turn.granted, Turn.returned, Turn.stray, Outcome.done, Option.toList,
      List.append_nil] using t.freed present found notes

/-- So does a run, as far as it goes. -/
theorem after (t : p.Consistent made back n) (steps : List PoolStep) :
    (p.after steps).Consistent (made ++ p.grants steps) (back ++ p.returns steps)
      (n + p.strays steps) := by
  induction steps generalizing p made back n with
  | nil => simpa only [Pool.after, grants, returns, strays, history, List.flatMap_nil,
      List.filterMap_nil, List.map_nil, List.sum_nil, List.append_nil, Nat.add_zero] using t
  | cons s steps ih =>
    rcases ran : p.step s with ending | ⟨o, q⟩
    · simpa only [after_of_error ran, grants, returns, strays, history_of_error ran,
        List.flatMap_nil, List.filterMap_nil, List.map_nil, List.sum_nil, List.append_nil,
        Nat.add_zero] using t
    · simpa only [after_of_ok ran, grants_of_ok ran, returns_of_ok ran, strays_of_ok ran,
        List.append_assoc, Nat.add_assoc] using ih (t.step ran)

end Consistent

/-- New allocators count nothing, and nothing is held. -/
theorem consistent_opened (serves : Nat → Bool) (limits : List Nat) :
    (opened serves limits).Consistent [] [] 0 where
  placed := rfl
  same place b present := by cases present
  gone place := ⟨fun empty => (by cases empty), fun back => (by cases back)⟩
  once := List.nodup_nil
  live := rfl
  numbered on := rfl
  next on a found := by
    obtain ⟨l, -, rfl⟩ := List.mem_map.mp (List.mem_of_getElem? found)
    rfl
  within on a found := by
    obtain ⟨l, -, rfl⟩ := List.mem_map.mp (List.mem_of_getElem? found)
    exact Nat.zero_le _
  total := by
    change ((limits.map _).map _).sum = 0
    rw [List.map_map]
    exact List.sum_eq_zero_iff_forall_eq_nat.mpr fun k member => by
      obtain ⟨l, -, rfl⟩ := List.mem_map.mp member
      rfl

/-! ### Exact counts -/

/-- Each count is the number of buffers that the allocator made and that are
    held. -/
def ExactCounts (p : Pool) (made : List (Nat × Buffer)) : Prop :=
  ∀ (on : Nat) (a : Allocator), p.allocators[on]? = some a → a.outstanding = p.heldFrom made on

namespace ExactCounts

variable {p : Pool} {made : List (Nat × Buffer)} {back : List (Nat × Nat)} {n : Nat}

/-- A buffer that goes out is one more from its maker. -/
theorem granted (exact_counts : p.ExactCounts made) (placed : p.buffers.length = made.length)
    {on : Nat} {a : Allocator} (b : Buffer) (found : p.allocators[on]? = some a)
    (notes : List Note) :
    ExactCounts ⟨p.serves, p.allocators.set on a.issue, p.buffers ++ [some b], notes⟩
    (made ++ [(on, b)]) := by
  intro i c there
  have more : heldFrom ⟨p.serves, p.allocators.set on a.issue, p.buffers ++ [some b], notes⟩
      (made ++ [(on, b)]) i = p.heldFrom made i + if on = i then 1 else 0 := by
    simp only [heldFrom, List.zip_append placed.symm, List.zip_cons_cons, List.zip_nil_left,
      List.countP_append, List.countP_singleton, Option.isSome_some, Bool.and_true,
      decide_eq_true_eq]
  rw [more]
  rcases getElem?_set_cases there with ⟨rfl, rfl⟩ | ⟨other, old⟩
  · rw [if_pos rfl, ← exact_counts on a found]
    rfl
  · rw [if_neg other, exact_counts i c old]
    rfl

/-- A buffer that goes back to its maker is one less from there. -/
theorem freed (exact_counts : p.ExactCounts made) {place on : Nat} {a : Allocator} {b : Buffer}
    (present : p.buffers[place]? = some (some b)) (found : p.allocators[on]? = some a)
    (home : (made[place]?).map (·.1) = some on) (notes : List Note) :
    ExactCounts ⟨p.serves, p.allocators.set on a.free, p.buffers.set place none, notes⟩ made := by
  intro i c there
  obtain ⟨⟨maker, b'⟩, entry, rfl⟩ := Option.map_eq_some_iff.mp home
  -- at one place of the pairs a held buffer becomes a returned one
  have pair : (made.zip p.buffers)[place]? = some ((maker, b'), some b) :=
    List.getElem?_zip_eq_some.mpr ⟨entry, present⟩
  have changed : heldFrom
    ⟨p.serves, p.allocators.set maker a.free, p.buffers.set place none, notes⟩ made i
      = ((made.zip p.buffers).set place ((maker, b'), none)).countP
          fun e => e.1.1 = i && e.2.isSome := by
    rw [heldFrom, zip_set_right none entry]
  have fewer := countP_set_add (fun e => e.1.1 = i && e.2.isSome) ((maker, b'), none) pair
  simp only [Option.isSome_some, Option.isSome_none, Bool.and_true, Bool.and_false,
    decide_eq_true_eq, Bool.false_eq_true, if_false, Nat.add_zero] at fewer
  rw [changed]
  rcases getElem?_set_cases there with ⟨rfl, rfl⟩ | ⟨other, old⟩
  · rw [if_pos rfl] at fewer
    rw [Allocator.free_outstanding, exact_counts maker a found, heldFrom, ← fewer,
      Nat.add_sub_cancel]
  · rw [if_neg other, Nat.add_zero] at fewer
    rw [exact_counts i c old, heldFrom, fewer]

/-- A step keeps exact counts, if the buffer that it gives back goes to its
    maker. -/
theorem step (exact_counts : p.ExactCounts made) (t : p.Consistent made back n) {s : PoolStep}
    {o : Outcome} {q : Pool} (ran : p.step s = .ok (o, q))
    (home : ∀ place on, Turn.returned ⟨p, s, o⟩ = some (place, on) →
      ∀ e, made[place]? = some e → e.1 = on) :
    q.ExactCounts (made ++ Turn.granted ⟨p, s, o⟩) := by
  cases stepOutcome_of_ok ran with
  | nobody size on absent =>
    simpa only [Turn.granted, Outcome.trouble, List.append_nil] using exact_counts
  | refused size on a found f cause notes =>
    simp only [Turn.granted, Outcome.trouble, List.append_nil]
    exact exact_counts
  | granted size on a found positive allowed fits served notes =>
    exact exact_counts.granted t.placed _ found notes
  | missing place on absent =>
    simpa only [Turn.granted, List.append_nil] using exact_counts
  | freed place on b present a found notes =>
    obtain ⟨maker, entry⟩ := t.same place b present
    obtain rfl : maker = on := home place on rfl _ entry
    simpa only [Turn.granted, List.append_nil] using
      exact_counts.freed present found (by rw [entry]; rfl) notes

/-- So does a run in which every buffer goes back to its maker. -/
theorem after (exact_counts : p.ExactCounts made) (t : p.Consistent made back n)
    (steps : List PoolStep) (home : ∀ r ∈ p.returns steps,
      ∀ e, (made ++ p.grants steps)[r.1]? = some e → e.1 = r.2) :
    (p.after steps).ExactCounts (made ++ p.grants steps) := by
  induction steps generalizing p made back n with
  | nil => simpa only [Pool.after, grants, history, List.flatMap_nil, List.append_nil] using
      exact_counts
  | cons s steps ih =>
    rcases ran : p.step s with ending | ⟨o, q⟩
    · simpa only [after_of_error ran, grants, history_of_error ran, List.flatMap_nil,
        List.append_nil] using exact_counts
    rw [returns_of_ok ran, grants_of_ok ran] at home
    have here := exact_counts.step t ran fun place on back e entry => by
      -- what was made by then is the beginning of what is made in all
      have inside := (List.getElem?_eq_some_iff.mp entry).1
      refine home (place, on) (List.mem_append_left _ (by rw [back]; exact .head _)) e ?_
      rw [List.getElem?_append_left inside, entry]
    rw [after_of_ok ran, grants_of_ok ran, ← List.append_assoc]
    refine ih here (t.step ran) fun r later e entry => ?_
    rw [List.append_assoc] at entry
    exact home r (List.mem_append_right _ later) e entry

end ExactCounts

/-- New allocators count what is held from them, which is nothing. -/
theorem exactCounts_opened (serves : Nat → Bool) (limits : List Nat) :
    (opened serves limits).ExactCounts [] := by
  intro on a found
  obtain ⟨l, -, rfl⟩ := List.mem_map.mp (List.mem_of_getElem? found)
  rfl

/-! ### Limits that can be allocated -/

/-- Every size up to a limit can be allocated: no block is too large, and the
    system has one. -/
def Allocatable (serves : Nat → Bool) (limit : Nat) : Prop :=
  limit ≤ Allocator.largestBlock ∧ ∀ size, 0 < size → size ≤ limit → serves size = true

/-- Whatever the limits let through can be allocated. -/
def LimitsAllocatable (p : Pool) : Prop :=
  ∀ a ∈ p.allocators, Allocatable p.serves a.limit

theorem limitsAllocatable_opened {serves : Nat → Bool} {limits : List Nat}
    (small : ∀ l ∈ limits, Allocatable serves l) : (opened serves limits).LimitsAllocatable := by
  intro a member
  obtain ⟨l, listed, rfl⟩ := List.mem_map.mp member
  exact small l listed

namespace LimitsAllocatable

variable {p q : Pool}

/-- Then no step ends the run. -/
theorem exists_step (small : p.LimitsAllocatable) (s : PoolStep) :
    ∃ o q, p.step s = .ok (o, q) := by
  have stepOutcome := p.stepOutcome s
  generalize p.step s = answer at stepOutcome ⊢
  cases stepOutcome with
  | collapsed size on a found large allowed notes =>
    have := (small a (List.mem_of_getElem? found)).1
    omega
  | aborted size on a found positive allowed fits unserved =>
    have served := (small a (List.mem_of_getElem? found)).2 size positive allowed
    exact absurd (served.symm.trans unserved) nofun
  | _ => exact ⟨_, _, rfl⟩

/-- No step changes a limit. -/
theorem step (small : p.LimitsAllocatable) {s : PoolStep} {o : Outcome}
    (ran : p.step s = .ok (o, q)) : q.LimitsAllocatable := by
  have changed {on : Nat} {a b : Allocator} (found : p.allocators[on]? = some a)
      (same : b.limit = a.limit) :
      ∀ c ∈ p.allocators.set on b, Allocatable p.serves c.limit := fun c member => by
    rcases List.mem_or_eq_of_mem_set member with old | rfl
    · exact small c old
    · exact same ▸ small a (List.mem_of_getElem? found)
  cases stepOutcome_of_ok ran with
  | nobody => exact small
  | refused => exact small
  | granted size on a found => exact changed found rfl
  | missing => exact small
  | freed place on b present a found => exact changed found rfl

end LimitsAllocatable

/-- A run goes to its end if whatever the limits let through can be
    allocated. -/
theorem exists_run {p : Pool} (small : p.LimitsAllocatable) (steps : List PoolStep) :
    ∃ answers, p.run steps = .ok (answers, p.after steps) ∧
      answers.map (·.1) = (p.history steps).map (·.outcome) := by
  induction steps generalizing p with
  | nil => exact ⟨[], rfl, rfl⟩
  | cons s steps ih =>
    obtain ⟨o, q, ran⟩ := small.exists_step s
    obtain ⟨answers, later, same⟩ := ih (small.step ran)
    refine ⟨(o, q.outstanding) :: answers, ?_, ?_⟩
    · rw [after_of_ok ran, run, ran]
      change (q.run steps >>= fun r => _ : Except Ending _) = _
      rw [later]
      rfl
    · rw [history_of_ok ran, List.map_cons, List.map_cons, same]

/-! ### After any run -/

/-- A run has no strays exactly if no buffer was given back where nothing was
    counted. -/
theorem strays_eq_zero_iff (p : Pool) (steps : List PoolStep) :
    p.strays steps = 0 ↔ ∀ t ∈ p.history steps, ∀ place on, t.returned = some (place, on) →
      t.found.outstanding[on]? ≠ some 0 := by
  rw [strays, List.sum_eq_zero_iff_forall_eq_nat, List.forall_mem_map]
  refine forall₂_congr fun t _ => ?_
  rw [Turn.stray]
  rcases t.returned with _ | ⟨place, on⟩
  · exact ⟨fun _ _ _ back => absurd back nofun, fun _ => rfl⟩
  · simp

/-- A step hands out one buffer at most. -/
theorem length_grants_le (p : Pool) (steps : List PoolStep) :
    (p.grants steps).length ≤ steps.length := by
  induction steps generalizing p with
  | nil => exact Nat.le_refl 0
  | cons s steps ih =>
    rcases ran : p.step s with ending | ⟨o, q⟩
    · rw [grants, history_of_error ran]
      exact Nat.zero_le _
    have one : (Turn.granted ⟨p, s, o⟩).length ≤ 1 := by
      unfold Turn.granted
      split <;> simp
    have rest := ih q
    rw [grants_of_ok ran, List.length_append, List.length_cons]
    omega

/-- What the counts and the numbers say after a run, and what the next step
    does to them. -/
structure CountLaws (p : Pool) (steps : List PoolStep) : Prop where
  /-- The run goes to its end, and every step of it is answered. -/
  completes : ∃ answers, p.run steps = .ok (answers, p.after steps) ∧
    answers.map (·.1) = (p.history steps).map (·.outcome)
  /-- The buffers are held where they were handed out. -/
  same : ∀ (place : Nat) (b : Buffer), (p.after steps).buffers[place]? = some (some b) →
    ∃ on, (p.grants steps)[place]? = some (on, b)
  /-- No buffer came back twice. -/
  once : ((p.returns steps).map (·.1)).Nodup
  /-- Those that did not come back are held. -/
  live : (p.after steps).held + (p.returns steps).length = (p.grants steps).length
  /-- The numbers of an allocator are consecutive from one. -/
  numbered : ∀ on, (madeBy (p.grants steps) on).map (·.id)
    = List.range' 1 (madeBy (p.grants steps) on).length
  /-- Another request is answered, and one that is not met leaves all allocators as
      they were. -/
  unmoved : ∀ size on, ∃ o q, (p.after steps).step (.allocate size on) = .ok (o, q) ∧
    ∀ t, o = .trouble t → t ≠ .stop .collapse ∧ q.allocators = (p.after steps).allocators
  /-- Giving a buffer back takes one from a count, or leaves it at nothing. -/
  lowered : ∀ place on q, (p.after steps).step (.free place on) = .ok (.done, q) →
    ∃ k, q.outstanding[on]? = some k ∧
      ((p.after steps).outstanding[on]? = some (k + 1) ∨
        k = 0 ∧ (p.after steps).outstanding[on]? = some 0)
  /-- No count exceeds the buffers made there, and no counter outruns the
      steps. -/
  within : ∀ (on : Nat) (a : Allocator), (p.after steps).allocators[on]? = some a →
    a.outstanding ≤ (madeBy (p.grants steps) on).length ∧
      a.outstanding ≤ steps.length ∧ a.nextId ≤ steps.length + 1
  /-- The counts cover the held buffers, and exceed them by the strays. -/
  total : (p.after steps).outstanding.sum = (p.after steps).held + p.strays steps
  /-- They are the held buffers exactly if no buffer was given back where
      nothing was counted. -/
  exact_iff : (p.after steps).outstanding.sum = (p.after steps).held ↔
    ∀ t ∈ p.history steps, ∀ place on, t.returned = some (place, on) →
      t.found.outstanding[on]? ≠ some 0
  /-- If every buffer that came back went to its maker, each count is the number
      of buffers that are held from there. -/
  home : (∀ r ∈ p.returns steps, ∀ e, (p.grants steps)[r.1]? = some e → e.1 = r.2) →
    (p.after steps).ExactCounts (p.grants steps)

/-- A request that is not met changes no allocator. -/
theorem unmoved {p q : Pool} {size on : Nat} {trouble : Trouble}
    (ran : p.step (.allocate size on) = .ok (.trouble trouble, q)) :
    trouble ≠ .stop .collapse ∧ q.allocators = p.allocators := by
  cases stepOutcome_of_ok ran with
  | nobody => exact ⟨nofun, rfl⟩
  | refused => exact ⟨nofun, rfl⟩

/-- Giving a buffer back takes one from a count, or leaves it at nothing. -/
theorem lowered {p q : Pool} {place on : Nat}
    (ran : p.step (.free place on) = .ok (.done, q)) :
    ∃ k, q.outstanding[on]? = some k ∧
      (p.outstanding[on]? = some (k + 1) ∨ k = 0 ∧ p.outstanding[on]? = some 0) := by
  cases stepOutcome_of_ok ran with
  | freed _ _ b present a found notes =>
    have inside : on < p.allocators.length := (List.getElem?_eq_some_iff.mp found).1
    refine ⟨a.free.outstanding, ?_, ?_⟩
    · simp only [outstanding, List.getElem?_map, List.getElem?_set_self inside, Option.map_some]
    · simp only [outstanding, List.getElem?_map, found, Option.map_some, Option.some.injEq,
        Allocator.free_outstanding]
      omega

theorem LimitsAllocatable.after {p : Pool} (small : p.LimitsAllocatable) (steps : List PoolStep) :
    (p.after steps).LimitsAllocatable := by
  induction steps generalizing p with
  | nil => exact small
  | cons s steps ih =>
    obtain ⟨o, q, ran⟩ := small.exists_step s
    rw [after_of_ok ran]
    exact ih (small.step ran)

/-- Whatever is asked of several new allocators and given back to them, no
    number is left out or given twice, no count runs below nothing, and the
    counts cover the held buffers; they are exact if every buffer goes back to
    its maker. -/
theorem countLaws_opened {serves : Nat → Bool} {limits : List Nat}
    (small : ∀ l ∈ limits, Allocatable serves l) (steps : List PoolStep) :
    (opened serves limits).CountLaws steps := by
  have roomy := limitsAllocatable_opened small
  have begun := consistent_opened serves limits
  have t := begun.after steps
  rw [List.nil_append, List.nil_append, Nat.zero_add] at t
  exact {
    completes := exists_run roomy steps
    same := t.same
    once := t.once
    live := t.live
    numbered := t.numbered
    unmoved := fun size on => by
      obtain ⟨o, q, ran⟩ := (roomy.after steps).exists_step (.allocate size on)
      refine ⟨o, q, ran, ?_⟩
      rintro trouble rfl
      exact Pool.unmoved ran
    lowered := fun place on q ran => Pool.lowered ran
    -- what one allocator made is a part of all that was made, and a step makes one at most
    within := fun on a found => by
      have few := length_grants_le (opened serves limits) steps
      have part : (madeBy ((opened serves limits).grants steps) on).length
          ≤ ((opened serves limits).grants steps).length := by
        rw [madeBy, List.length_map]
        exact List.length_filter_le _ _
      have count := t.within on a found
      have number := t.next on a found
      omega
    total := t.total
    exact_iff := by
      rw [← strays_eq_zero_iff, t.total]
      omega
    home := fun goes => (exactCounts_opened serves limits).after begun steps goes }

/-- Two allocators on a system with blocks of up to a hundred bytes. The first
    buffer is given back to the other allocator, and then another buffer to the
    allocator that has none left to count: the first one goes on counting a
    buffer that nobody holds. -/
theorem countLaws_mixed :
    (∀ l ∈ [16, 32], Allocatable (· ≤ 100) l) ∧
      (opened (· ≤ 100) [16, 32]).CountLaws
        [.allocate 8 0, .allocate 40 1, .allocate 20 1, .free 0 1, .free 1 1] ∧
      ((opened (· ≤ 100) [16, 32]).after
        [.allocate 8 0, .allocate 40 1, .allocate 20 1, .free 0 1, .free 1 1]).outstanding
          = [1, 0] ∧
      (opened (· ≤ 100) [16, 32]).strays
        [.allocate 8 0, .allocate 40 1, .allocate 20 1, .free 0 1, .free 1 1] = 1 := by
  have small : ∀ l ∈ [16, 32], Allocatable (· ≤ 100) l := by
    intro l among
    have few : l ≤ 32 := by
      simp only [List.mem_cons, List.not_mem_nil, or_false] at among
      omega
    refine ⟨Nat.le_trans few (by decide), fun size _ within => ?_⟩
    exact decide_eq_true (by omega)
  exact ⟨small, countLaws_opened small _, rfl, rfl⟩

/-! ### Requests of any size -/

/-- A request is answered as it should be. An empty one is turned down for its
    parameters, and one above the limit or above the largest block for want of
    memory, with no allocator changed; any other gets a buffer of its size, and
    only then the allocator's number and count go up. -/
def Answered (p : Pool) (on : Nat) (a : Allocator) (size : Nat) : Prop :=
  (∃ f q, p.step (.allocate size on) = .ok (.trouble (.stop (.failure f)), q) ∧
    (size = 0 ∧ f = .parameters ∨
      0 < size ∧ (a.limit < size ∨ Allocator.largestBlock < size) ∧ f = .memory) ∧
    q.allocators = p.allocators) ∨
  ∃ place b q, p.step (.allocate size on) = .ok (.value (.buffer place b), q) ∧ b.size = size ∧
    q.allocators = p.allocators.set on
      { a with nextId := a.nextId + 1, outstanding := a.outstanding + 1 }

/-- A request is answered as it should be exactly if it is turned down for being
    empty or above the limit, or if there can be a block of its size and the
    system has one. Any other ends the run, so that no step of it is answered. If
    no block can have the size, the number and the count are taken by then, with
    no buffer to show for them. -/
theorem answered_iff {p : Pool} {on : Nat} {a : Allocator} (found : p.allocators[on]? = some a)
    (size : Nat) :
    (p.Answered on a size ↔ size = 0 ∨ a.limit < size ∨
      size ≤ Allocator.largestBlock ∧ p.serves size = true) ∧
    (Allocator.largestBlock < size → size ≤ a.limit → ∃ left : Pool,
      (∀ rest, p.run (.allocate size on :: rest) = .error (.collapsed left)) ∧
      left.allocators = p.allocators.set on a.issue ∧ left.buffers = p.buffers) ∧
    (0 < size → size ≤ a.limit → size ≤ Allocator.largestBlock → p.serves size = false →
      ∀ rest, p.run (.allocate size on :: rest) = .error .aborted) := by
  have stepOutcome := p.stepOutcome (.allocate size on)
  have ends {ending : Ending} (ended : p.step (.allocate size on) = .error ending)
      (rest : List PoolStep) : p.run (.allocate size on :: rest) = .error ending :=
    run_of_error ended rest
  unfold Answered
  generalize p.step (.allocate size on) = answer at stepOutcome ends ⊢
  cases stepOutcome with
  | nobody _ _ absent => exact absurd (found.symm.trans absent) nofun
  | refused _ _ a' there f cause notes =>
    obtain rfl : a = a' := Option.some.inj (found.symm.trans there)
    refine ⟨⟨fun _ => ?_, fun _ => .inl ⟨f, _, rfl, ?_, rfl⟩⟩, fun large allowed => ?_,
      fun positive allowed => ?_⟩
    · rcases cause with ⟨rfl, -⟩ | ⟨-, above, -⟩
      · exact .inl rfl
      · exact .inr (.inl above)
    · exact cause.imp id fun ⟨positive, above, why⟩ => ⟨positive, .inl above, why⟩
    · rcases cause with ⟨rfl, -⟩ | ⟨-, above, -⟩ <;> omega
    · rcases cause with ⟨rfl, -⟩ | ⟨-, above, -⟩ <;> omega
  | collapsed _ _ a' there large allowed notes =>
    obtain rfl : a = a' := Option.some.inj (found.symm.trans there)
    refine ⟨⟨?_, fun fits => by omega⟩, fun _ _ => ⟨_, ends rfl, rfl, rfl⟩,
      fun _ _ fits => by omega⟩
    -- a program that is torn down answers neither way
    rintro (⟨f, q, answer, -⟩ | ⟨place, b, q, answer, -⟩) <;> cases answer
  | aborted _ _ a' there positive allowed fits unserved =>
    obtain rfl : a = a' := Option.some.inj (found.symm.trans there)
    refine ⟨⟨?_, fun answered => ?_⟩, fun large => by omega, fun _ _ _ _ => ends rfl⟩
    · rintro (⟨f, q, answer, -⟩ | ⟨place, b, q, answer, -⟩) <;> cases answer
    · rw [unserved] at answered
      rcases answered with rfl | above | ⟨-, served⟩
      · omega
      · omega
      · nomatch served
  | granted _ _ a' there positive allowed fits served notes =>
    obtain rfl : a = a' := Option.some.inj (found.symm.trans there)
    refine ⟨⟨fun _ => .inr (.inr ⟨fits, served⟩), fun _ => .inr ⟨_, _, _, rfl, rfl, rfl⟩⟩,
      fun large _ => by omega, fun _ _ _ unserved => ?_⟩
    exact absurd (served.symm.trans unserved) nofun

/-- An allocator without a limit meets a request for the largest block if the
    system does, and one byte more tears the program down whatever the system
    has. -/
theorem answered_unlimited_iff :
    (opened (fun _ => true) [2 ^ 64 - 1]).allocators[0]? = some { limit := 2 ^ 64 - 1 } ∧
      (opened (fun _ => true) [2 ^ 64 - 1]).Answered 0 { limit := 2 ^ 64 - 1 }
        Allocator.largestBlock ∧
      (∃ left : Pool, (opened (fun _ => true) [2 ^ 64 - 1]).run
        [.allocate (Allocator.largestBlock + 1) 0] = .error (.collapsed left) ∧
          left.outstanding = [1]) ∧
      (opened (· < 4096) [2 ^ 64 - 1]).run [.allocate 4096 0] = .error .aborted := by
  have found (serves : Nat → Bool) :
      (opened serves [2 ^ 64 - 1]).allocators[0]? = some { limit := 2 ^ 64 - 1 } := rfl
  refine ⟨found _, (answered_iff (found _) _).1.mpr (.inr (.inr ⟨Nat.le_refl _, rfl⟩)), ?_, ?_⟩
  · obtain ⟨left, ends, allocators, -⟩ :=
      (answered_iff (found _) (Allocator.largestBlock + 1)).2.1 (Nat.lt_succ_self _) (by decide)
    refine ⟨left, ends [], ?_⟩
    unfold outstanding
    rw [allocators]
    rfl
  · exact (answered_iff (found _) 4096).2.2 (by decide) (by decide) (by decide) (by decide) []

/-- Without a limit, half of the address space is enough to tear the program
    down. -/
theorem not_answered_unlimited :
    ¬ (opened (fun _ => true) [2 ^ 64 - 1]).Answered 0 { limit := 2 ^ 64 - 1 } (2 ^ 63) := by
  obtain ⟨left, ended⟩ : ∃ left, (opened (fun _ => true) [2 ^ 64 - 1]).step
      (.allocate (2 ^ 63) 0) = .error (.collapsed left) := ⟨_, rfl⟩
  rintro (⟨f, q, answer, -⟩ | ⟨place, b, q, answer, -⟩)
  · nomatch ended.symm.trans answer
  · nomatch ended.symm.trans answer

end Pool

end DisplayHub
