import DisplayHub.Proofs.Survey
import Mathlib.Logic.Function.Iterate

/-!
# The Cursor

How far the search for a free number counts.

The entries that carry no number share one cursor. It stands on a number of 32 bits and
is raised for as long as that one is taken. Nothing in that loop would stop it, and the
numbers that are carried can be any: a whole range of them from zero on, and again the
largest there is.

`leastFree` says where the cursor comes to rest, among the natural numbers and within so
many steps as numbers are taken. A `Sweep` is the loop itself, taken turn by turn, on
numbers of 32 bits and without a bound to its turns. One that would have to raise the
cursor from the largest number has overflowed, and stays so.

What bounds the cursor is a matter of counting. Everything below it is taken, so it is at
most as large as the count of what is taken. Each number that is taken belongs to an
entry that is carrying it or was given it, so as long as one is to be given a number,
there are fewer of them than entries. A sweep needs that at every turn and not only where
it settles, which makes it an invariant (`Sweep.Bounds`). It is also the reason why the
cursor can be raised only so often over the whole pass: it never goes back.

## Main definitions

* `Connector.Sweep`: The second pass on the way, at its end, or overflowed.
* `Connector.Sweep.turn`, `Connector.Sweep.start`: One turn, and where it starts.
* `Connector.Sweep.Bounds`: What bounds the cursor.
* `Connector.Sweep.Advances`: What becomes of a sweep in a count of turns.

## Theorems

* `Connector.AllTakenBelow.le_length`: The cursor is not above the count of what is taken.
* `Connector.Sweep.advances_turn`, `Connector.Sweep.advances_turns`: One turn, and many.
* `Connector.Numbered.lt_length`: The numbers that are given are below the count of entries.
* `Connector.scan_terminates`: The second pass of every scan.
-/

namespace DisplayHub

namespace Connector

/-! ### Where the cursor comes to rest -/

section Rest

variable {taken : List Int32} {next : Nat} {k : Int32} {c : Connector} {claim : Option Int32}
  {ahead : List (Connector × Option Int32)}

/-- There are no fewer numbers taken than are below the cursor. -/
theorem AllTakenBelow.le_length (behind : AllTakenBelow taken next) : next ≤ taken.length := by
  have row : ∀ i < next, ((0 + i : Nat) : Int) ∈ taken.map Int32.toInt :=
    fun i below => (Nat.zero_add i).symm ▸ behind i below
  exact le_length_of_row row

theorem AllTakenBelow.succ (behind : AllTakenBelow taken next)
    (here : (next : Int) ∈ taken.map Int32.toInt) :
    AllTakenBelow taken (next + 1) := by
  intro m below
  rcases Nat.lt_succ_iff_lt_or_eq.mp below with before | rfl
  · exact behind m before
  · exact here

theorem le_leastFree (taken : List Int32) (steps next : Nat) :
    next ≤ leastFree taken steps next := by
  induction steps generalizing next with
  | zero => exact Nat.le_refl next
  | succ steps ih =>
      unfold leastFree
      split
      · exact Nat.le_of_succ_le (ih (next + 1))
      · exact Nat.le_refl next

theorem leastFree_of_free (free : (next : Int) ∉ taken.map Int32.toInt) (steps : Nat) :
    leastFree taken steps next = next := by
  cases steps with
  | zero => rfl
  | succ steps => rw [leastFree, if_neg free]

/-- It makes no difference for where the cursor comes to rest that it was raised from a
    number that is taken. -/
theorem leastFree_of_taken (here : (next : Int) ∈ taken.map Int32.toInt) :
    leastFree taken taken.length (next + 1) = leastFree taken taken.length next := by
  have low := le_leastFree taken taken.length next
  have high := le_leastFree taken taken.length (next + 1)
  have free := leastFree_not_mem taken next
  have free' := leastFree_not_mem taken (next + 1)
  have apart : leastFree taken taken.length next ≠ next := fun same => free (same.symm ▸ here)
  -- whichever came to rest first, the other one went past it, and it was free
  rcases Nat.lt_trichotomy (leastFree taken taken.length (next + 1))
    (leastFree taken taken.length next) with before | same | before
  · exact absurd (mem_of_lt_leastFree _ (by omega) before) free'
  · exact same
  · exact absurd (mem_of_lt_leastFree _ (by omega) before) free

/-! What the second pass does at its first entry, which is all that a turn has to agree with. -/

theorem fallbacks_of_some (carries : c.number = some k) :
    fallbacks taken next ((c, claim) :: ahead) = claim :: fallbacks taken next ahead := by
  rw [fallbacks, carries]

theorem fallbacks_of_taken (unnumbered : c.number = none)
    (here : (next : Int) ∈ taken.map Int32.toInt) :
    fallbacks taken (next + 1) ((c, claim) :: ahead) =
      fallbacks taken next ((c, claim) :: ahead) := by
  rw [fallbacks, fallbacks, unnumbered]
  dsimp only
  rw [leastFree_of_taken here]

theorem fallbacks_of_free (unnumbered : c.number = none)
    (free : (next : Int) ∉ taken.map Int32.toInt) :
    fallbacks taken next ((c, claim) :: ahead) =
      some (Int32.ofNat next) :: fallbacks (Int32.ofNat next :: taken) next ahead := by
  rw [fallbacks, unnumbered]
  dsimp only
  rw [leastFree_of_free free]

end Rest

/-- Each entry carries a number or is to be given one. -/
theorem length_numbers (l : List Connector) :
    (numbers l).length + l.countP (·.number.isNone) = l.length := by
  have parts := List.length_eq_countP_add_countP (fun c : Connector => c.number.isSome) (l := l)
  rw [numbers, List.length_filterMap_eq_countP, parts]
  exact congrArg _ (List.countP_congr fun c _ => by simp)

/-! ### The loop, turn by turn -/

/-- How far the second pass is. -/
inductive Sweep where
  /-- On the way: what is taken, where the cursor stands, the entries ahead, and the numbers
      of those passed. -/
  | going (taken : List Int32) (cursor : Int32) (ahead : List (Connector × Option Int32))
      (ids : List (Option Int32))
  /-- At the end, with the number of each entry. -/
  | finished (ids : List (Option Int32))
  /-- The cursor stood on the largest number there is and had to be raised. -/
  | overflowed
deriving DecidableEq, Repr

namespace Sweep

/-- One turn. An entry that carries a number is passed with what it claimed. For any other
    the cursor is raised, if what it stands on is taken, or else settled on. -/
def turn : Sweep → Sweep
  | .going _ _ [] ids => .finished ids
  | .going taken cursor ((c, claim) :: ahead) ids => match c.number with
    | some _ => .going taken cursor ahead (ids ++ [claim])
    | none =>
      if cursor ∈ taken then
        if cursor = Int32.maxValue then .overflowed
        else .going taken (cursor + 1) ((c, claim) :: ahead) ids
      else .going (cursor :: taken) cursor ahead (ids ++ [some cursor])
  | .finished ids => .finished ids
  | .overflowed => .overflowed

/-- The second pass over entries, when the first one is done and so all numbers that are
    carried are taken. -/
def start (l : List Connector) : Sweep :=
  .going (numbers l) 0 (l.zip (claims [] l)) []

/-- How many of the entries ahead are to be given a number. -/
def bare (ahead : List (Connector × Option Int32)) : Nat :=
  ahead.countP fun p => p.1.number.isNone

/-- What bounds the cursor of a sweep over `n` entries. -/
structure Bounds (n : Nat) (taken : List Int32) (cursor : Int32)
    (ahead : List (Connector × Option Int32)) : Prop where
  nonneg : 0 ≤ cursor.toInt
  below : ahead ≠ [] → cursor.toInt < n
  behind : AllTakenBelow taken cursor.toInt.toNat
  /-- No more numbers are taken than belong to entries that have one by now. -/
  room : taken.length + bare ahead ≤ n

section Bounded

variable {n : Nat} {taken : List Int32} {cursor k : Int32} {c : Connector} {claim : Option Int32}
  {ahead : List (Connector × Option Int32)}

theorem bare_of_some (carries : c.number = some k) :
    bare ((c, claim) :: ahead) = bare ahead :=
  List.countP_cons_of_neg (by simp [carries])

theorem bare_of_none (unnumbered : c.number = none) :
    bare ((c, claim) :: ahead) = bare ahead + 1 :=
  List.countP_cons_of_pos (by simp [unnumbered])

theorem Bounds.pass (bounds : Bounds n taken cursor ((c, claim) :: ahead))
    (carries : c.number = some k) : Bounds n taken cursor ahead where
  nonneg := bounds.nonneg
  below _ := bounds.below (List.cons_ne_nil _ _)
  behind := bounds.behind
  room := bare_of_some carries ▸ bounds.room

theorem Bounds.settle (bounds : Bounds n taken cursor ((c, claim) :: ahead))
    (unnumbered : c.number = none) : Bounds n (cursor :: taken) cursor ahead where
  nonneg := bounds.nonneg
  below _ := bounds.below (List.cons_ne_nil _ _)
  behind m before := List.mem_cons_of_mem _ (bounds.behind m before)
  room := by
    have room := bounds.room
    rw [bare_of_none unnumbered] at room
    rw [List.length_cons]
    omega

/-- A cursor that is raised stays below the count of entries: with what it stood on, as
    many numbers are taken as it is large, and one entry has none yet. -/
theorem Bounds.raised_lt (bounds : Bounds n taken cursor ((c, claim) :: ahead))
    (unnumbered : c.number = none) (here : cursor ∈ taken) : cursor.toInt + 1 < n := by
  have nonneg := bounds.nonneg
  have room := bounds.room
  have passed := bounds.behind.succ (by rwa [Int.toNat_of_nonneg nonneg, mem_toInt_iff])
  have counted := passed.le_length
  rw [bare_of_none unnumbered] at room
  omega

/-- Raising the cursor counts on, for it is not the largest number. -/
theorem toInt_raised (few : n ≤ 0x80000000) (below : cursor.toInt + 1 < n)
    (nonneg : 0 ≤ cursor.toInt) : (cursor + 1).toInt = cursor.toInt + 1 := by
  rw [Int32.toInt_add, show (1 : Int32).toInt = 1 from rfl]
  exact Int.bmod_eq_of_le (by omega) (by omega)

theorem Bounds.raise (bounds : Bounds n taken cursor ((c, claim) :: ahead)) (few : n ≤ 0x80000000)
    (unnumbered : c.number = none) (here : cursor ∈ taken) :
    Bounds n taken (cursor + 1) ((c, claim) :: ahead) := by
  have nonneg := bounds.nonneg
  have below := bounds.raised_lt unnumbered here
  have counted := toInt_raised few below nonneg
  refine ⟨by omega, fun _ => by omega, ?_, bounds.room⟩
  rw [counted, Int.toNat_add nonneg (by omega)]
  exact bounds.behind.succ (by rwa [Int.toNat_of_nonneg nonneg, mem_toInt_iff])

end Bounded

/-- A sweep over `n` entries that is within its bounds. -/
def Within (n : Nat) : Sweep → Prop
  | .going taken cursor ahead _ => Bounds n taken cursor ahead
  | .finished _ => True
  | .overflowed => False

/-- The numbers that a sweep is to end with. -/
def outcome : Sweep → Option (List (Option Int32))
  | .going taken cursor ahead ids => some (ids ++ fallbacks taken cursor.toInt.toNat ahead)
  | .finished ids => some ids
  | .overflowed => none

/-- How many turns a sweep over `n` entries takes at most until it ends. Each passes an
    entry or raises the cursor, and one finds that no entry is left. -/
def due (n : Nat) : Sweep → Nat
  | .going _ cursor ahead _ => ahead.length + (n - cursor.toInt.toNat) + 1
  | .finished _ => 0
  | .overflowed => 0

/-- What becomes of a sweep over `n` entries in a count of turns: it stays within its
    bounds, ends with the same numbers, and is so many turns closer to that. -/
structure Advances (n count : Nat) (s t : Sweep) : Prop where
  within : Within n t
  outcome : t.outcome = s.outcome
  due : t.due n ≤ s.due n - count

theorem Advances.trans {n count more : Nat} {s t u : Sweep} (first : Advances n count s t)
    (second : Advances n more t u) : Advances n (count + more) s u where
  within := second.within
  outcome := second.outcome.trans first.outcome
  due := by
    have sooner := first.due
    have later := second.due
    omega

section Turns

variable {n : Nat} {taken : List Int32} {cursor k : Int32} {c : Connector}
  {claim : Option Int32} {ahead : List (Connector × Option Int32)} {ids : List (Option Int32)}

theorem ofNat_toNat (nonneg : 0 ≤ cursor.toInt) : Int32.ofNat cursor.toInt.toNat = cursor := by
  have small := cursor.toInt_lt
  rw [← Int32.toInt_inj, Int32.toInt_ofNat_of_lt (by omega), Int.toNat_of_nonneg nonneg]

theorem advances_end : Advances n 1 (.going taken cursor [] ids) (.finished ids) where
  within := trivial
  outcome := congrArg some (List.append_nil ids).symm
  due := Nat.zero_le _

theorem advances_pass (bounds : Bounds n taken cursor ((c, claim) :: ahead))
    (carries : c.number = some k) :
    Advances n 1 (.going taken cursor ((c, claim) :: ahead) ids)
      (.going taken cursor ahead (ids ++ [claim])) where
  within := bounds.pass carries
  outcome := by
    rw [outcome, outcome, fallbacks_of_some carries, List.append_assoc, List.singleton_append]
  due := by
    simp only [due, List.length_cons]
    omega

theorem advances_raise (bounds : Bounds n taken cursor ((c, claim) :: ahead)) (few : n ≤ 0x80000000)
    (unnumbered : c.number = none) (here : cursor ∈ taken) :
    Advances n 1 (.going taken cursor ((c, claim) :: ahead) ids)
      (.going taken (cursor + 1) ((c, claim) :: ahead) ids) := by
  have nonneg := bounds.nonneg
  have below := bounds.raised_lt unnumbered here
  have counted : (cursor + 1).toInt.toNat = cursor.toInt.toNat + 1 := by
    rw [toInt_raised few below nonneg, Int.toNat_add nonneg (by omega)]
    rfl
  refine ⟨bounds.raise few unnumbered here, ?_, ?_⟩
  · -- the search would come to rest at the same place from here as from the next number
    rw [outcome, outcome, counted, fallbacks_of_taken unnumbered]
    rwa [Int.toNat_of_nonneg nonneg, mem_toInt_iff]
  · simp only [due, counted]
    omega

theorem advances_settle (bounds : Bounds n taken cursor ((c, claim) :: ahead))
    (unnumbered : c.number = none) (free : cursor ∉ taken) :
    Advances n 1 (.going taken cursor ((c, claim) :: ahead) ids)
      (.going (cursor :: taken) cursor ahead (ids ++ [some cursor])) where
  within := bounds.settle unnumbered
  outcome := by
    have nonneg := bounds.nonneg
    rw [outcome, outcome, fallbacks_of_free unnumbered, ofNat_toNat nonneg, List.append_assoc,
      List.singleton_append]
    rwa [Int.toNat_of_nonneg nonneg, mem_toInt_iff]
  due := by
    simp only [due, List.length_cons]
    omega

/-- One turn of a sweep within its bounds. It does not overflow, because a cursor that is to
    be raised is not the largest number. -/
theorem advances_turn {s : Sweep} (few : n ≤ 0x80000000) (within : Within n s) :
    Advances n 1 s s.turn := by
  match s, within with
  | .finished _, _ => exact ⟨trivial, rfl, Nat.zero_le _⟩
  | .going _ _ [] _, _ => exact advances_end
  | .going taken cursor ((c, claim) :: ahead) ids, bounds =>
      rw [turn]
      cases number : c.number with
      | some k => exact advances_pass bounds number
      | none =>
          dsimp only
          by_cases here : cursor ∈ taken
          · -- here it would overflow, if the cursor could be as large as that
            have below := bounds.raised_lt number here
            have lower : cursor ≠ Int32.maxValue := by
              rintro rfl
              rw [Int32.toInt_maxValue] at below
              omega
            rw [if_pos here, if_neg lower]
            exact advances_raise bounds few number here
          · rw [if_neg here]
            exact advances_settle bounds number here

end Turns

/-- Any count of turns of a sweep within its bounds. -/
theorem advances_turns {n : Nat} {s : Sweep} (few : n ≤ 0x80000000) (within : Within n s)
    (count : Nat) : Advances n count s (turn^[count] s) := by
  induction count with
  | zero => exact ⟨within, rfl, Nat.le_refl _⟩
  | succ count ih =>
      rw [Function.iterate_succ_apply']
      exact ih.trans (advances_turn few ih.within)

theorem within_start (l : List Connector) : Within l.length (start l) where
  nonneg := Int.le_refl 0
  below some_ := by
    -- with an entry ahead there is one at all, and the cursor is at zero
    refine Int.ofNat_lt.mpr (List.length_pos_of_ne_nil ?_)
    rintro rfl
    exact some_ rfl
  behind := allTakenBelow_zero
  room := Nat.le_of_eq ((congrArg _ (countP_claims l)).trans (length_numbers l))

end Sweep

/-! ### The numbers that are given -/

section GivenBefore

variable {l : List Connector} {ids : List (Option Int32)} {i : Nat} {c : Connector} {k : Int32}

/-- A number that is carried, some entry has: the first one that carries it. -/
theorem Numbered.mem_of_carried (numbered : Numbered l ids) (entry : l[i]? = some c)
    (carries : c.number = some k) : some k ∈ ids := by
  induction i using Nat.strongRecOn generalizing c with
  | ind i first =>
      by_cases before : CarriedBefore l i k
      · obtain ⟨j, d, below, other, also⟩ := before
        exact first j below other also
      · exact List.mem_of_getElem? (numbered.first i c k entry carries before)

/-- A number that is given is below the count of entries, because some entry has it and each
    of those below it. -/
theorem Numbered.lt_length (numbered : Numbered l ids) (entry : l[i]? = some c)
    (unnumbered : c.number = none) :
    ∃ k, ids[i]? = some (some k) ∧ 0 ≤ k.toInt ∧ k.toInt < l.length := by
  obtain ⟨k, here, smallest⟩ := numbered.given i c entry unnumbered
  refine ⟨k, here, smallest.nonneg, ?_⟩
  have nonneg := smallest.nonneg
  have had {m : Int32} (among : some m ∈ ids) : m.toInt ∈ (ids.filterMap id).map Int32.toInt :=
    List.mem_map_of_mem (List.mem_filterMap.mpr ⟨_, among, rfl⟩)
  -- the numbers that entries have are a row from zero up to this one, and maybe more
  have lower : AllTakenBelow (ids.filterMap id) k.toInt.toNat := by
    intro m below
    have small := k.toInt_lt
    have value : (Int32.ofNat m).toInt = m := Int32.toInt_ofNat_of_lt (by omega)
    rw [← value]
    rcases smallest.least (Int32.ofNat m) (by omega) (by omega) with carried | given
    · obtain ⟨j, d, other, carries⟩ := mem_numbers_iff.mp carried
      exact had (numbered.mem_of_carried other carries)
    · obtain ⟨j, d, -, -, -, there⟩ := given
      exact had (List.mem_of_getElem? there)
  have itself : ((k.toInt.toNat : Nat) : Int) ∈ (ids.filterMap id).map Int32.toInt := by
    rw [Int.toNat_of_nonneg nonneg]
    exact had (List.mem_of_getElem? here)
  have counted := (lower.succ itself).le_length
  have fits := List.length_filterMap_le id ids
  rw [numbered.fits] at fits
  omega

end GivenBefore

/-! ### Every scan -/

/-- What a scan finds are the entries that are driven, in order. -/
theorem found_scan (storage : Storage) (root : String) (entries : List String) :
    (readConnectors storage root (inOrder entries)).found =
      survey root storage (selected (inOrder entries)) := by
  rw [readConnectors, found_readConnectors, List.nil_append]

theorem length_found (storage : Storage) (root : String) (entries : List String) :
    (readConnectors storage root (inOrder entries)).found.length = (selected entries).length := by
  have all : ∀ entry ∈ selected (inOrder entries), (driven entry).isSome = true :=
    fun entry among => (List.mem_filter.mp among).2
  rw [found_scan, length_survey all]
  exact ((List.mergeSort_perm entries _).filter _).length_eq

/-- A sweep over entries ends with the numbers that are assigned to them. -/
theorem Sweep.finished_start {l : List Connector} (few : l.length ≤ 0x80000000) :
    turn^[2 * l.length + 1] (start l) = .finished (assigned l) := by
  have start_due : (start l).due l.length = 2 * l.length + 1 := by
    rw [start, due, List.length_zip, length_claims]
    change min l.length l.length + (l.length - 0) + 1 = 2 * l.length + 1
    omega
  obtain ⟨within, outcome, due⟩ := advances_turns few (within_start l) (2 * l.length + 1)
  rw [start_due, Nat.sub_self] at due
  -- no turn is due any more, so it has ended, and within its bounds it can only have finished
  cases ended : turn^[2 * l.length + 1] (start l) with
  | finished ids =>
      rw [ended] at outcome
      exact congrArg Sweep.finished (Option.some.inj outcome)
  | going taken cursor ahead ids =>
      rw [ended] at due
      exact absurd due (Nat.not_succ_le_zero _)
  | overflowed =>
      rw [ended] at within
      exact within.elim

/-- The second pass of every scan, whatever the numbers that its entries carry. Taken turn by
    turn, it is at its end after two turns for each entry and one more, with the numbers that
    the scan assigns. It does not overflow. As long as an entry is ahead, the cursor is not
    negative and is below the count of entries, and so is the number of each entry that
    carries none. -/
theorem scan_terminates {storage : Storage} {root : String} {entries : List String}
    (listed : storage.list root = .ok entries) (few : (selected entries).length < 0x80000000) :
    let l := (readConnectors storage root (inOrder entries)).found
    let n := (selected entries).length
    l.length = n ∧ (scan storage root).1 = .ok (topology l) ∧
    Sweep.turn^[2 * n + 1] (Sweep.start l) = .finished (assigned l) ∧
    (∀ count, Sweep.turn^[count] (Sweep.start l) ≠ .overflowed) ∧
    (∀ count taken cursor p ahead ids,
      Sweep.turn^[count] (Sweep.start l) = .going taken cursor (p :: ahead) ids →
      0 ≤ cursor.toInt ∧ cursor.toInt < n) ∧
    ∀ (i : Nat) (c : Connector), l[i]? = some c → c.number = none →
      ∃ k, (assigned l)[i]? = some (some k) ∧ 0 ≤ k.toInt ∧ k.toInt < n := by
  intro l n
  have length : l.length = n := length_found storage root entries
  have small : l.length ≤ 0x80000000 := length ▸ Nat.le_of_lt few
  -- the bounds hold after any number of turns, and all that follows is read off them
  have within (count : Nat) : Sweep.Within n (Sweep.turn^[count] (Sweep.start l)) :=
    length ▸ (Sweep.advances_turns small (Sweep.within_start l) count).within
  refine ⟨length, ?_, ?_, fun count beyond => ?_, fun count taken cursor p ahead ids here => ?_,
    fun i c entry unnumbered => ?_⟩
  · rw [scan, listed]
  · exact length ▸ Sweep.finished_start small
  · have bounds := within count
    rw [beyond] at bounds
    exact bounds.elim
  · have bounds := within count
    rw [here] at bounds
    exact ⟨bounds.nonneg, bounds.below (List.cons_ne_nil p ahead)⟩
  · have spare := enoughFree_of_length (Nat.le_trans (Nat.le_of_eq (length_numbers l)) small)
    exact length ▸ (numbered_assigned spare).lt_length entry unnumbered

/-- A directory whose numbers are in the way. They cover a whole range from zero on, one of
    them is carried twice, one is the smallest there is and one the largest. An entry carries
    none, and the number of another one is too large to be read. -/
def thicket : Storage where
  items := [
    (["drm"], .directory),
    (["drm", "card0-DP-1"], .directory),
    (["drm", "card0-DP-1", "connector_id"], .file (some "0\n")),
    (["drm", "card0-DP-2"], .directory),
    (["drm", "card0-HDMI-A-1"], .directory),
    (["drm", "card0-HDMI-A-1", "connector_id"], .file (some "2147483648\n")),
    (["drm", "card0-SVIDEO-1"], .directory),
    (["drm", "card0-VGA-1"], .directory),
    (["drm", "card0-VGA-1", "connector_id"], .file (some "-2147483648\n")),
    (["drm", "card0-VGA-2"], .directory),
    (["drm", "card0-VGA-2", "connector_id"], .file (some "2147483647\n")),
    (["drm", "card0-VGA-3"], .directory),
    (["drm", "card0-VGA-3", "connector_id"], .file (some "1\n")),
    (["drm", "card0-VGA-4"], .directory),
    (["drm", "card0-VGA-4", "connector_id"], .file (some "1\n"))]

/-- What a scan of `thicket` finds. -/
def tangled : List Connector := [
  ⟨some 0, .pluggable, false, "DP-1"⟩, ⟨none, .pluggable, false, "DP-2"⟩,
  ⟨none, .pluggable, false, "HDMI-A-1"⟩, ⟨some (-2147483648), .pluggable, false, "VGA-1"⟩,
  ⟨some 2147483647, .pluggable, false, "VGA-2"⟩, ⟨some 1, .pluggable, false, "VGA-3"⟩,
  ⟨some 1, .pluggable, false, "VGA-4"⟩]

theorem scan_terminates_thicket :
    (∃ entries, thicket.list "/drm" = .ok entries ∧ (selected entries).length = 7) ∧
    (scan thicket "/drm").1 = .ok (topology tangled) ∧
    assigned tangled = [some 0, some 2, some 3, some (-2147483648), some 2147483647, some 1,
      none] ∧
    Sweep.turn^[15] (Sweep.start tangled) = .finished (assigned tangled) ∧
    ∀ count, Sweep.turn^[count] (Sweep.start tangled) ≠ .overflowed := by
  let names := ["card0-DP-1", "card0-DP-2", "card0-HDMI-A-1", "card0-VGA-1", "card0-VGA-2",
    "card0-VGA-3", "card0-VGA-4"]
  let entries := ["card0-DP-1", "card0-DP-2", "card0-HDMI-A-1", "card0-SVIDEO-1", "card0-VGA-1",
    "card0-VGA-2", "card0-VGA-3", "card0-VGA-4"]
  have listed : thicket.list "/drm" = .ok entries := rfl
  have chosen : selected entries = names := by decide +kernel
  have seven : (selected entries).length = 7 := chosen ▸ rfl
  have read : survey "/drm" thicket names = tangled := by decide +kernel
  have found : (readConnectors thicket "/drm" (inOrder entries)).found = tangled := by
    rw [found_scan, selected_inOrder (by decide +kernel) (.of_eq chosen.symm), read]
  obtain ⟨-, reported, finished, counted, -⟩ := scan_terminates listed (by rw [seven]; decide)
  rw [found] at reported finished counted
  rw [seven] at finished
  exact ⟨⟨entries, listed, seven⟩, reported, by decide, finished, counted⟩

end Connector

end DisplayHub
