import DisplayHub.Connector
import Mathlib.Data.List.Nodup
import Mathlib.Data.List.Perm.Basic

/-!
# Numbering Connectors

Which number each connector entry is reported under.

There are two passes. The first gives each number that is carried to the first entry
that carries it. The second goes through the entries that carry none, with a cursor
that never goes back, and gives each of them the first number from the cursor on that
is not taken. Nothing is ever lost by not going back: what the cursor has passed is
taken (`AllTakenBelow`), so the first number from the cursor on is the first one at all.

That the cursor finds a number before it runs out of steps is a matter of counting. If
every number it saw were taken, there would be more of them than are taken. That it
does not run beyond the numbers there are is another one, and it needs that enough of
them are left. `EnoughFree` says so in the weakest way there is: as many numbers are free
as there are entries to be given one.

The numbers end up in a map, where a number that was given twice would cost an entry.
It never is.

## Main definitions

* `Connector.EnoughFree`: There are numbers left to give.
* `Connector.AllTakenBelow`: What the cursor has passed is taken.
* `Connector.Smallest`: The number that an entry without one is to be given.
* `Connector.Numbered`: The number of each entry, as it should be.
* `Connector.Reports`: What a topology reports of numbered entries.

## Theorems

* `Connector.leastFree_not_mem`: The cursor finds a number.
* `Connector.claims_spec`, `Connector.fallbacks_spec`: The two passes.
* `Connector.numbered_iff`: What is assigned is the one way to number the entries, and
  there is one exactly if numbers are left.
* `Connector.reports_topology`: No entry that has a number is lost.
-/

namespace DisplayHub

namespace Connector

/-! ### The cursor -/

/-- What the cursor goes past is taken. -/
theorem mem_of_lt_leastFree {taken : List Int32} {next m : Nat} (steps : Nat)
    (from_next : next ≤ m) (before : m < leastFree taken steps next) :
    (m : Int) ∈ taken.map Int32.toInt := by
  induction steps generalizing next with
  | zero => exact absurd before (Nat.not_lt.mpr from_next)
  | succ steps ih =>
      unfold leastFree at before
      split at before
      · next here =>
          rcases Nat.lt_or_eq_of_le from_next with later | rfl
          · exact ih later before
          · exact here
      · exact absurd before (Nat.not_lt.mpr from_next)

/-- The cursor stops at a number that is free, or because it ran out of steps. -/
theorem leastFree_free_or (taken : List Int32) (steps next : Nat) :
    (leastFree taken steps next : Int) ∉ taken.map Int32.toInt ∨
      leastFree taken steps next = next + steps := by
  induction steps generalizing next with
  | zero => exact Or.inr rfl
  | succ steps ih =>
      unfold leastFree
      split
      · exact (ih (next + 1)).imp_right fun ran => by omega
      · next free => exact Or.inl free

/-- A row of numbers that are all taken is not longer than what is taken. -/
theorem le_length_of_row {taken : List Int32} {next count : Nat}
    (row : ∀ i < count, ((next + i : Nat) : Int) ∈ taken.map Int32.toInt) :
    count ≤ taken.length := by
  let seen := (List.range count).map fun i => ((next + i : Nat) : Int)
  have distinct : seen.Nodup :=
    List.nodup_range.map fun i j same => by omega
  have within : seen ⊆ taken.map Int32.toInt := by
    intro k among
    obtain ⟨i, below, rfl⟩ := List.mem_map.mp among
    exact row i (List.mem_range.mp below)
  simpa [seen] using (List.subperm_of_subset distinct within).length_le

/-- It does not run out of steps. -/
theorem leastFree_not_mem (taken : List Int32) (next : Nat) :
    (leastFree taken taken.length next : Int) ∉ taken.map Int32.toInt := by
  rcases leastFree_free_or taken taken.length next with free | ran
  · exact free
  · intro last
    -- then all of these would be taken, one more than there are
    have row : ∀ i < taken.length + 1, ((next + i : Nat) : Int) ∈ taken.map Int32.toInt := by
      intro i below
      rcases Nat.lt_or_eq_of_le (Nat.le_of_lt_succ below) with inside | rfl
      · exact mem_of_lt_leastFree taken.length (Nat.le_add_right next i) (by omega)
      · rw [ran] at last
        exact last
    exact absurd (le_length_of_row row) (Nat.not_succ_le_self _)

/-! ### Numbers that are left -/

/-- There are so many numbers left to give that nobody took. -/
def EnoughFree (taken : List Int32) (n : Nat) : Prop :=
  ∃ free : List Int32, free.Nodup ∧ n ≤ free.length ∧ ∀ k ∈ free, 0 ≤ k.toInt ∧ k ∉ taken

/-- There are half as many numbers that are not negative as there are numbers. -/
theorem enoughFree_of_length {taken : List Int32} {n : Nat} (few : taken.length + n ≤ 0x80000000) :
    EnoughFree taken n := by
  let all := (List.range (0x80000000)).map Int32.ofNat
  have value {m : Nat} (below : m ∈ List.range (0x80000000)) : (Int32.ofNat m).toInt = m :=
    Int32.toInt_ofNat_of_lt (List.mem_range.mp below)
  have distinct : all.Nodup := List.nodup_range.map_on fun i inside j inside' same => by
    have equal := congrArg Int32.toInt same
    rw [value inside, value inside'] at equal
    exact Int.ofNat_inj.mp equal
  -- of these, no more can be gone than were taken
  have gone : (all.filter (· ∈ taken)).length ≤ taken.length :=
    (List.subperm_of_subset (distinct.filter _) fun k among => by
      simpa using List.of_mem_filter among).length_le
  refine ⟨all.filter (· ∉ taken), distinct.filter _, ?_, fun k among => ?_⟩
  · have parts := List.length_eq_length_filter_add (l := all) (f := (· ∈ taken))
    simp only [all, List.length_map, List.length_range] at parts gone ⊢
    simp only [decide_not]
    omega
  · obtain ⟨inside, free⟩ := List.mem_filter.mp among
    obtain ⟨m, below, rfl⟩ := List.mem_map.mp inside
    exact ⟨value below ▸ Int.natCast_nonneg m, of_decide_eq_true free⟩

/-- Every number below the cursor is taken. -/
def AllTakenBelow (taken : List Int32) (next : Nat) : Prop :=
  ∀ m < next, (m : Int) ∈ taken.map Int32.toInt

theorem allTakenBelow_zero {taken : List Int32} : AllTakenBelow taken 0 :=
  fun m below => absurd below m.not_lt_zero

variable {taken : List Int32} {next n : Nat}

/-- What is behind the cursor after it has moved. -/
theorem AllTakenBelow.move (behind : AllTakenBelow taken next) (steps : Nat) :
    AllTakenBelow taken (leastFree taken steps next) := by
  intro m below
  rcases Nat.lt_or_ge m next with before | later
  · exact behind m before
  · exact mem_of_lt_leastFree steps later below

/-- As long as there are numbers left, the one that is found is one of them, and it is
    the smallest. -/
theorem found_of_enoughFree (spare : EnoughFree taken (n + 1)) (behind : AllTakenBelow taken next) :
    (Int32.ofNat (leastFree taken taken.length next)).toInt =
      leastFree taken taken.length next := by
  obtain ⟨free, -, many, open_⟩ := spare
  obtain ⟨k, among⟩ := List.exists_mem_of_length_pos (Nat.lt_of_lt_of_le n.succ_pos many)
  obtain ⟨positive, untaken⟩ := open_ k among
  refine Int32.toInt_ofNat_of_lt (Nat.lt_of_not_le fun beyond => untaken ?_)
  -- a free number is not behind the cursor
  have small := k.toInt_lt
  have passed := behind.move taken.length k.toInt.toNat (by omega)
  rw [Int.toNat_of_nonneg positive] at passed
  obtain ⟨other, held, same⟩ := List.mem_map.mp passed
  exact Int32.toInt_inj.mp same ▸ held

/-- One number is given away, and the others are left. -/
theorem EnoughFree.give (spare : EnoughFree taken (n + 1)) (k : Int32) :
    EnoughFree (k :: taken) n := by
  obtain ⟨free, distinct, many, open_⟩ := spare
  refine ⟨free.erase k, distinct.erase k, ?_, fun m among => ?_⟩
  · rw [List.length_erase]
    split <;> omega
  · obtain ⟨other, member⟩ := distinct.mem_erase_iff.mp among
    obtain ⟨positive, untaken⟩ := open_ m member
    exact ⟨positive, List.not_mem_cons_of_ne_of_not_mem other untaken⟩

/-! ### The two passes -/

/-- An entry before a place carries a number. -/
def CarriedBefore (l : List Connector) (place : Nat) (k : Int32) : Prop :=
  ∃ j c, j < place ∧ l[j]? = some c ∧ c.number = some k

/-- An entry before a place carries no number and was given one. -/
def GivenBefore (l : List Connector) (ids : List (Option Int32)) (place : Nat) (k : Int32) : Prop :=
  ∃ j c, j < place ∧ l[j]? = some c ∧ c.number = none ∧ ids[j]? = some (some k)

section Places

variable {l : List Connector} {ids : List (Option Int32)} {c : Connector} {given : Option Int32}
  {i : Nat} {k : Int32}

theorem not_carriedBefore_zero : ¬ CarriedBefore l 0 k := by
  rintro ⟨j, c, below, -⟩
  nomatch below

theorem carriedBefore_succ_iff :
    CarriedBefore (c :: l) (i + 1) k ↔ c.number = some k ∨ CarriedBefore l i k := by
  constructor
  · rintro ⟨_ | j, d, below, there, carries⟩
    · obtain rfl := Option.some.inj there
      exact Or.inl carries
    · exact Or.inr ⟨j, d, Nat.lt_of_succ_lt_succ below, there, carries⟩
  · rintro (carries | ⟨j, d, below, there, carries⟩)
    · exact ⟨0, c, Nat.succ_pos i, rfl, carries⟩
    · exact ⟨j + 1, d, Nat.succ_lt_succ below, there, carries⟩

theorem not_givenBefore_zero : ¬ GivenBefore l ids 0 k := by
  rintro ⟨j, c, below, -⟩
  nomatch below

theorem givenBefore_succ_iff : GivenBefore (c :: l) (given :: ids) (i + 1) k ↔
    (c.number = none ∧ given = some k) ∨ GivenBefore l ids i k := by
  constructor
  · rintro ⟨_ | j, d, below, there, bare, gift⟩
    · obtain rfl := Option.some.inj there
      exact Or.inl ⟨bare, Option.some.inj gift⟩
    · exact Or.inr ⟨j, d, Nat.lt_of_succ_lt_succ below, there, bare, gift⟩
  · rintro (⟨bare, rfl⟩ | ⟨j, d, below, there, bare, gift⟩)
    · exact ⟨0, c, Nat.succ_pos i, rfl, bare, rfl⟩
    · exact ⟨j + 1, d, Nat.succ_lt_succ below, there, bare, gift⟩

end Places

theorem length_claims (taken : List Int32) (l : List Connector) :
    (claims taken l).length = l.length := by
  induction l generalizing taken with
  | nil => rfl
  | cons c rest ih =>
      unfold claims
      split
      · rw [List.length_cons, List.length_cons, ih]
      · split <;> rw [List.length_cons, List.length_cons, ih]

/-- An entry gets the number that it carries, unless the number is gone already. -/
theorem claims_spec {taken : List Int32} {l : List Connector} {i : Nat} {c : Connector}
    {k : Int32} (entry : l[i]? = some c) (carries : c.number = some k) :
    ((k ∈ taken ∨ CarriedBefore l i k) → (claims taken l)[i]? = some none) ∧
    (¬ (k ∈ taken ∨ CarriedBefore l i k) → (claims taken l)[i]? = some (some k)) := by
  -- along the entries, where what an entry claims is taken for those behind it
  induction l generalizing taken i with
  | nil => nomatch entry
  | cons a rest ih =>
      cases i with
      | zero =>
          obtain rfl := Option.some.inj entry
          unfold claims
          rw [carries, or_iff_left not_carriedBefore_zero]
          by_cases gone : k ∈ taken
          · simp [gone]
          · simp [gone]
      | succ i =>
          rw [List.getElem?_cons_succ] at entry
          rw [carriedBefore_succ_iff]
          unfold claims
          cases number : a.number with
          | none => simpa using ih entry
          | some id =>
              dsimp only
              by_cases gone : id ∈ taken
              · -- the first entry was too late, and what it carries is taken
                have same : (k ∈ taken ∨ some id = some k ∨ CarriedBefore rest i k) ↔
                    (k ∈ taken ∨ CarriedBefore rest i k) := by
                  rw [Option.some.injEq]
                  constructor
                  · rintro (held | rfl | before)
                    · exact Or.inl held
                    · exact Or.inl gone
                    · exact Or.inr before
                  · exact Or.imp_right Or.inr
                rw [if_pos gone, same]
                exact ih entry
              · have same : (k ∈ taken ∨ some id = some k ∨ CarriedBefore rest i k) ↔
                    (k ∈ id :: taken ∨ CarriedBefore rest i k) := by
                  rw [Option.some.injEq, List.mem_cons, eq_comm, ← or_assoc,
                    or_comm (a := k ∈ taken)]
                rw [if_neg gone, same]
                exact ih entry

/-- The smallest number, of those that are not negative, that is neither taken nor given
    to an entry before a place. -/
structure Smallest (taken : List Int32) (l : List Connector) (ids : List (Option Int32))
    (place : Nat) (k : Int32) : Prop where
  nonneg : 0 ≤ k.toInt
  free : k ∉ taken
  fresh : ¬ GivenBefore l ids place k
  least : ∀ m : Int32, 0 ≤ m.toInt → m.toInt < k.toInt → m ∈ taken ∨ GivenBefore l ids place m

section Places

variable {taken : List Int32} {l : List Connector} {ids : List (Option Int32)} {a : Connector}
  {given : Option Int32} {i : Nat} {k id : Int32}

/-- An entry that carries a number makes no difference. -/
theorem Smallest.skip (smallest : Smallest taken l ids i k) (carries : a.number = some id) :
    Smallest taken (a :: l) (given :: ids) (i + 1) k := by
  have other (m : Int32) : GivenBefore (a :: l) (given :: ids) (i + 1) m ↔
    GivenBefore l ids i m := by
    rw [givenBefore_succ_iff, carries]
    simp
  obtain ⟨nonneg, free, fresh, least⟩ := smallest
  refine ⟨nonneg, free, ?_, fun m positive below => ?_⟩
  · rwa [other]
  · rw [other]
    exact least m positive below

/-- What is given to the first entry is taken for all behind it. -/
theorem Smallest.give (smallest : Smallest (id :: taken) l ids i k) (bare : a.number = none) :
    Smallest taken (a :: l) (some id :: ids) (i + 1) k := by
  obtain ⟨nonneg, free, fresh, least⟩ := smallest
  obtain ⟨apart, free⟩ := not_or.mp (List.mem_cons.not.mp free)
  refine ⟨nonneg, free, ?_, fun m positive below => ?_⟩
  · rw [givenBefore_succ_iff]
    rintro (⟨-, same⟩ | before)
    · exact apart (Option.some.inj same).symm
    · exact fresh before
  · rw [givenBefore_succ_iff]
    rcases least m positive below with held | before
    · rcases List.mem_cons.mp held with rfl | held
      · exact Or.inr (Or.inl ⟨bare, rfl⟩)
      · exact Or.inl held
    · exact Or.inr (Or.inr before)

end Places

theorem mem_toInt_iff {k : Int32} : k.toInt ∈ taken.map Int32.toInt ↔ k ∈ taken := by
  simp [Int32.toInt_inj]

/-- The number that the cursor finds is the smallest there is. -/
theorem smallest_leastFree (spare : EnoughFree taken (n + 1)) (behind : AllTakenBelow taken next)
    (l : List Connector) (ids : List (Option Int32)) :
    Smallest taken l ids 0 (Int32.ofNat (leastFree taken taken.length next)) := by
  have found := found_of_enoughFree spare behind
  refine ⟨?_, ?_, not_givenBefore_zero, fun m positive below => Or.inl ?_⟩
  · rw [found]
    exact Int.natCast_nonneg _
  · rw [← mem_toInt_iff, found]
    exact leastFree_not_mem taken next
  · have passed := behind.move taken.length m.toInt.toNat (by omega)
    rwa [Int.toNat_of_nonneg positive, mem_toInt_iff] at passed

/-- An entry that carries a number keeps what it claimed. One that carries none gets
    the smallest number that is left for it. -/
theorem fallbacks_spec {taken : List Int32} {next : Nat} {l : List (Connector × Option Int32)}
    (spare : EnoughFree taken (l.countP fun p => p.1.number.isNone))
    (behind : AllTakenBelow taken next)
    {i : Nat} {c : Connector} {claim : Option Int32} (entry : l[i]? = some (c, claim)) :
    (c.number.isSome = true → (fallbacks taken next l)[i]? = some claim) ∧
    (c.number = none → ∃ k, (fallbacks taken next l)[i]? = some (some k) ∧
      Smallest taken (l.map (·.1)) (fallbacks taken next l) i k) := by
  -- along the entries again, and all below the cursor stays taken on the way
  induction l generalizing taken next i with
  | nil => nomatch entry
  | cons p rest ih =>
      obtain ⟨a, claimed⟩ := p
      cases number : a.number with
      | some id =>
          simp only [List.countP_cons, number, Option.isNone_some, Bool.false_eq_true, if_false,
            Nat.add_zero] at spare
          unfold fallbacks
          rw [number]
          dsimp only
          cases i with
          | zero =>
              obtain ⟨rfl, rfl⟩ := Prod.mk.inj (Option.some.inj entry)
              exact ⟨fun _ => rfl, fun bare => nomatch number.symm.trans bare⟩
          | succ i =>
              obtain ⟨kept, given⟩ := ih spare behind entry
              refine ⟨kept, fun bare => ?_⟩
              obtain ⟨k, there, smallest⟩ := given bare
              exact ⟨k, there, smallest.skip number⟩
      | none =>
          simp only [List.countP_cons, number, Option.isNone_none, if_true] at spare
          unfold fallbacks
          rw [number]
          dsimp only
          cases i with
          | zero =>
              obtain ⟨rfl, rfl⟩ := Prod.mk.inj (Option.some.inj entry)
              refine ⟨fun carries => ?_, fun _ => ⟨_, rfl, smallest_leastFree spare behind _ _⟩⟩
              rw [number] at carries
              nomatch carries
          | succ i =>
              -- the number given here is taken from now on, and so is all behind it
              have passed : AllTakenBelow
                  (Int32.ofNat (leastFree taken taken.length next) :: taken)
                  (leastFree taken taken.length next) := fun m below =>
                List.mem_cons_of_mem _ (behind.move taken.length m below)
              obtain ⟨kept, given⟩ := ih (spare.give _) passed entry
              refine ⟨kept, fun bare => ?_⟩
              obtain ⟨k, there, smallest⟩ := given bare
              exact ⟨k, there, smallest.give number⟩

theorem length_fallbacks (taken : List Int32) (next : Nat) (l : List (Connector × Option Int32)) :
    (fallbacks taken next l).length = l.length := by
  induction l generalizing taken next with
  | nil => rfl
  | cons p rest ih =>
      obtain ⟨a, claimed⟩ := p
      unfold fallbacks
      cases a.number with
      | none => exact congrArg Nat.succ (ih _ _)
      | some id => exact congrArg Nat.succ (ih _ _)

/-! ### Both passes together -/

/-- Every entry has the number that it should have, or none. -/
structure Numbered (l : List Connector) (ids : List (Option Int32)) : Prop where
  /-- There is a place for every entry, and no other. -/
  fits : ids.length = l.length
  /-- A number that is carried goes to the first entry that carries it. -/
  first : ∀ (i : Nat) (c : Connector) (k : Int32), l[i]? = some c → c.number = some k →
    ¬ CarriedBefore l i k → ids[i]? = some (some k)
  /-- The others that carry it are left out. -/
  repeated : ∀ (i : Nat) (c : Connector) (k : Int32), l[i]? = some c → c.number = some k →
    CarriedBefore l i k → ids[i]? = some none
  /-- An entry that carries none is given the smallest that nobody carries and no entry
      before it was given. -/
  given : ∀ (i : Nat) (c : Connector), l[i]? = some c → c.number = none →
    ∃ k, ids[i]? = some (some k) ∧ Smallest (numbers l) l ids i k

theorem mem_numbers_iff {l : List Connector} {k : Int32} :
    k ∈ numbers l ↔ ∃ (i : Nat) (c : Connector), l[i]? = some c ∧ c.number = some k := by
  unfold numbers
  rw [List.mem_filterMap]
  constructor
  · rintro ⟨c, among, carries⟩
    obtain ⟨i, there⟩ := List.mem_iff_getElem?.mp among
    exact ⟨i, c, there, carries⟩
  · rintro ⟨i, c, there, carries⟩
    exact ⟨c, List.mem_of_getElem? there, carries⟩

/-- As many are to be given a number after the first pass as carry none. -/
theorem countP_claims (l : List Connector) :
    (l.zip (claims [] l)).countP (fun p => p.1.number.isNone) = l.countP (·.number.isNone) := by
  conv_rhs => rw [← List.map_fst_zip (Nat.le_of_eq (length_claims [] l).symm), List.countP_map]
  rfl

/-- Every entry is numbered as it should be, as long as there are numbers left for all
    that carry none. -/
theorem numbered_assigned {l : List Connector}
    (spare : EnoughFree (numbers l) (l.countP (·.number.isNone))) : Numbered l (assigned l) := by
  have same : (claims [] l).length = l.length := length_claims [] l
  have firsts : (l.zip (claims [] l)).map (·.1) = l := List.map_fst_zip (Nat.le_of_eq same.symm)
  have pass {i : Nat} {c : Connector} {claim : Option Int32} (entry : l[i]? = some c)
      (claimed : (claims [] l)[i]? = some claim) :=
    fallbacks_spec (countP_claims l ▸ spare) allTakenBelow_zero
      (List.getElem?_zip_eq_some.mpr ⟨entry, claimed⟩)
  refine ⟨?_, fun i c k entry carries fresh => ?_, fun i c k entry carries before => ?_,
    fun i c entry bare => ?_⟩
  · rw [assigned, length_fallbacks, List.length_zip, same, Nat.min_self]
  · have claimed := (claims_spec entry carries).2 (or_iff_right List.not_mem_nil |>.not.mpr fresh)
    exact (pass entry claimed).1 (carries ▸ rfl)
  · have claimed : (claims [] l)[i]? = some none := (claims_spec entry carries).1 (Or.inr before)
    exact (pass entry claimed).1 (carries ▸ rfl)
  · have inside : i < (claims [] l).length :=
      same.symm ▸ (List.getElem?_eq_some_iff.mp entry).choose
    have given := (pass entry (List.getElem?_eq_getElem inside)).2 bare
    rwa [firsts] at given

variable {l : List Connector} {ids : List (Option Int32)} {i j : Nat} {c d : Connector}
  {k : Int32}

/-- An entry that has a number carries it, or was given it. -/
theorem Numbered.source (numbered : Numbered l ids) (entry : l[i]? = some c)
    (here : ids[i]? = some (some k)) :
    c.number = some k ∨ (c.number = none ∧ Smallest (numbers l) l ids i k) := by
  cases number : c.number with
  | some id =>
      by_cases before : CarriedBefore l i id
      · rw [numbered.repeated i c id entry number before] at here
        nomatch here
      · rw [numbered.first i c id entry number before] at here
        exact Or.inl (Option.some.inj here)
  | none =>
      obtain ⟨m, there, smallest⟩ := numbered.given i c entry number
      obtain rfl : m = k := Option.some.inj (Option.some.inj (there.symm.trans here))
      exact Or.inr ⟨rfl, smallest⟩

/-- A number that an entry has, no entry behind it has. -/
theorem Numbered.fresh (numbered : Numbered l ids) (entry : l[i]? = some c)
    (other : l[j]? = some d) (here : ids[i]? = some (some k)) (later : i < j) :
    ids[j]? ≠ some (some k) := by
  intro there
  -- both carry it, both were given it, or it was given to one though the other carries it
  rcases numbered.source other there with carries | ⟨-, smallest⟩
  · rcases numbered.source entry here with held | ⟨-, smallest⟩
    · rw [numbered.repeated j d k other carries ⟨i, c, later, entry, held⟩] at there
      nomatch there
    · exact smallest.free (mem_numbers_iff.mpr ⟨j, d, other, carries⟩)
  · rcases numbered.source entry here with held | ⟨bare, -⟩
    · exact smallest.free (mem_numbers_iff.mpr ⟨i, c, entry, held⟩)
    · exact smallest.fresh ⟨i, c, later, entry, bare, here⟩

theorem Numbered.entry_of_number (numbered : Numbered l ids) (here : ids[i]? = some (some k)) :
    ∃ c, l[i]? = some c :=
  ⟨_, List.getElem?_eq_getElem (numbered.fits ▸ (List.getElem?_eq_some_iff.mp here).choose)⟩

/-- No number is used twice. -/
theorem Numbered.once (numbered : Numbered l ids) (here : ids[i]? = some (some k))
    (there : ids[j]? = some (some k)) : i = j := by
  obtain ⟨c, entry⟩ := numbered.entry_of_number here
  obtain ⟨d, other⟩ := numbered.entry_of_number there
  rcases Nat.lt_trichotomy i j with later | same | later
  · exact absurd there (numbered.fresh entry other here later)
  · exact same
  · exact absurd here (numbered.fresh other entry there later)

theorem Numbered.distinct (numbered : Numbered l ids) : (ids.filterMap id).Nodup := by
  refine List.pairwise_filterMap.mpr (List.pairwise_iff_getElem.mpr ?_)
  rintro i j inside inside' later k here m there rfl
  have first : ids[i]? = some (some k) := List.getElem?_eq_some_iff.mpr ⟨inside, here⟩
  have second : ids[j]? = some (some k) := List.getElem?_eq_some_iff.mpr ⟨inside', there⟩
  exact Nat.ne_of_lt later (numbered.once first second)

/-- Numbers have to be left, or nothing could number the entries as they should be. -/
theorem Numbered.spare (numbered : Numbered l ids) :
    EnoughFree (numbers l) (l.countP (·.number.isNone)) := by
  have firsts : (l.zip ids).map (·.1) = l := List.map_fst_zip (Nat.le_of_eq numbered.fits.symm)
  have seconds : (l.zip ids).map (·.2) = ids := List.map_snd_zip (Nat.le_of_eq numbered.fits)
  have entries {c : Connector} {given : Option Int32} (among : (c, given) ∈ l.zip ids) :
      ∃ i : Nat, l[i]? = some c ∧ ids[i]? = some given := by
    obtain ⟨i, there⟩ := List.mem_iff_getElem?.mp among
    exact ⟨i, List.getElem?_zip_eq_some.mp there⟩
  -- the numbers that were given are so many, and nobody carries them
  let free := ((l.zip ids).filter fun p => p.1.number.isNone).filterMap (·.2)
  refine ⟨free, ?_, ?_, fun k among => ?_⟩
  · have part : free.Sublist (ids.filterMap id) := by
      conv_rhs => rw [← seconds, List.filterMap_map]
      exact List.filter_sublist.filterMap _
    exact part.nodup numbered.distinct
  · rw [List.length_filterMap_eq_countP, List.countP_filter]
    conv_lhs => rw [← firsts, List.countP_map]
    refine List.countP_mono_left fun p among bare => ?_
    obtain ⟨i, entry, here⟩ := entries among
    obtain ⟨k, there, -⟩ := numbered.given i p.1 entry (Option.isNone_iff_eq_none.mp bare)
    rw [Option.some.inj (here.symm.trans there)]
    exact bare
  · obtain ⟨⟨c, given⟩, among, rfl⟩ := List.mem_filterMap.mp among
    obtain ⟨among, bare⟩ := List.mem_filter.mp among
    obtain ⟨i, entry, here⟩ := entries among
    rcases numbered.source entry here with carries | ⟨-, smallest⟩
    · rw [carries] at bare
      nomatch bare
    · exact ⟨smallest.nonneg, smallest.free⟩

theorem Smallest.unique {other : List (Option Int32)} {m : Int32}
    (smallest : Smallest taken l ids i k)
    (same : ∀ n, GivenBefore l ids i n ↔ GivenBefore l other i n)
    (smallest' : Smallest taken l other i m) : k = m := by
  refine Int32.toInt_inj.mp ?_
  rcases Int.lt_trichotomy k.toInt m.toInt with below | equal | below
  · rcases smallest'.least k smallest.nonneg below with held | given
    · exact absurd held smallest.free
    · exact absurd ((same k).mpr given) smallest.fresh
  · exact equal
  · rcases smallest.least m smallest'.nonneg below with held | given
    · exact absurd held smallest'.free
    · exact absurd ((same m).mp given) smallest'.fresh

/-- There is at most one way to number entries as they should be. -/
theorem Numbered.unique {other : List (Option Int32)} (numbered : Numbered l ids)
    (renumbered : Numbered l other) : ids = other := by
  refine List.ext_getElem? fun i => ?_
  induction i using Nat.strongRecOn with
  | ind i earlier =>
      -- so far the same numbers were given, so the same one is the smallest
      have same (k : Int32) : GivenBefore l ids i k ↔ GivenBefore l other i k := by
        constructor <;> rintro ⟨j, c, below, entry, bare, here⟩
        · exact ⟨j, c, below, entry, bare, earlier j below ▸ here⟩
        · exact ⟨j, c, below, entry, bare, (earlier j below).symm ▸ here⟩
      cases entry : l[i]? with
      | none =>
          have outside := List.getElem?_eq_none_iff.mp entry
          rw [List.getElem?_eq_none (numbered.fits.symm ▸ outside),
            List.getElem?_eq_none (renumbered.fits.symm ▸ outside)]
      | some c =>
          cases number : c.number with
          | some k =>
              by_cases before : CarriedBefore l i k
              · rw [numbered.repeated i c k entry number before,
                  renumbered.repeated i c k entry number before]
              · rw [numbered.first i c k entry number before,
                  renumbered.first i c k entry number before]
          | none =>
              obtain ⟨k, here, smallest⟩ := numbered.given i c entry number
              obtain ⟨m, there, smallest'⟩ := renumbered.given i c entry number
              rw [here, there, smallest.unique same smallest']

/-- What is assigned is the one way to number the entries, and there is one as long as
    numbers are left. -/
theorem numbered_iff :
    Numbered l ids ↔ EnoughFree (numbers l) (l.countP (·.number.isNone)) ∧ ids = assigned l := by
  constructor
  · intro numbered
    exact ⟨numbered.spare, numbered.unique (numbered_assigned numbered.spare)⟩
  · rintro ⟨spare, rfl⟩
    exact numbered_assigned spare

/-! ### The entries reported -/

/-- What is reported of an entry under a number, apart from the mark of the primary panel. -/
def entry (c : Connector) (k : Int32) : Entry :=
  ⟨k, c.variant, c.connected, false, c.name⟩

/-- An entry of a report without the mark of the primary panel. -/
def unmarked (e : Entry) : Entry :=
  { e with primary := false }

theorem markPrimary_unmarked (l : List (Int32 × Connector)) (found : Bool) :
    (markPrimary l found).map unmarked = l.map fun p => p.2.entry p.1 := by
  induction l generalizing found with
  | nil => rfl
  | cons p rest ih => exact congrArg (p.2.entry p.1 :: ·) (ih _)

theorem mem_reported_iff :
    (k, c) ∈ reported l ↔ ∃ i : Nat, l[i]? = some c ∧ (assigned l)[i]? = some (some k) := by
  unfold reported
  rw [List.mem_filterMap]
  constructor
  · rintro ⟨⟨d, given⟩, among, same⟩
    obtain ⟨id, rfl, same⟩ := Option.map_eq_some_iff.mp same
    obtain ⟨rfl, rfl⟩ := Prod.mk.inj same
    obtain ⟨i, there⟩ := List.mem_iff_getElem?.mp among
    exact ⟨i, List.getElem?_zip_eq_some.mp there⟩
  · rintro ⟨i, there, here⟩
    exact ⟨(c, some k), List.mem_of_getElem? (List.getElem?_zip_eq_some.mpr ⟨there, here⟩), rfl⟩

theorem reported_numbers (same : (assigned l).length = l.length) :
    (reported l).map (·.1) = (assigned l).filterMap id := by
  have seconds : (l.zip (assigned l)).map (·.2) = assigned l := List.map_snd_zip (Nat.le_of_eq same)
  conv_rhs => rw [← seconds, List.filterMap_map]
  unfold reported
  rw [List.map_filterMap]
  refine List.filterMap_congr fun p _ => ?_
  obtain ⟨c, _ | k⟩ := p <;> rfl

/-- What is reported of numbered entries: each that has a number, once and under that
    number, and nothing else. -/
structure Reports (t : Topology) (l : List Connector) (ids : List (Option Int32)) : Prop where
  once : ∀ (i j : Nat) (k : Int32), ids[i]? = some (some k) → ids[j]? = some (some k) → i = j
  all : ∀ (i : Nat) (c : Connector) (k : Int32), l[i]? = some c → ids[i]? = some (some k) →
    ∃ e, t.find? k = some e ∧ unmarked e = c.entry k
  only : ∀ (k : Int32) (e : Entry), t.find? k = some e →
    ∃ (i : Nat) (c : Connector), l[i]? = some c ∧ ids[i]? = some (some k) ∧ unmarked e = c.entry k

end Connector

theorem Topology.find?_foldl_insert (l : List Entry) (t : Topology) (k : Int32) :
    (l.foldl Topology.insert t).find? k = (l.reverse.find? (·.id = k)).or (t.find? k) := by
  induction l generalizing t with
  | nil => rfl
  | cons e rest ih =>
      rw [List.foldl_cons, ih, Topology.find?_insert, List.reverse_cons, List.find?_append,
        Option.or_assoc]
      congr 1
      by_cases here : e.id = k <;> simp [here]

/-- Entries with different numbers are all found. -/
theorem Topology.find?_ofList_iff {l : List Entry} (distinct : (l.map (·.id)).Nodup) {k : Int32}
    {e : Entry} : (Topology.ofList l).find? k = some e ↔ e ∈ l ∧ e.id = k := by
  have found : (Topology.ofList l).find? k = l.reverse.find? (·.id = k) := by
    rw [Topology.ofList, Topology.find?_foldl_insert]
    exact Option.or_none
  rw [found]
  constructor
  · intro there
    exact ⟨List.mem_reverse.mp (List.mem_of_find?_eq_some there),
      by simpa using List.find?_some there⟩
  · rintro ⟨among, rfl⟩
    obtain ⟨other, there⟩ := Option.isSome_iff_exists.mp
      (List.find?_isSome (p := fun a : Entry => decide (a.id = e.id)) |>.mpr
        ⟨e, List.mem_reverse.mpr among, decide_eq_true rfl⟩)
    have same : other.id = e.id := by simpa using List.find?_some there
    have member := List.mem_reverse.mp (List.mem_of_find?_eq_some there)
    rw [there, List.inj_on_of_nodup_map distinct member among same]

namespace Connector

theorem distinct_markPrimary {l : List Connector} (numbered : Numbered l (assigned l)) :
    ((markPrimary (reported l) false).map (·.id)).Nodup := by
  have numbers : (markPrimary (reported l) false).map (·.id) = (reported l).map (·.1) := by
    simpa [Function.comp_def, unmarked, entry] using
      congrArg (List.map (·.id)) (markPrimary_unmarked (reported l) false)
  rw [numbers, reported_numbers numbered.fits]
  exact numbered.distinct

/-- No entry that has a number is lost. -/
theorem reports_topology {l : List Connector} (numbered : Numbered l (assigned l)) :
    Reports (topology l) l (assigned l) := by
  have marked := markPrimary_unmarked (reported l) false
  have distinct := distinct_markPrimary numbered
  refine ⟨fun i j k => numbered.once, fun i c k there here => ?_, fun k e found => ?_⟩
  · have among : c.entry k ∈ (markPrimary (reported l) false).map unmarked :=
      marked ▸ List.mem_map_of_mem (mem_reported_iff.mpr ⟨i, there, here⟩)
    obtain ⟨e, member, same⟩ := List.mem_map.mp among
    exact ⟨e, (Topology.find?_ofList_iff distinct).mpr ⟨member, congrArg Entry.id same⟩, same⟩
  · obtain ⟨member, rfl⟩ := (Topology.find?_ofList_iff distinct).mp found
    have among : unmarked e ∈ (reported l).map fun p => p.2.entry p.1 :=
      marked ▸ List.mem_map_of_mem member
    obtain ⟨⟨k, c⟩, within, same⟩ := List.mem_map.mp among
    obtain rfl : k = e.id := congrArg Entry.id same
    obtain ⟨i, there, here⟩ := mem_reported_iff.mp within
    exact ⟨i, c, there, here, same.symm⟩

end Connector

end DisplayHub
