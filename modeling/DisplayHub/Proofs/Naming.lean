import DisplayHub.Connector
import Mathlib.Data.List.Basic

/-!
# Naming Entries

Which names are names of connector entries, and what is read from them.

A name is divided twice: at its first hyphen, which ends the card, and then what is left at
its last one, which starts the running number. The type is what lies between and may have
hyphens of its own. Nothing in the two divisions says that they meet at different hyphens,
or that there are two. That the second one looks only at what the first one left is what
keeps them apart, and a name with one hyphen has none left to look for.

`EntryName` says the same without dividing anything, as four texts put together. The two
agree because there is one hyphen only that can be the first and one only that can be the
last: the text behind the word `card` has none by what it is, and the running number has
none because no numeral does (`Text.not_mem_of_readUInt32`). So the parts of a name are
determined by it.

## Main definitions

* `Connector.EntryName`: A name put together from its parts.

## Theorems

* `Connector.splitFirst_eq_some_iff`, `Connector.splitLast_eq_some_iff`: The two divisions.
* `Text.readUInt32_eq_some_iff`: The texts that are numerals.
* `Connector.splitName_eq_some_iff`, `Connector.splitName_eq_none_iff`: The names that are
  read from, and those that are refused.
* `Connector.EntryName.unique`: A name has its parts in one way only.
* `Connector.EntryName.cut`: A name is cut at its first hyphen.
* `Connector.splitName_exact`: What is read from any name.
-/

namespace DisplayHub

/-! ### Numerals -/

namespace Text

/-- The digits of base ten are those from zero to nine, and letters are none of them. -/
theorem digitValue_ten_eq_some_iff {c : Char} {d : Nat} :
    digitValue 10 c = some d ↔ c.isDigit = true ∧ d = c.toNat - '0'.toNat := by
  have order (a b : Char) : a ≤ b ↔ a.toNat ≤ b.toNat := by
    rw [Char.le_def, UInt32.le_iff_toNat_le]
    rfl
  simp only [digitValue, order, Char.isDigit_iff_toNat, Char.reduceToNat]
  split
  · simp only [Option.ite_none_right_eq_some, Option.some.injEq]
    omega
  · simp only [Option.ite_none_right_eq_some, Option.some.injEq]
    split
    · omega
    · split <;> omega

/-- Reading decimal digits onto a number already begun. -/
theorem pushDigits_ten_eq_some_iff {s : List Char} {m n : Nat} :
    pushDigits 10 m s = some n ↔ (∀ c ∈ s, c.isDigit = true) ∧ n = Nat.ofDigitChars 10 s m := by
  induction s generalizing m with
  | nil =>
      rw [pushDigits, Option.some.injEq, Nat.ofDigitChars_nil]
      exact ⟨fun same => ⟨List.forall_mem_nil _, same.symm⟩, fun written => written.2.symm⟩
  | cons c s ih =>
      rw [pushDigits, List.forall_mem_cons, Nat.ofDigitChars_cons]
      cases valued : digitValue 10 c with
      | none =>
          refine iff_of_false (Option.some_ne_none n).symm fun written => ?_
          have first := digitValue_ten_eq_some_iff.mpr ⟨written.1.1, rfl⟩
          exact Option.some_ne_none _ (first.symm.trans valued)
      | some d =>
          obtain ⟨digit, rfl⟩ := digitValue_ten_eq_some_iff.mp valued
          rw [ih, Nat.mul_comm m 10, and_iff_right digit]

theorem natOfDigits_ten_eq_some_iff {s : List Char} {n : Nat} :
    natOfDigits 10 s = some n ↔
      s ≠ [] ∧ (∀ c ∈ s, c.isDigit = true) ∧ n = Nat.ofDigitChars 10 s 0 := by
  cases s with
  | nil => exact ⟨nofun, fun written => absurd rfl written.1⟩
  | cons c s =>
      rw [natOfDigits, pushDigits_ten_eq_some_iff]
      exact (and_iff_right (List.cons_ne_nil c s)).symm

/-- A numeral of 32 bits without sign is a row of decimal digits, with a plus or without,
    whose number has the width. -/
theorem readUInt32_eq_some_iff {s : List Char} {k : UInt32} :
    readUInt32 s = some k ↔
      ∃ sign digits, (sign = [] ∨ sign = ['+']) ∧ digits ≠ [] ∧ (∀ c ∈ digits, c.isDigit = true) ∧
        k.toNat = Nat.ofDigitChars 10 digits 0 ∧ s = sign ++ digits := by
  have wide (n : Nat) : n < 0x100000000 ∧ UInt32.ofNat n = k ↔ k.toNat = n := by
    constructor
    · rintro ⟨fits, rfl⟩
      exact UInt32.toNat_ofNat_of_lt fits
    · rintro rfl
      exact ⟨k.toNat_lt, UInt32.ofNat_toNat⟩
  rw [readUInt32, Option.map_eq_some_iff]
  simp only [readNat_signed_iff, natOfDigits_ten_eq_some_iff]
  constructor
  · rintro ⟨n, ⟨fits, sign, digits, signed, ⟨some_, row, written⟩, whole⟩, value⟩
    exact ⟨sign, digits, signed, some_, row, written ▸ (wide n).mp ⟨fits, value⟩, whole⟩
  · rintro ⟨sign, digits, signed, some_, row, written, whole⟩
    obtain ⟨fits, value⟩ := (wide _).mpr written
    exact ⟨_, ⟨fits, sign, digits, signed, ⟨some_, row, rfl⟩, whole⟩, value⟩

/-- A hyphen is in no numeral without sign. -/
theorem not_mem_of_readUInt32 {s : List Char} {k : UInt32} (read : readUInt32 s = some k) :
    '-' ∉ s := by
  obtain ⟨sign, digits, signed, -, row, -, rfl⟩ := readUInt32_eq_some_iff.mp read
  intro among
  rcases List.mem_append.mp among with before | digit
  · rcases signed with rfl | rfl
    · nomatch before
    · exact absurd (List.mem_singleton.mp before) (by decide)
  · exact absurd (row _ digit) (by decide)

end Text

namespace Connector

/-! ### Dividing at a hyphen -/

section Divide

variable {s t front back : List Char}

/-- What has no hyphen and stands in front stays in front. -/
theorem splitFirst_append (plain : '-' ∉ s) (t : List Char) :
    splitFirst (s ++ t) = (splitFirst t).map fun p => (s ++ p.1, p.2) := by
  induction s with
  | nil => exact Option.map_id'.symm
  | cons c s ih =>
      obtain ⟨other, plain⟩ := not_or.mp (List.mem_cons.not.mp plain)
      rw [List.cons_append, splitFirst, ih plain, Option.map_map]
      · rfl
      · exact fun same => other same.symm

/-- A text is divided with no hyphen in front. -/
theorem splitFirst_eq_some_iff :
    splitFirst s = some (front, back) ↔ '-' ∉ front ∧ s = front ++ '-' :: back := by
  constructor
  · intro divided
    fun_induction splitFirst s generalizing front with
    | case1 => nomatch divided
    | case2 rest =>
        obtain ⟨rfl, rfl⟩ := Prod.mk.inj (Option.some.inj divided)
        exact ⟨List.not_mem_nil, rfl⟩
    | case3 c rest other ih =>
        obtain ⟨p, later, same⟩ := Option.map_eq_some_iff.mp divided
        obtain ⟨rfl, rfl⟩ := Prod.mk.inj same
        obtain ⟨plain, rfl⟩ := ih later
        exact ⟨List.not_mem_cons_of_ne_of_not_mem (Ne.symm other) plain, rfl⟩
  · rintro ⟨plain, rfl⟩
    rw [splitFirst_append plain, splitFirst, Option.map_some, List.append_nil]

/-- A text is divided with no hyphen behind. -/
theorem splitLast_eq_some_iff :
    splitLast s = some (front, back) ↔ '-' ∉ back ∧ s = front ++ '-' :: back := by
  unfold splitLast
  rw [Option.map_eq_some_iff]
  constructor
  · rintro ⟨⟨first, last⟩, divided, same⟩
    obtain ⟨rfl, rfl⟩ := Prod.mk.inj same
    obtain ⟨plain, reversed⟩ := splitFirst_eq_some_iff.mp divided
    exact ⟨List.mem_reverse.not.mpr plain, List.reverse_injective (by simpa using reversed)⟩
  · rintro ⟨plain, rfl⟩
    refine ⟨(back.reverse, front.reverse), splitFirst_eq_some_iff.mpr ⟨?_, ?_⟩, by simp⟩
    · exact List.mem_reverse.not.mpr plain
    · simp

end Divide

/-! ### Names and their parts -/

/-- A name put together from its parts: the word `card` and what more the card is called, the
    type of the connector, and its running number. -/
structure EntryName (name card type index : List Char) : Prop where
  plain : '-' ∉ card
  named : type ≠ []
  numeral : ∃ k, Text.readUInt32 index = some k
  whole : name = ['c', 'a', 'r', 'd'] ++ card ++ '-' :: (type ++ '-' :: index)

section Parts

variable {name card type index card' type' index' connector : List Char}

/-- What comes before the first hyphen of a name. -/
theorem EntryName.front (parts : EntryName name card type index) :
    '-' ∉ ['c', 'a', 'r', 'd'] ++ card := by
  rw [List.mem_append, not_or]
  exact ⟨by decide, parts.plain⟩

theorem EntryName.splitFirst (parts : EntryName name card type index) :
    splitFirst name = some (['c', 'a', 'r', 'd'] ++ card, type ++ '-' :: index) :=
  splitFirst_eq_some_iff.mpr ⟨parts.front, parts.whole⟩

theorem EntryName.splitLast (parts : EntryName name card type index) :
    splitLast (type ++ '-' :: index) = some (type, index) := by
  obtain ⟨k, read⟩ := parts.numeral
  exact splitLast_eq_some_iff.mpr ⟨Text.not_mem_of_readUInt32 read, rfl⟩

/-- A name has its parts in one way only, however many hyphens its type has. -/
theorem EntryName.unique (parts : EntryName name card type index)
    (others : EntryName name card' type' index') :
    card = card' ∧ type = type' ∧ index = index' := by
  have first := parts.splitFirst.symm.trans others.splitFirst
  obtain ⟨same, rest⟩ := Prod.mk.inj (Option.some.inj first)
  -- the first hyphen fixes the card, and the last one of the rest the type
  have last := parts.splitLast
  rw [rest, others.splitLast] at last
  obtain ⟨rfl, rfl⟩ := Prod.mk.inj (Option.some.inj last)
  exact ⟨List.append_cancel_left same, rfl, rfl⟩

/-- A name is read from exactly if it is put together so, and what is read are its type and
    all that follows the card. -/
theorem splitName_eq_some_iff : splitName name = some (type, connector) ↔
    ∃ card index, EntryName name card type index ∧ connector = type ++ '-' :: index := by
  unfold splitName
  constructor
  · intro divided
    split at divided
    · next starts =>
        obtain ⟨t, rfl⟩ := List.isPrefixOf_iff_prefix.mp starts
        simp only [Option.bind_eq_bind, Option.bind_eq_some_iff] at divided
        obtain ⟨⟨front, rest⟩, first, ⟨kind, index⟩, last, kept⟩ := divided
        split at kept
        · nomatch kept
        · next good =>
            obtain ⟨rfl, rfl⟩ := Prod.mk.inj (Option.some.inj kept)
            obtain ⟨named, numeral⟩ := not_or.mp good
            -- the word is in front of the first hyphen, so that one divides what follows it
            rw [splitFirst_append (by decide)] at first
            obtain ⟨⟨card, behind⟩, later, same⟩ := Option.map_eq_some_iff.mp first
            obtain ⟨rfl, rfl⟩ := Prod.mk.inj same
            obtain ⟨plain, rfl⟩ := splitFirst_eq_some_iff.mp later
            obtain ⟨-, rfl⟩ := splitLast_eq_some_iff.mp last
            exact ⟨card, index, ⟨plain, named, Option.ne_none_iff_exists'.mp numeral,
              (List.append_assoc _ _ _).symm⟩, rfl⟩
    · nomatch divided
  · rintro ⟨card, index, parts, rfl⟩
    have starts : ['c', 'a', 'r', 'd'].isPrefixOf name = true := by
      rw [List.isPrefixOf_iff_prefix, parts.whole, List.append_assoc]
      exact List.prefix_append _ _
    have good : ¬ (type = [] ∨ Text.readUInt32 index = none) :=
      not_or.mpr ⟨parts.named, Option.ne_none_iff_exists'.mpr parts.numeral⟩
    simp only [starts, if_true, parts.splitFirst, Option.bind_eq_bind, Option.bind_some,
      parts.splitLast, if_neg good]

/-- All other names are refused. -/
theorem splitName_eq_none_iff : splitName name = none ↔
    ∀ card type index, ¬ EntryName name card type index := by
  rw [Option.eq_none_iff_forall_ne_some]
  constructor
  · intro refused card type index parts
    exact refused _ (splitName_eq_some_iff.mpr ⟨card, index, parts, rfl⟩)
  · rintro none_ ⟨type, connector⟩ divided
    obtain ⟨card, index, parts, -⟩ := splitName_eq_some_iff.mp divided
    exact none_ card type index parts

/-- What is before the first hyphen of a name, a hyphen, and what is behind it. -/
theorem EntryName.cut (parts : EntryName name card type index) :
    name = name.takeWhile (· ≠ '-') ++ '-' :: (type ++ '-' :: index) := by
  have front : name.takeWhile (· ≠ '-') = ['c', 'a', 'r', 'd'] ++ card := by
    have before : ∀ c ∈ ['c', 'a', 'r', 'd'] ++ card, decide (c ≠ '-') = true := by
      intro c among
      exact decide_eq_true fun same => parts.front (same ▸ among)
    rw [parts.whole, List.takeWhile_append_of_pos before]
    exact List.append_nil _
  rw [front]
  exact parts.whole

end Parts

/-- What is read from any name. The type and the rest behind the card are read exactly if the
    name is put together from parts so, all other names are refused, and no name has its parts
    in two ways. What a name is read from is what stands before its first hyphen, a hyphen, and
    the rest that is read. The running number is a row of decimal digits, with a plus or
    without, that fits in 32 bits. -/
theorem splitName_exact (name : List Char) :
    (∀ type connector, splitName name = some (type, connector) ↔
      ∃ card index, EntryName name card type index ∧ connector = type ++ '-' :: index) ∧
    (splitName name = none ↔ ∀ card type index, ¬ EntryName name card type index) ∧
    (∀ card type index card' type' index', EntryName name card type index →
      EntryName name card' type' index' → card = card' ∧ type = type' ∧ index = index') ∧
    (∀ type connector, splitName name = some (type, connector) →
      name = name.takeWhile (· ≠ '-') ++ '-' :: connector) ∧
    ∀ index k, Text.readUInt32 index = some k ↔
      ∃ sign digits, (sign = [] ∨ sign = ['+']) ∧ digits ≠ [] ∧ (∀ c ∈ digits, c.isDigit = true) ∧
        k.toNat = Nat.ofDigitChars 10 digits 0 ∧ index = sign ++ digits := by
  refine ⟨fun type connector => splitName_eq_some_iff, splitName_eq_none_iff,
    fun card type index card' type' index' parts others => parts.unique others,
    fun type connector divided => ?_, fun index k => Text.readUInt32_eq_some_iff⟩
  obtain ⟨card, index, parts, rfl⟩ := splitName_eq_some_iff.mp divided
  exact parts.cut

/-- A type that starts with a hyphen, has two more side by side, and is followed by a number
    with a plus and with zeros in front. -/
theorem splitName_exact_hyphens :
    let name := "card1--DVI--I-+007".toList
    let type := "-DVI--I".toList
    splitName name = some (type, type ++ '-' :: "+007".toList) ∧
      EntryName name ['1'] type "+007".toList ∧
      (∀ card type' index, EntryName name card type' index →
        card = ['1'] ∧ type' = type ∧ index = "+007".toList) ∧
      name = "card1".toList ++ '-' :: (type ++ '-' :: "+007".toList) := by
  intro name type
  obtain ⟨reads, -, unique, cut, numeral⟩ := splitName_exact name
  have number : Text.readUInt32 "+007".toList = some 7 :=
    (numeral _ _).mpr ⟨['+'], ['0', '0', '7'], .inr rfl, by decide, by simp, rfl, rfl⟩
  have parts : EntryName name ['1'] type "+007".toList :=
    ⟨by decide, by decide, ⟨7, number⟩, by decide⟩
  have read := (reads _ _).mpr ⟨_, _, parts, rfl⟩
  exact ⟨read, parts, fun card type' index others => unique _ _ _ _ _ _ others parts, cut _ _ read⟩

end Connector

end DisplayHub
