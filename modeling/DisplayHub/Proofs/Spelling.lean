import DisplayHub.Proofs.Flags
import Mathlib.Data.List.Forall2
import Mathlib.Data.List.Nodup
import Mathlib.Data.List.TakeWhile
import Mathlib.Data.Nat.Digits.Defs

/-!
# Spellings of a Set of Capabilities

Which texts name a set of capabilities, and which of them is the one that is
written.

Reading cuts the space off, divides at the bars, cuts the space off again, and
gives up at the first part that names nothing. None of this order matters, and a
description of the texts should not have it. So a text is described by its parts
(`Dissects`): what stands between the bars, each without the space around it.
Whether it is read depends on whether every part names something (`Denotes`),
and what is read has the bits that the parts name. Both only ask which parts
there are, so it does not matter in what order they stand or how often.

A text of nothing but space is the one exception. It has one part, which is
empty and names nothing, and is read all the same.

The text that is written is canonical: names in the order of their bits, and
then one number for the bits without a name. That there is no other canonical
text for a set needs what reading back needed, and from the other side. A name
that is in the text takes one bit, so it is found in the set again, and no other
name is.

## Main definitions

* `Text.Blank`, `Text.Trims`: Space, and a text without the space around it.
* `Text.Hex`: A row of hexadecimal digits and the number they write.
* `Capabilities.Divides`, `Capabilities.Dissects`: What stands between the bars
  of a text, and its parts.
* `Capabilities.Denotes`: What one part names.
* `Capabilities.Canonical`: The form in which sets are written.

## Theorems

* `Text.trims_iff`, `Text.natOfDigits_eq_some_iff`: What is cut off, and the
  digits of a number.
* `Capabilities.divides_iff`, `Capabilities.split_trim`: Dividing a text.
* `Capabilities.readPart_eq_some_iff`, `Capabilities.readBy_parts`: What a part
  names, and what a text does.
* `Capabilities.canonical_iff`: The one canonical text of a set.
* `Capabilities.spelled`: All of it together.
-/

namespace DisplayHub

namespace Text

/-! ### Space around a text -/

/-- A text of nothing but space. -/
def Blank (s : List Char) : Prop :=
  ∀ c ∈ s, isBlank c = true

/-- A text without the space around it. -/
structure Trims (s t : List Char) : Prop where
  around : ∃ front back, Blank front ∧ Blank back ∧ s = front ++ (t ++ back)
  first : ∀ c ∈ t.head?, isBlank c = false
  last : ∀ c ∈ t.getLast?, isBlank c = false

theorem trimStart_append {front : List Char} (blank : Blank front) (s : List Char) :
    trimStart (front ++ s) = trimStart s :=
  List.dropWhile_append_of_pos blank

theorem blank_reverse {s : List Char} (blank : Blank s) : Blank s.reverse :=
  fun c member => blank c (List.mem_reverse.mp member)

/-- A text that does not start with space is left alone at its start. -/
theorem trimStart_of_first {s : List Char} (first : ∀ c ∈ s.head?, isBlank c = false) :
    trimStart s = s := by
  cases s with
  | nil => rfl
  | cons c s => exact trimStart_eq_self (first c rfl)

theorem trimStart_first (s : List Char) : ∀ c ∈ (trimStart s).head?, isBlank c = false := by
  intro c starts
  have stopped := List.head?_dropWhile_not isBlank s
  unfold trimStart at starts
  rw [Option.mem_def.mp starts] at stopped
  simpa using stopped

/-- Space comes before what is left of a text, and nothing else does. -/
theorem blank_before_trimStart (s : List Char) : ∃ front, Blank front ∧ s = front ++ trimStart s :=
  ⟨s.takeWhile isBlank, fun _ member => List.mem_takeWhile_imp member,
    List.takeWhile_append_dropWhile.symm⟩

/-- Trimming finds the text without the space around it, and there is no other. -/
theorem trims_iff {s t : List Char} : Trims s t ↔ trim s = t := by
  constructor
  · rintro ⟨⟨front, back, before, behind, rfl⟩, first, last⟩
    -- what is empty leaves nothing, and anything else stops the cutting at both ends
    cases t with
    | nil =>
        have blank : Blank (front ++ ([] ++ back)) := fun c member =>
          (List.mem_append.mp member).elim (before c) (behind c)
        have gone := trimStart_append blank []
        rw [List.append_nil] at gone
        rw [trim, gone]
        rfl
    | cons c t =>
        have head : trimStart (front ++ (c :: t ++ back)) = c :: t ++ back := by
          rw [trimStart_append before]
          exact trimStart_eq_self (first c rfl)
        have tail : trimStart (c :: t ++ back).reverse = (c :: t).reverse := by
          rw [List.reverse_append, trimStart_append (blank_reverse behind)]
          refine trimStart_of_first fun d starts => last d ?_
          rwa [List.head?_reverse] at starts
        rw [trim, head, tail, List.reverse_reverse]
  · rintro rfl
    obtain ⟨front, before, starts⟩ := blank_before_trimStart s
    obtain ⟨back, behind, ends⟩ := blank_before_trimStart (trimStart s).reverse
    have whole : trimStart s = trim s ++ back.reverse := by
      have turned := congrArg List.reverse ends
      rwa [List.reverse_reverse, List.reverse_append] at turned
    refine ⟨⟨front, back.reverse, before, blank_reverse behind, ?_⟩, fun c starts => ?_,
      fun c ends => ?_⟩
    · rw [← whole, ← starts]
    · -- what a trimmed text starts with, it started with before its end was cut off
      refine trimStart_first s c ?_
      rw [whole, List.head?_append, Option.mem_def.mp starts]
      rfl
    · refine trimStart_first (trimStart s).reverse c ?_
      rwa [trim, List.getLast?_reverse] at ends

theorem trims_trim (s : List Char) : Trims s (trim s) :=
  trims_iff.mpr rfl

/-- Nothing is left of a text exactly if it is nothing but space. -/
theorem trim_eq_nil_iff {s : List Char} : trim s = [] ↔ Blank s := by
  constructor
  · intro gone
    obtain ⟨⟨front, back, before, behind, rfl⟩, -, -⟩ := trims_iff.mpr gone
    exact fun c member => (List.mem_append.mp member).elim (before c) (behind c)
  · exact fun blank => trims_iff.mp ⟨⟨s, [], blank, nofun, by simp⟩, nofun, nofun⟩

/-- Space around a text is cut off with the rest. -/
theorem trim_surround {front back : List Char} (before : Blank front) (behind : Blank back)
    (s : List Char) : trim (front ++ (s ++ back)) = trim s := by
  obtain ⟨⟨early, late, blank, also, whole⟩, first, last⟩ := trims_trim s
  refine trims_iff.mp ⟨⟨front ++ early, late ++ back, ?_, ?_, ?_⟩, first, last⟩
  · exact fun c member => (List.mem_append.mp member).elim (before c) (blank c)
  · exact fun c member => (List.mem_append.mp member).elim (also c) (behind c)
  · conv_lhs => rw [whole]
    simp only [List.append_assoc]

/-! ### Hexadecimal numbers -/

/-- A hexadecimal digit, in either case, and its value. -/
def HexDigit (c : Char) (d : Nat) : Prop :=
  d < 16 ∧ (c = Nat.digitChar d ∨ c = (Nat.digitChar d).toUpper)

instance (c : Char) (d : Nat) : Decidable (HexDigit c d) :=
  inferInstanceAs (Decidable (_ ∧ _))

/-- A row of hexadecimal digits, and the number that they write. -/
def Hex (s : List Char) (n : Nat) : Prop :=
  s ≠ [] ∧ ∃ digits, List.Forall₂ HexDigit s digits ∧ n = Nat.ofDigits 16 digits.reverse

theorem digitValue_eq_some_iff {c : Char} {d : Nat} : digitValue 16 c = some d ↔ HexDigit c d := by
  constructor
  · intro valued
    -- a digit is an ASCII character, and of those there are few
    have ascii : c.toNat < 128 := by
      by_contra beyond
      have outside : ¬ c ≤ '9' ∧ ¬ c ≤ 'f' ∧ ¬ c ≤ 'F' := by
        simp only [Char.le_def, UInt32.le_iff_toNat_le]
        change ¬ c.toNat ≤ 57 ∧ ¬ c.toNat ≤ 102 ∧ ¬ c.toNat ≤ 70
        omega
      simp [digitValue, outside] at valued
    have all : ∀ n : Fin 128, ∀ d ∈ digitValue 16 (Char.ofNat n), HexDigit (Char.ofNat n) d := by
      decide
    have shown := all ⟨c.toNat, ascii⟩ d
    rw [Char.ofNat_toNat] at shown
    exact shown valued
  · rintro ⟨small, rfl | rfl⟩
    · exact digitValue_digitChar (Nat.le_refl 16) small
    · have all : ∀ d : Fin 16, digitValue 16 (Nat.digitChar d).toUpper = some d.val := by decide
      exact all ⟨d, small⟩

/-- Reading digits onto a number moves it up by their count. -/
theorem pushDigits_eq_some_iff {s : List Char} {m n : Nat} : pushDigits 16 m s = some n ↔
    ∃ digits, List.Forall₂ HexDigit s digits ∧
      n = Nat.ofDigits 16 digits.reverse + 16 ^ digits.length * m := by
  induction s generalizing m with
  | nil => simp [pushDigits, eq_comm]
  | cons c s ih =>
      -- the number so far is shifted by one place for each digit that follows
      have place (d : Nat) (digits : List Nat) :
          Nat.ofDigits 16 digits.reverse + 16 ^ digits.length * (m * 16 + d) =
            Nat.ofDigits 16 (d :: digits).reverse + 16 ^ (d :: digits).length * m := by
        rw [List.reverse_cons, Nat.ofDigits_append, Nat.ofDigits_singleton, List.length_reverse,
          List.length_cons, pow_succ]
        ring
      rw [pushDigits]
      cases valued : digitValue 16 c with
      | none =>
          simp only [reduceCtorEq, false_iff]
          rintro ⟨digits, written, -⟩
          cases written with
          | cons first _ =>
              rw [digitValue_eq_some_iff.mpr first] at valued
              cases valued
      | some d =>
          rw [ih]
          constructor
          · rintro ⟨digits, written, rfl⟩
            exact ⟨d :: digits, .cons (digitValue_eq_some_iff.mp valued) written, place d digits⟩
          · rintro ⟨digits, written, rfl⟩
            cases written with
            | cons first rest =>
                rw [digitValue_eq_some_iff.mpr first] at valued
                obtain rfl := Option.some.inj valued
                exact ⟨_, rest, (place _ _).symm⟩

theorem natOfDigits_eq_some_iff {s : List Char} {n : Nat} :
    natOfDigits 16 s = some n ↔ Hex s n := by
  cases s with
  | nil => exact ⟨nofun, fun hex => absurd rfl hex.1⟩
  | cons c s =>
      rw [natOfDigits, pushDigits_eq_some_iff]
      simp only [Nat.mul_zero, Nat.add_zero]
      exact ⟨fun written => ⟨List.cons_ne_nil c s, written⟩, fun hex => hex.2⟩

/-- A number within a bound is read from its digits, with a plus or without. -/
theorem readNat_eq_some_iff {bound : Nat} {s : List Char} {n : Nat} :
    readNat 16 bound s = some n ↔
      n < bound ∧
        ∃ sign digits, (sign = [] ∨ sign = ['+']) ∧ Hex digits n ∧ s = sign ++ digits := by
  rw [readNat_signed_iff]
  simp only [natOfDigits_eq_some_iff]

end Text

namespace Capabilities

/-! ### The parts of a text -/

/-- What stands between the bars of a text, in its order. -/
structure Divides (s : List Char) (pieces : List (List Char)) : Prop where
  some_piece : pieces ≠ []
  whole : ∀ piece ∈ pieces, ∀ c ∈ piece, c ≠ '|'
  joined : s = ['|'].intercalate pieces

/-- The parts of a text: what stands between its bars, without the space around
    it. -/
def Dissects (s : List Char) (parts : List (List Char)) : Prop :=
  ∃ pieces, Divides s pieces ∧ List.Forall₂ Text.Trims pieces parts

theorem split_ne_nil (s : List Char) : split s ≠ [] := by
  cases s with
  | nil => exact List.cons_ne_nil _ _
  | cons c s =>
      unfold split
      split
      · exact absurd ‹_› (List.cons_ne_nil _ _)
      · exact List.cons_ne_nil _ _
      · split <;> exact List.cons_ne_nil _ _

/-- A character that is no bar goes to the first part. -/
theorem split_cons {c : Char} (other : c ≠ '|') {s p : List Char} {ps : List (List Char)}
    (rest : split s = p :: ps) : split (c :: s) = (c :: p) :: ps := by
  rw [split, rest]
  exact other

/-- Dividing a text finds what stands between its bars, and there is nothing
    else. -/
theorem divides_iff {s : List Char} {pieces : List (List Char)} :
    Divides s pieces ↔ split s = pieces := by
  constructor
  · rintro ⟨some_piece, whole, rfl⟩
    -- whatever is joined with bars comes apart at these bars, since no piece has one in it
    induction pieces with
    | nil => exact absurd rfl some_piece
    | cons p ps ih =>
        have first : ∀ c ∈ p, c ≠ '|' := whole p List.mem_cons_self
        cases ps with
        | nil => rw [List.intercalate_singleton, split_whole first]
        | cons q ps =>
            rw [List.intercalate_cons_cons, List.append_assoc, List.singleton_append,
              split_append first, ih (List.cons_ne_nil _ _) fun piece member =>
                whole piece (List.mem_cons_of_mem p member)]
  · -- and what a text comes apart into is joined to the text again
    rintro rfl
    induction s with
    | nil => exact ⟨split_ne_nil _, by simp [split], rfl⟩
    | cons c s ih =>
        obtain ⟨p, ps, rest⟩ := List.exists_cons_of_ne_nil (split_ne_nil s)
        rw [rest] at ih
        by_cases bar : c = '|'
        · subst bar
          have divided : split ('|' :: s) = [] :: p :: ps := by rw [split, rest]
          rw [divided]
          refine ⟨List.cons_ne_nil _ _, fun piece member => ?_, ?_⟩
          · rcases List.mem_cons.mp member with rfl | later
            · exact List.forall_mem_nil _
            · exact ih.whole piece later
          · rw [List.intercalate_cons_cons, List.nil_append, ← ih.joined, List.singleton_append]
        · rw [split_cons bar rest]
          refine ⟨List.cons_ne_nil _ _, fun piece member => ?_, ?_⟩
          · rcases List.mem_cons.mp member with rfl | later
            · intro d inside
              rcases List.mem_cons.mp inside with rfl | further
              · exact bar
              · exact ih.whole p List.mem_cons_self d further
            · exact ih.whole piece (List.mem_cons_of_mem p later)
          · rw [ih.joined]
            cases ps with
            | nil => rfl
            | cons q ps => rw [List.intercalate_cons_cons, List.intercalate_cons_cons]; rfl

/-- Trimming the pieces of a text gives its parts, and there are no others. -/
theorem dissects_iff {s : List Char} {parts : List (List Char)} :
    Dissects s parts ↔ (split s).map Text.trim = parts := by
  constructor
  · rintro ⟨pieces, divided, trimmed⟩
    rw [divides_iff.mp divided]
    clear divided
    induction trimmed with
    | nil => rfl
    | cons first _ ih => rw [List.map_cons, Text.trims_iff.mp first, ih]
  · rintro rfl
    refine ⟨split s, divides_iff.mpr rfl, ?_⟩
    rw [List.forall₂_map_right_iff]
    exact List.forall₂_same.mpr fun p _ => Text.trims_trim p

/-- A bar is no space. -/
theorem whole_of_blank {s : List Char} (blank : Text.Blank s) : ∀ c ∈ s, c ≠ '|' := by
  rintro c member rfl
  exact Bool.false_ne_true (blank '|' member)

/-- Text without a bar goes to the first part. -/
theorem split_append_left {front : List Char} (whole : ∀ c ∈ front, c ≠ '|') {s p : List Char}
    {ps : List (List Char)} (rest : split s = p :: ps) :
    split (front ++ s) = (front ++ p) :: ps := by
  induction front with
  | nil => exact rest
  | cons c front ih =>
      exact split_cons (whole c List.mem_cons_self) (ih fun d later =>
        whole d (List.mem_cons_of_mem c later))

/-- Space behind a text goes to its last part, which may be the first one too. -/
theorem split_append_blank {back : List Char} (blank : Text.Blank back) (s : List Char)
    {p : List Char} {ps : List (List Char)} (divided : split s = p :: ps) :
    ∃ x qs, Text.Blank x ∧ split (s ++ back) = (p ++ x) :: qs ∧
      qs.map Text.trim = ps.map Text.trim := by
  induction s generalizing p ps with
  | nil =>
      obtain ⟨rfl, rfl⟩ := List.cons.inj divided
      exact ⟨back, [], blank, split_whole (whole_of_blank blank), rfl⟩
  | cons c s ih =>
      obtain ⟨q, qs, rest⟩ := List.exists_cons_of_ne_nil (split_ne_nil s)
      obtain ⟨x, rs, space, longer, same⟩ := ih rest
      by_cases bar : c = '|'
      · subst bar
        rw [split, rest] at divided
        obtain ⟨rfl, rfl⟩ := List.cons.inj divided
        have empty : Text.Blank [] := List.forall_mem_nil _
        refine ⟨[], (q ++ x) :: rs, empty, by rw [List.cons_append, split, longer]; rfl, ?_⟩
        have last := Text.trim_surround empty space q
        rw [List.map_cons, List.map_cons, same]
        exact congrArg (· :: _) last
      · rw [split_cons bar rest] at divided
        obtain ⟨rfl, rfl⟩ := List.cons.inj divided
        exact ⟨x, rs, space, split_cons bar longer, same⟩

/-- Space around a text is not in its parts. -/
theorem split_trim (s : List Char) :
    (split (Text.trim s)).map Text.trim = (split s).map Text.trim := by
  obtain ⟨⟨front, back, before, behind, whole⟩, -, -⟩ := Text.trims_trim s
  obtain ⟨p, ps, divided⟩ := List.exists_cons_of_ne_nil (split_ne_nil (Text.trim s))
  obtain ⟨x, qs, space, longer, same⟩ := split_append_blank behind _ divided
  have around := split_append_left (whole_of_blank before) longer
  rw [← whole] at around
  rw [around, divided, List.map_cons, List.map_cons, same, Text.trim_surround before space]

/-! ### What a text names -/

/-- What one part of a text names: a flag by its name, or any set by a number. -/
inductive Denotes : List Char → Capabilities → Prop where
  | flag {flag : String × UInt32} (known : flag ∈ flags) : Denotes flag.1.toList ⟨flag.2⟩
  | number {sign digits : List Char} {n : Nat} (signed : sign = [] ∨ sign = ['+'])
      (written : Text.Hex digits n) (fits : n < 2 ^ 32) :
      Denotes ('0' :: 'x' :: (sign ++ digits)) ⟨UInt32.ofNat n⟩

theorem readPart_eq_some_iff {part : List Char} {a : Capabilities} :
    readPart part = some a ↔ Denotes part a := by
  constructor
  · intro named
    unfold readPart at named
    split at named
    · next digits =>
        obtain ⟨n, number, rfl⟩ := Option.map_eq_some_iff.mp named
        obtain ⟨fits, sign, digits, signed, written, rfl⟩ := Text.readNat_eq_some_iff.mp number
        exact .number signed written fits
    · obtain ⟨flag, found, rfl⟩ := Option.map_eq_some_iff.mp named
      have same : flag.1 = String.ofList part := by simpa using List.find?_some found
      have text : part = flag.1.toList := by rw [same, String.toList_ofList]
      rw [text]
      exact .flag (List.mem_of_find?_eq_some found)
  · rintro (known | ⟨signed, written, fits⟩)
    · exact readPart_flags _ known
    · have number := Text.readNat_eq_some_iff.mpr ⟨fits, _, _, signed, written, rfl⟩
      rw [readPart, show 0x100000000 = 2 ^ 32 from rfl, number, Option.map_some]

/-- No part without a character names anything. -/
theorem not_denotes_nil (a : Capabilities) : ¬ Denotes [] a := by
  rw [← readPart_eq_some_iff]
  exact (by decide : readPart [] = Option.none) ▸ nofun

/-- No part names two things. -/
theorem Denotes.unique {part : List Char} {a b : Capabilities} (one : Denotes part a)
    (other : Denotes part b) : a = b := by
  rw [← readPart_eq_some_iff] at one other
  exact Option.some.inj (one.symm.trans other)

theorem readParts_cons_eq_some_iff {piece : List Char} {rest : List (List Char)}
    {a : Capabilities} : readParts (piece :: rest) = some a ↔
      ∃ c b, Denotes (Text.trim piece) c ∧ readParts rest = some b ∧ c.union b = a := by
  simp only [readParts, Option.bind_eq_bind, Option.bind_eq_some_iff, readPart_eq_some_iff,
    Option.pure_def, Option.some.injEq]
  constructor
  · rintro ⟨c, named, b, others, joined⟩
    exact ⟨c, b, named, others, joined⟩
  · rintro ⟨c, b, named, others, joined⟩
    exact ⟨c, named, b, others, joined⟩

/-- Parts are read if each of them names something. -/
theorem exists_readParts {pieces : List (List Char)}
    (named : ∀ part ∈ pieces.map Text.trim, ∃ c, Denotes part c) :
    ∃ a, readParts pieces = some a := by
  induction pieces with
  | nil => exact ⟨none, rfl⟩
  | cons piece rest ih =>
      obtain ⟨c, first⟩ := named _ List.mem_cons_self
      obtain ⟨b, others⟩ := ih fun part later => named part (List.mem_cons_of_mem _ later)
      exact ⟨c.union b, readParts_cons_eq_some_iff.mpr ⟨c, b, first, others, rfl⟩⟩

/-- Where parts are read, each of them names something. -/
theorem denotes_of_readParts {pieces : List (List Char)} {a : Capabilities}
    (done : readParts pieces = some a) : ∀ part ∈ pieces.map Text.trim, ∃ c, Denotes part c := by
  induction pieces generalizing a with
  | nil => nofun
  | cons piece rest ih =>
      obtain ⟨c, b, first, others, -⟩ := readParts_cons_eq_some_iff.mp done
      intro part member
      rcases List.mem_cons.mp member with rfl | later
      · exact ⟨c, first⟩
      · exact ih others part later

/-- And what is read has the bits that the parts name. -/
theorem bit_of_readParts {pieces : List (List Char)} {a : Capabilities}
    (done : readParts pieces = some a) (i : Nat) : a.bit i = true ↔
      ∃ part ∈ pieces.map Text.trim, ∃ c, Denotes part c ∧ c.bit i = true := by
  induction pieces generalizing a with
  | nil =>
      obtain rfl := Option.some.inj done
      simp [bit, none]
  | cons piece rest ih =>
      obtain ⟨c, b, first, others, rfl⟩ := readParts_cons_eq_some_iff.mp done
      rw [bit_union, Bool.or_eq_true, ih others, List.map_cons, List.exists_mem_cons_iff]
      refine or_congr_left ⟨fun here => ⟨c, first, here⟩, ?_⟩
      rintro ⟨c', also, here⟩
      rwa [first.unique also]

/-- It does not matter in what order the parts stand, or how often. -/
theorem readParts_of_same {pieces others : List (List Char)}
    (same : ∀ part, part ∈ others.map Text.trim ↔ part ∈ pieces.map Text.trim) {a : Capabilities}
    (done : readParts pieces = some a) : readParts others = some a := by
  obtain ⟨b, also⟩ := exists_readParts fun part member =>
    denotes_of_readParts done part ((same part).mp member)
  have alike : b = a := by
    refine ext_bit fun i _ => Bool.eq_iff_iff.mpr ?_
    rw [bit_of_readParts also, bit_of_readParts done]
    exact exists_congr fun part => and_congr_left fun _ => same part
  rw [also, alike]

/-- Space alone is read as the empty set. -/
theorem read_of_blank {text : String} (blank : Text.Blank text.toList) :
    read text = some none := by
  rw [read, Text.trim_eq_nil_iff.mpr blank]

/-- Any other text is read part by part. -/
theorem read_of_solid {text : String} (solid : ¬ Text.Blank text.toList) :
    read text = readParts (split text.toList) := by
  rw [read]
  split
  · next gone => exact absurd (Text.trim_eq_nil_iff.mp gone) solid
  · exact readParts_congr (split_trim text.toList)

/-- The one part of a text of nothing but space is empty. -/
theorem parts_of_blank {s : List Char} (blank : Text.Blank s) : (split s).map Text.trim = [[]] := by
  rw [split_whole (whole_of_blank blank), List.map_singleton, Text.trim_eq_nil_iff.mpr blank]

/-- How a text is read, told from its parts. -/
structure ReadBy (parts : List (List Char)) (text : String) : Prop where
  /-- Whether it is read. -/
  legible : (∃ a, read text = some a) ↔
    Text.Blank text.toList ∨ ∀ part ∈ parts, ∃ c, Denotes part c
  /-- What is read is the union of what the parts name. -/
  union : ∀ a, read text = some a → ∀ i, a.bit i = true ↔
    ∃ part ∈ parts, ∃ c, Denotes part c ∧ c.bit i = true
  /-- A text with the same parts is read alike, however often they are there and in
      what order. -/
  alike : ¬ Text.Blank text.toList → ∀ (other : String) others, Dissects other.toList others →
    ¬ Text.Blank other.toList → (∀ part, part ∈ others ↔ part ∈ parts) → read other = read text

theorem readBy_parts (text : String) : ReadBy ((split text.toList).map Text.trim) text := by
  by_cases blank : Text.Blank text.toList
  · refine ⟨⟨fun _ => Or.inl blank, fun _ => ⟨none, read_of_blank blank⟩⟩, fun a done i => ?_,
      fun solid => absurd blank solid⟩
    -- no bit is set, and the empty part names none
    rw [read_of_blank blank] at done
    obtain rfl := Option.some.inj done
    rw [parts_of_blank blank]
    have empty : (none : Capabilities).bit i = false := by simp [bit, none]
    rw [empty]
    refine ⟨fun never => absurd never Bool.false_ne_true, ?_⟩
    rintro ⟨part, member, c, named, -⟩
    rw [List.mem_singleton.mp member] at named
    exact absurd named (not_denotes_nil c)
  · rename' blank => solid
    refine ⟨⟨?_, ?_⟩, fun a done => ?_, fun _ other others dissected also same => ?_⟩
    · rintro ⟨a, done⟩
      rw [read_of_solid solid] at done
      exact Or.inr (denotes_of_readParts done)
    · rintro (blank | named)
      · exact absurd blank solid
      · rw [read_of_solid solid]
        exact exists_readParts named
    · rw [read_of_solid solid] at done
      exact bit_of_readParts done
    · obtain rfl := dissects_iff.mp dissected
      rw [read_of_solid solid, read_of_solid also]
      exact Option.ext fun a => ⟨readParts_of_same fun part => (same part).symm,
        readParts_of_same same⟩

/-! ### The canonical text -/

/-- The form in which sets are written: some names of flags in the order of their bits,
    and one number for bits that have no name. -/
def Canonical (text : String) : Prop :=
  ∃ named rest, named.Sublist flags ∧ (∀ flag ∈ flags, rest &&& flag.2 = 0) ∧
    text = " | ".intercalate (listed named rest)

/-- The bits of a number without a name are in no flag. -/
theorem bit_of_apart {flag : String × UInt32} {rest : UInt32} (apart : rest &&& flag.2 = 0)
    {i : Nat} (here : bit ⟨flag.2⟩ i = true) : bit ⟨rest⟩ i = false := by
  have both : bit ⟨rest &&& flag.2⟩ i = (bit ⟨rest⟩ i && bit ⟨flag.2⟩ i) := by
    simp [bit]
  rw [apart, here, Bool.and_true] at both
  rw [← both]
  simp [bit]

theorem canonical_write (a : Capabilities) : Canonical a.write := by
  refine ⟨flags.filter fun flag => a.contains ⟨flag.2⟩, a.unnamed, List.filter_sublist,
    fun flag known => ?_, rfl⟩
  refine congrArg bits (ext_bit fun i inside => ?_ : (⟨a.unnamed &&& flag.2⟩ : Capabilities) = ⟨0⟩)
  have both : bit ⟨a.unnamed &&& flag.2⟩ i = (bit ⟨a.unnamed⟩ i && bit ⟨flag.2⟩ i) := by
    simp [bit]
  rw [both, bit_unnamed a inside]
  cases here : bit ⟨flag.2⟩ i with
  | false => simp [bit]
  | true =>
      have among : (flags.any fun flag => bit ⟨flag.2⟩ i) = true :=
        List.any_eq_true.mpr ⟨flag, known, here⟩
      rw [among]
      simp [bit]

/-- Every flag with a name has a bit, and no other one has it. -/
theorem flags_apart {flag : String × UInt32} (known : flag ∈ flags) : ∃ i,
    bit ⟨flag.2⟩ i = true ∧ ∀ other ∈ flags, bit ⟨other.2⟩ i = true → other = flag := by
  have all : ∀ flag ∈ flags, ∃ i : Fin 32,
      bit ⟨flag.2⟩ i = true ∧ ∀ other ∈ flags, bit ⟨other.2⟩ i = true → other = flag := by
    decide
  obtain ⟨i, apart⟩ := all flag known
  exact ⟨i, apart⟩

section Listed

variable {named : List (String × UInt32)} {rest : UInt32}

/-- The names that a set is written with are found in it again. -/
theorem names_of_listed (ordered : named.Sublist flags)
    (apart : ∀ flag ∈ flags, rest &&& flag.2 = 0) : (flags.filter fun flag =>
      (named.foldr (fun flag b => union ⟨flag.2⟩ b) ⟨rest⟩).contains ⟨flag.2⟩) = named := by
  -- a flag is in the set exactly if its name is written
  have held (flag : String × UInt32) (known : flag ∈ flags) :
      (named.foldr (fun flag b => union ⟨flag.2⟩ b) ⟨rest⟩).contains ⟨flag.2⟩ =
        decide (flag ∈ named) := by
    obtain ⟨i, here, alone⟩ := flags_apart known
    refine Bool.eq_iff_iff.mpr ?_
    rw [contains_iff_bit known here, bit_named, bit_of_apart (apart flag known) here,
      Bool.or_false, List.any_eq_true, decide_eq_true_eq]
    constructor
    · rintro ⟨other, among, also⟩
      rwa [← alone other (ordered.subset among) also]
    · exact fun among => ⟨flag, among, here⟩
  rw [List.filter_congr held]
  -- and the names stand in the order of the flags
  have distinct : flags.Nodup := by decide
  have kept := ordered.filter fun flag => decide (flag ∈ named)
  rw [List.filter_eq_self.mpr fun flag among => decide_eq_true among] at kept
  have same : named.Perm (flags.filter fun flag => decide (flag ∈ named)) := by
    refine (List.perm_ext_iff_of_nodup (distinct.sublist ordered) (distinct.filter _)).mpr ?_
    intro flag
    rw [List.mem_filter, decide_eq_true_eq]
    exact ⟨fun among => ⟨ordered.subset among, among⟩, fun both => both.2⟩
  exact (kept.eq_of_length same.length_eq).symm

/-- So is the number. -/
theorem unnamed_of_listed (ordered : named.Sublist flags)
    (apart : ∀ flag ∈ flags, rest &&& flag.2 = 0) :
    (named.foldr (fun flag b => union ⟨flag.2⟩ b) ⟨rest⟩).unnamed = rest := by
  refine congrArg bits (ext_bit fun i inside => ?_ :
    (⟨(named.foldr (fun flag b => union ⟨flag.2⟩ b) ⟨rest⟩).unnamed⟩ : Capabilities) = ⟨rest⟩)
  rw [bit_unnamed _ inside, bit_named]
  cases name : flags.any fun flag => bit ⟨flag.2⟩ i with
  | false =>
      have none_named : (named.any fun flag => bit ⟨flag.2⟩ i) = false :=
        List.any_eq_false.mpr fun flag among =>
          List.any_eq_false.mp name flag (ordered.subset among)
      rw [none_named, Bool.false_or, Bool.not_false, Bool.and_true]
  | true =>
      obtain ⟨flag, known, here⟩ := List.any_eq_true.mp name
      rw [bit_of_apart (apart flag known) here, Bool.not_true, Bool.and_false]

end Listed

/-- Of all texts that name a set, the one that is written is canonical, and no other. -/
theorem canonical_iff {text : String} {a : Capabilities} :
    Canonical text ∧ read text = some a ↔ text = a.write := by
  constructor
  · rintro ⟨⟨named, rest, ordered, apart, rfl⟩, done⟩
    rw [read_listed fun flag among => ordered.subset among] at done
    obtain rfl := Option.some.inj done
    change _ = " | ".intercalate (listed (flags.filter fun flag =>
      Capabilities.contains _ ⟨flag.2⟩) (unnamed _))
    rw [names_of_listed ordered apart, unnamed_of_listed ordered apart]
  · rintro rfl
    exact ⟨canonical_write a, read_write a⟩

/-- A set reads back as itself, whatever bits it has. Every text has its parts, which
    decide whether it is read and what is read. And of what is read, the text that is
    written is the canonical one. -/
theorem spelled : (∀ a : Capabilities, read a.write = some a) ∧
    ∀ text : String, ∃ parts, Dissects text.toList parts ∧
      (∀ others, Dissects text.toList others → others = parts) ∧ ReadBy parts text ∧
      ∀ a, read text = some a →
        ∀ other, Canonical other ∧ read other = some a ↔ other = a.write := by
  refine ⟨read_write, fun text => ⟨_, dissects_iff.mpr rfl, fun others also => ?_,
    readBy_parts text, fun a _ other => canonical_iff⟩⟩
  exact (dissects_iff.mp also).symm

/-- Names in another order and twice, and a number that has a named bit. -/
example : read " HDR|0x+80000003 | HDR\n" = some ⟨0x80000007⟩ ∧
    write ⟨0x80000007⟩ = "ROTATOR | COLOR_PIPELINE | HDR | 0x80000000" := by
  decide

end Capabilities

end DisplayHub
