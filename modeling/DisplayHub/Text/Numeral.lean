/-!
# Numerals

Whole numbers in text: reading them within a width, and writing them.

A numeral is an optional sign and at least one digit. The sign `+` is always
allowed and `-` only where negative numbers are. There is no upper bound on
the count of digits: leading zeros do no harm, and a number is refused for
its value alone. That is why a numeral is first read as an unbounded natural
number and compared with its width afterwards.

## Main definitions

* `digitValue`: The value of a digit in a base up to sixteen.
* `natOfDigits`: The number that a non-empty row of digits writes.
* `readNat`: A numeral below a bound, in a base.
* `readInt32`: A decimal numeral of 32 bits with sign.
* `decimal`, `hexadecimal`: Writing a number.
* `hexText`: A number in hexadecimal with its mark in front.

## Theorems

* `toDigits_induct`: Induction on the digits of a number.
* `readNat_signed_iff`: A numeral is a row of digits, with a plus or without.
* `readNat_toDigits`: A number below the bound reads back as itself.
-/

namespace DisplayHub

namespace Text

/-- The value of a digit. Letters count from ten in either case, and a digit
    has to be below the base. -/
def digitValue (base : Nat) (c : Char) : Option Nat :=
  let v :=
    if '0' ≤ c ∧ c ≤ '9' then c.toNat - 48
    else if 'a' ≤ c ∧ c ≤ 'f' then c.toNat - 87
    else if 'A' ≤ c ∧ c ≤ 'F' then c.toNat - 55
    else base
  if v < base then some v else none

/-- Reads digits onto a number already begun. -/
def pushDigits (base : Nat) : Nat → List Char → Option Nat
  | n, [] => some n
  | n, c :: cs => match digitValue base c with
    | some d => pushDigits base (n * base + d) cs
    | none => none

/-- The number that a row of digits writes. No digits write no number. -/
def natOfDigits (base : Nat) : List Char → Option Nat
  | [] => none
  | c :: cs => pushDigits base 0 (c :: cs)

/-- A numeral without sign, or with a plus, whose value lies below `bound`. -/
def readNat (base bound : Nat) (s : List Char) : Option Nat :=
  let digits := match s with
    | '+' :: rest => rest
    | _ => s
  (natOfDigits base digits).filter (· < bound)

/-- A decimal numeral of 32 bits without sign. -/
def readUInt32 (s : List Char) : Option UInt32 :=
  (readNat 10 0x100000000 s).map UInt32.ofNat

/-- A decimal numeral of 32 bits with sign. The negative side reaches one
    further than the positive one. -/
def readInt32 (s : List Char) : Option Int32 :=
  match s with
  | '-' :: digits =>
      ((natOfDigits 10 digits).filter (· ≤ 0x80000000)).map fun n => Int32.ofInt (-n)
  | _ => (readNat 10 0x80000000 s).map fun n => Int32.ofInt n

/-- A number in decimal digits. -/
def decimal (n : Nat) : List Char :=
  Nat.toDigits 10 n

/-- A number in hexadecimal digits, with small letters. -/
def hexadecimal (n : Nat) : List Char :=
  Nat.toDigits 16 n

/-- A number in hexadecimal digits, after the `0x` that tells it from a decimal
    one. -/
def hexText (n : Nat) : String :=
  String.ofList ('0' :: 'x' :: hexadecimal n)

/-- A whole number in decimal digits, with a minus if it is negative. -/
def decimalInt : Int → List Char
  | .ofNat n => decimal n
  | .negSucc n => '-' :: decimal (n + 1)

/-- What holds of one digit, and of a row with one more digit if it holds of
    the row without it, holds of every number's digits. -/
theorem toDigits_induct (base : Nat) (two : 1 < base) {P : Nat → List Char → Prop}
    (digit : ∀ d, d < base → P d [Nat.digitChar d])
    (more : ∀ n d s, 0 < n → d < base → s ≠ [] → P n s → P (n * base + d) (s ++ [Nat.digitChar d]))
    (n : Nat) : P n (Nat.toDigits base n) := by
  induction n using Nat.strongRecOn with
  | _ n ih =>
      rcases Nat.lt_or_ge n base with small | large
      · rw [Nat.toDigits_of_lt_base small]
        exact digit n small
      · have front : 0 < n / base := Nat.div_pos large (by omega)
        have less : n / base < n := Nat.div_lt_self (by omega) two
        have last : n % base < base := Nat.mod_lt n (by omega)
        have shown := more _ _ _ front last Nat.toDigits_ne_nil (ih _ less)
        rwa [Nat.div_add_mod', ← Nat.toDigits_of_base_le two large] at shown

/-- Reading more digits goes on from the number so far. -/
theorem pushDigits_append {base m k : Nat} {s t : List Char}
    (pushed : pushDigits base m s = some k) :
    pushDigits base m (s ++ t) = pushDigits base k t := by
  induction s generalizing m with
  | nil => rw [← Option.some.inj pushed, List.nil_append]
  | cons c s ih =>
      rw [List.cons_append]
      simp only [pushDigits] at pushed ⊢
      split at pushed
      · exact ih pushed
      · exact absurd pushed nofun

/-- A digit is written so that it is read with its value in any base that has
    it. -/
theorem digitValue_digitChar {base d : Nat} (sixteen : base ≤ 16) (small : d < base) :
    digitValue base (Nat.digitChar d) = some d := by
  have all : ∀ base : Fin 17, ∀ d : Fin base,
      digitValue base (Nat.digitChar d) = some d.val := by decide
  exact all ⟨base, by omega⟩ ⟨d, small⟩

/-- The digits of a number read back as that number. -/
theorem pushDigits_toDigits {base : Nat} (two : 1 < base) (sixteen : base ≤ 16) (n : Nat) :
    pushDigits base 0 (Nat.toDigits base n) = some n := by
  refine toDigits_induct base two (P := fun n s => pushDigits base 0 s = some n)
    (fun d small => ?_) (fun m d s _ small _ ih => ?_) n
  · simp only [pushDigits, digitValue_digitChar sixteen small, Nat.zero_mul, Nat.zero_add]
  · rw [pushDigits_append ih]
    simp only [pushDigits, digitValue_digitChar sixteen small]

/-- A plus is no digit in any base. -/
theorem natOfDigits_plus (base : Nat) (s : List Char) : natOfDigits base ('+' :: s) = none := by
  simp [natOfDigits, pushDigits, digitValue]

/-- A numeral below a bound is read from its digits, with a plus or without. -/
theorem readNat_signed_iff {base bound n : Nat} {s : List Char} :
    readNat base bound s = some n ↔
      n < bound ∧ ∃ sign digits, (sign = [] ∨ sign = ['+']) ∧ natOfDigits base digits = some n ∧
        s = sign ++ digits := by
  unfold readNat
  rw [Option.filter_eq_some_iff, decide_eq_true_eq, and_comm]
  refine and_congr_right fun _ => ?_
  split
  · next rest =>
      refine ⟨fun read => ⟨['+'], rest, .inr rfl, read, rfl⟩, ?_⟩
      rintro ⟨sign, digits, rfl | rfl, read, same⟩
      · -- the plus would be the first digit
        rw [← List.nil_append digits, ← same, natOfDigits_plus] at read
        nomatch read
      · rwa [(List.cons.inj same).2]
  · next unsigned =>
      refine ⟨fun read => ⟨[], s, .inl rfl, read, rfl⟩, ?_⟩
      rintro ⟨sign, digits, rfl | rfl, read, same⟩
      · rwa [same]
      · exact absurd same (unsigned digits)

/-- A number below the bound reads back as itself. -/
theorem readNat_toDigits {base bound n : Nat} (two : 1 < base) (sixteen : base ≤ 16)
    (fits : n < bound) : readNat base bound (Nat.toDigits base n) = some n := by
  have pushed := pushDigits_toDigits two sixteen n
  obtain ⟨c, s, written⟩ := List.exists_cons_of_ne_nil (Nat.toDigits_ne_nil (n := n) (b := base))
  rw [written] at pushed ⊢
  have unsigned : c ≠ '+' := by
    rintro rfl
    simp [pushDigits, digitValue] at pushed
  rw [readNat]
  · rw [natOfDigits, pushed, Option.filter_some, if_pos (decide_eq_true fits)]
  · exact fun _ found => unsigned (List.cons.inj found).1

end Text

end DisplayHub
