import DisplayHub.Json.Fault
import DisplayHub.Text.Numeral

/-!
# Numbers in JSON texts

Scanning a number, and telling the whole ones from the rest.

All the numbers that this library reads are whole, so a number with a
fraction or an exponent has the wrong shape wherever it stands, and so has
`-0`, which only a fraction could mean. It still has to be scanned to its end
first, since a fault in the text comes before one of shape.

One more fault lies beyond the grammar. A number is held in a binary fraction
of 64 bits if it is not whole, and one that is too large for that is refused
as malformed. Its leading digits are kept as long as they fit 64 bits and the
rest are counted into the power of ten, so the question is whether a
significand of 64 bits times a power of ten, each rounded to 53 bits,
passes the largest finite fraction. `passesFinite` decides this on natural
numbers.

A reader that passes over a number asks for the grammar alone, and calls a
number that ends too early malformed.

## Main definitions

* `Numeral`: What a scanned number is to a reader and to one passing over it.
* `Numeral.scan`: Scanning a number that starts here.
* `round53`, `passesFinite`: Rounding to 53 bits, and the limit of range.
-/

namespace DisplayHub

namespace Json

/-- A number as scanned. -/
structure Numeral where
  /-- The whole number that a reader finds, `none` if the number is not
      whole, or the fault it runs into. -/
  value : Except Fault (Option Int)
  /-- The fault that a reader passing over the number runs into. -/
  fault : Option Fault

/-- The number rounded to its 53 leading bits, ties to an even last bit. -/
def round53 (n : Nat) : Nat :=
  let width := Nat.log2 n + 1
  if width ≤ 53 then n
  else
    let unit := Nat.pow 2 (width - 53)
    let kept := n / unit
    let rest := n % unit
    let up := unit < 2 * rest ∨ (unit = 2 * rest ∧ kept % 2 = 1)
    (if up then kept + 1 else kept) * unit

/-- Whether the significand times a power of ten exceeds every finite fraction
    of 64 bits. The bound is the midpoint between the largest of them and the
    power of two that would follow it. -/
def passesFinite (significand : Nat) (exponent : Int) : Bool :=
  if significand = 0 ∨ exponent < 0 then false
  else if 308 < exponent then true
  else
    let bound := Nat.pow 2 1024 - Nat.pow 2 970
    bound ≤ round53 significand * round53 (Nat.pow 10 exponent.toNat)

/-- Whether a character is a decimal digit. -/
def isDigit (c : Char) : Bool :=
  '0' ≤ c && c ≤ '9'

/-- The digits that a text starts with, and the rest of it. -/
def spanDigits (s : List Char) : List Char × List Char :=
  (s.takeWhile isDigit, s.dropWhile isDigit)

/-- Takes digits into a significand while it stays within 64 bits, and gives
    the digits that no longer fit. -/
def fillSignificand : Nat → List Char → Nat × List Char
  | n, [] => (n, [])
  | n, c :: cs =>
    let next := n * 10 + (c.toNat - 48)
    if next < 0x10000000000000000 then fillSignificand next cs else (n, c :: cs)

/-- The parts of a number that was scanned to its end. -/
structure Digits where
  negative : Bool
  whole : List Char
  /-- The digits after the point, if there is one. -/
  fraction : Option (List Char)
  /-- The exponent's sign and digits, if there is one. -/
  exponent : Option (Bool × List Char)

/-- The value of a row of decimal digits. -/
def digitsValue (digits : List Char) : Nat :=
  digits.foldl (fun n c => n * 10 + (c.toNat - 48)) 0

/-- The largest exponent that is taken at its value. A larger one is out of
    range at once, unless it is negative or the significand is zero. -/
def exponentLimit : Nat := 0x7fffffff

/-- Keeps a power of ten within 32 bits. -/
def clampExponent (e : Int) : Int :=
  max (-0x80000000) (min 0x7fffffff e)

/-- What a reader makes of a number that is scanned to its end: whole numbers
    of 64 bits with or without sign are themselves, everything else is a
    fraction, and a fraction can be out of range. -/
def Digits.value (d : Digits) : Except Fault (Option Int) :=
  let (front, spilt) := fillSignificand 0 d.whole
  match d.fraction, d.exponent, spilt with
  | none, none, [] =>
    if d.negative then
      if front = 0 ∨ 0x8000000000000000 < front then .ok none else .ok (some (-front))
    else .ok (some front)
  | _, _, _ =>
    let (significand, lost) := fillSignificand front (d.fraction.getD [])
    let taken := (d.fraction.getD []).length - lost.length
    let shift : Int := (spilt.length : Int) - taken
    match d.exponent with
    | none => if passesFinite significand shift then .error .malformed else .ok none
    | some (minus, digits) =>
      if exponentLimit < digitsValue digits then
        if significand ≠ 0 ∧ ¬ minus then .error .malformed else .ok none
      else
        let e : Int := digitsValue digits
        let power := clampExponent (if minus then shift - e else shift + e)
        if passesFinite significand power then .error .malformed else .ok none

/-- The fault of a number that breaks off before `rest`. -/
def breakOff (rest : List Char) : Fault :=
  if rest.isEmpty then .unfinished else .malformed

/-- A number that breaks off before `rest`. -/
def brokenNumber (rest : List Char) : Numeral × List Char :=
  (⟨.error (breakOff rest), some .malformed⟩, rest)

/-- A number that was scanned to its end. -/
def Numeral.ofDigits (d : Digits) : Numeral :=
  ⟨d.value, none⟩

/-- Scans an exponent, if one starts here, and closes the number. -/
def scanExponent (negative : Bool) (whole : List Char) (fraction : Option (List Char))
    (s : List Char) : Numeral × List Char :=
  match s with
  | c :: rest =>
    if c = 'e' ∨ c = 'E' then
      let (minus, rest) := match rest with
        | '+' :: r => (false, r)
        | '-' :: r => (true, r)
        | r => (false, r)
      match spanDigits rest with
      | ([], rest) => brokenNumber rest
      | (digits, rest) => (.ofDigits ⟨negative, whole, fraction, some (minus, digits)⟩, rest)
    else (.ofDigits ⟨negative, whole, fraction, none⟩, s)
  | [] => (.ofDigits ⟨negative, whole, fraction, none⟩, s)

/-- Scans a fraction, if one starts here, and what may follow it. -/
def scanFraction (negative : Bool) (whole : List Char) (s : List Char) : Numeral × List Char :=
  match s with
  | '.' :: rest => match spanDigits rest with
    | ([], rest) => brokenNumber rest
    | (digits, rest) => scanExponent negative whole (some digits) rest
  | _ => scanExponent negative whole none s

/-- Scans a number from after its sign. A zero is not followed by a digit. -/
def scanUnsigned (negative : Bool) (s : List Char) : Numeral × List Char :=
  match spanDigits s with
  | ([], rest) => brokenNumber rest
  | ('0' :: _ :: _, rest) => (⟨.error .malformed, some .malformed⟩, rest)
  | (whole, rest) => scanFraction negative whole rest

/-- Scans a number that starts here. -/
def Numeral.scan : List Char → Numeral × List Char
  | '-' :: rest => scanUnsigned true rest
  | s => scanUnsigned false s

end Json

end DisplayHub
