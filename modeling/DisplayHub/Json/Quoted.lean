import DisplayHub.Json.Fault
import DisplayHub.Text.Numeral

/-!
# Quoted text

What stands between two quotes in a JSON text, and how to write it.

A quoted text is looked at in two ways. A reader that wants the text needs
every escaped surrogate to find its other half, because no character stands
for half a pair. A reader that passes over the text cares only about where it
ends, so it checks that each escape is one and leaves the halves alone. Both
ways share one scan: it turns the text into `Piece`s, and `Quoted.read` puts
the halves together afterwards.

An escape by number takes four bytes of text, not four characters. Where
fewer than four bytes are left the text ends too early, and only otherwise
can the digits be wrong.

## Main definitions

* `Piece`: A character, or the sixteen bits that an escape names.
* `Quoted`: The pieces found, and the fault that cut the scan short if any.
* `Quoted.scan`: From after the opening quote to after the closing one.
* `Quoted.read`: The text that the pieces stand for.
* `quote`: A text in quotes, with every escape that JSON demands.

## Theorems

* `scan_escape`: A written character scans as one piece, which stands for it.
* `scan_quoted`: Scanning undoes quoting, and finds the same whatever follows.
* `read_quoted`: A quoted text reads back as itself.
-/

namespace DisplayHub

namespace Json

/-- What one stretch of a quoted text stands for. -/
inductive Piece where
  /-- A character, written plainly or by a named escape. -/
  | char (c : Char)
  /-- The sixteen bits of an escape by number. -/
  | unit (n : Nat)
deriving DecidableEq, Repr

/-- A quoted text as scanned. -/
structure Quoted where
  /-- What was found, in order. -/
  pieces : List Piece
  /-- Why the scan stopped before a closing quote, if it did. -/
  fault : Option Fault
deriving DecidableEq, Repr

/-- The character that a named escape stands for. -/
def namedEscape : Char → Option Char
  | '"' => some '"'
  | '\\' => some '\\'
  | '/' => some '/'
  | 'b' => some '\x08'
  | 'f' => some '\x0c'
  | 'n' => some '\n'
  | 'r' => some '\r'
  | 't' => some '\t'
  | _ => none

/-- The number that exactly four hexadecimal digits write. -/
def fourDigits (a b c d : Char) : Option Nat := do
  let a ← Text.digitValue 16 a
  let b ← Text.digitValue 16 b
  let c ← Text.digitValue 16 c
  let d ← Text.digitValue 16 d
  return ((a * 16 + b) * 16 + c) * 16 + d

/-- The fault of an escape by number that has fewer than four characters left
    for its digits: the text is too short if these take fewer than four bytes. -/
def digitsFault (rest : List Char) : Fault :=
  if (String.ofList rest).utf8ByteSize < 4 then .unfinished else .malformed

/-- A scan that ends in a fault, and the text not looked at. -/
def brokenText (f : Fault) (rest : List Char) : Quoted × List Char :=
  (⟨[], some f⟩, rest)

/-- Puts a piece in front of what a scan found. -/
def pushPiece (p : Piece) (found : Quoted × List Char) : Quoted × List Char :=
  ({ found.1 with pieces := p :: found.1.pieces }, found.2)

/-- Scans from after the opening quote to after the closing one, and gives
    what is left of the text. -/
def Quoted.scan : List Char → Quoted × List Char
  | [] => brokenText .unfinished []
  | '"' :: rest => (⟨[], none⟩, rest)
  | '\\' :: 'u' :: a :: b :: c :: d :: rest => match fourDigits a b c d with
    | some n => pushPiece (.unit n) (scan rest)
    | none => brokenText .malformed rest
  | '\\' :: 'u' :: rest => brokenText (digitsFault rest) rest
  | '\\' :: e :: rest => match namedEscape e with
    | some c => pushPiece (.char c) (scan rest)
    | none => brokenText .malformed rest
  | '\\' :: [] => brokenText .unfinished []
  | c :: rest =>
    if c.toNat < 0x20 then brokenText .malformed rest
    else pushPiece (.char c) (scan rest)

/-- Whether sixteen bits are the first half of a pair. -/
def isHigh (n : Nat) : Bool :=
  0xD800 ≤ n && n ≤ 0xDBFF

/-- Whether sixteen bits are the second half of a pair. -/
def isLow (n : Nat) : Bool :=
  0xDC00 ≤ n && n ≤ 0xDFFF

/-- The character that two halves name together. -/
def pairChar (high low : Nat) : Char :=
  Char.ofNat ((high - 0xD800) * 0x400 + (low - 0xDC00) + 0x10000)

/-- The characters that a row of pieces stands for, where `fault` says how the
    row ended. A first half has to be followed at once by a second one, and a
    second half never stands alone. -/
def joinPieces (fault : Option Fault) : List Piece → Except Fault (List Char)
  | [] => match fault with
    | some f => .error f
    | none => .ok []
  | .char c :: rest => (joinPieces fault rest).map (c :: ·)
  | .unit n :: rest =>
    if isLow n then .error .malformed
    else if isHigh n then match rest with
      | .unit m :: rest =>
        if isLow m then (joinPieces fault rest).map (pairChar n m :: ·)
        else .error .malformed
      | .char _ :: _ => .error .malformed
      | [] => .error (fault.getD .malformed)
    else (joinPieces fault rest).map (Char.ofNat n :: ·)

/-- The text that a scan found. -/
def Quoted.read (q : Quoted) : Except Fault String :=
  (joinPieces q.fault q.pieces).map String.ofList

/-- One character as it is written between quotes. Quotes, backslashes and
    the thirty-two control characters are escaped, and nothing else is. -/
def escape (c : Char) : List Char :=
  if c = '"' then ['\\', '"']
  else if c = '\\' then ['\\', '\\']
  else if c = '\x08' then ['\\', 'b']
  else if c = '\x0c' then ['\\', 'f']
  else if c = '\n' then ['\\', 'n']
  else if c = '\r' then ['\\', 'r']
  else if c = '\t' then ['\\', 't']
  else if c.toNat < 0x20 then
    ['\\', 'u', '0', '0', Nat.digitChar (c.toNat / 16), Nat.digitChar (c.toNat % 16)]
  else [c]

/-- A text in quotes. -/
def quote (s : String) : List Char :=
  '"' :: (s.toList.flatMap escape ++ ['"'])

/-- The two digits in which a control character is written read back as its
    number. -/
theorem fourDigits_control : ∀ n : Fin 32,
    fourDigits '0' '0' (Nat.digitChar (n / 16)) (Nat.digitChar (n % 16)) = some n.val := by
  decide

/-- Sixteen bits that are no half of a pair stand for a character. -/
theorem joinPieces_unit {n : Nat} (low : isLow n = false) (high : isHigh n = false)
    (fault : Option Fault) (ps : List Piece) :
    joinPieces fault (.unit n :: ps) = (joinPieces fault ps).map (Char.ofNat n :: ·) := by
  rcases ps with _ | ⟨_ | _, _⟩ <;> simp [joinPieces, low, high]

/-- A character that needs no escape is written as itself. -/
theorem escape_plain {c : Char} (quote : c ≠ '"') (slash : c ≠ '\\') (plain : ¬ c.toNat < 32) :
    escape c = [c] := by
  have ne {d : Char} (control : d.toNat < 32) : c ≠ d := by
    rintro rfl
    exact plain control
  simp only [escape, if_neg quote, if_neg slash, if_neg plain,
    if_neg (ne (show '\x08'.toNat < 32 by decide)), if_neg (ne (show '\x0c'.toNat < 32 by decide)),
    if_neg (ne (show '\n'.toNat < 32 by decide)), if_neg (ne (show '\r'.toNat < 32 by decide)),
    if_neg (ne (show '\t'.toNat < 32 by decide))]

/-- A written control character scans as one piece, which stands for it. -/
theorem scan_escape_control {c : Char} (control : c.toNat < 32) :
    ∃ p, (∀ rest, Quoted.scan (escape c ++ rest) = pushPiece p (Quoted.scan rest))
      ∧ ∀ ps, joinPieces none (p :: ps) = (joinPieces none ps).map (c :: ·) := by
  have quote : c ≠ '"' := by
    rintro rfl
    exact absurd control (by decide)
  have slash : c ≠ '\\' := by
    rintro rfl
    exact absurd control (by decide)
  by_cases named : c = '\x08' ∨ c = '\x0c' ∨ c = '\n' ∨ c = '\r' ∨ c = '\t'
  · rcases named with rfl | rfl | rfl | rfl | rfl <;>
      exact ⟨.char _, fun _ => rfl, fun _ => rfl⟩
  · simp only [not_or] at named
    obtain ⟨h8, h12, h10, h13, h9⟩ := named
    refine ⟨.unit c.toNat, fun rest => ?_, fun ps => ?_⟩
    · have digits : fourDigits '0' '0' (Nat.digitChar (c.toNat / 16))
          (Nat.digitChar (c.toNat % 16)) = some c.toNat := fourDigits_control ⟨c.toNat, control⟩
      simp only [escape, if_neg quote, if_neg slash, if_neg h8, if_neg h12, if_neg h10, if_neg h13,
        if_neg h9, if_pos control, List.cons_append, List.nil_append]
      rw [Quoted.scan, digits]
    · have low : isLow c.toNat = false := by
        simp only [isLow, Bool.and_eq_false_iff, decide_eq_false_iff_not]
        omega
      have high : isHigh c.toNat = false := by
        simp only [isHigh, Bool.and_eq_false_iff, decide_eq_false_iff_not]
        omega
      rw [joinPieces_unit low high, Char.ofNat_toNat]

/-- A written character scans as one piece, which stands for it. -/
theorem scan_escape (c : Char) :
    ∃ p, (∀ rest, Quoted.scan (escape c ++ rest) = pushPiece p (Quoted.scan rest))
      ∧ ∀ ps, joinPieces none (p :: ps) = (joinPieces none ps).map (c :: ·) := by
  by_cases control : c.toNat < 32
  · exact scan_escape_control control
  · refine ⟨.char c, fun rest => ?_, fun _ => rfl⟩
    by_cases quote : c = '"'
    · subst quote
      rfl
    · by_cases slash : c = '\\'
      · subst slash
        rfl
      · rw [escape_plain quote slash control, List.singleton_append, Quoted.scan]
        · exact if_neg control
        · exact quote
        all_goals
          intros
          exact slash ‹_›

/-- Scanning undoes quoting, and finds the same whatever follows the text. -/
theorem scan_quoted (s : List Char) :
    ∃ ps, (∀ rest, Quoted.scan (s.flatMap escape ++ '"' :: rest) = (⟨ps, none⟩, rest))
      ∧ joinPieces none ps = .ok s := by
  induction s with
  | nil => exact ⟨[], fun _ => rfl, rfl⟩
  | cons c s ih =>
      obtain ⟨ps, scanned, joined⟩ := ih
      obtain ⟨p, step, stands⟩ := scan_escape c
      refine ⟨p :: ps, fun rest => ?_, ?_⟩
      · rw [List.flatMap_cons, List.append_assoc, step, scanned, pushPiece]
      · rw [stands, joined, Except.map]

/-- A quoted text reads back as itself, whatever follows it. -/
theorem read_quoted (s : String) :
    ∃ q, (∀ rest, Quoted.scan (s.toList.flatMap escape ++ '"' :: rest) = (q, rest))
      ∧ q.read = .ok s := by
  obtain ⟨ps, scanned, joined⟩ := scan_quoted s.toList
  refine ⟨_, scanned, ?_⟩
  rw [Quoted.read, joined, Except.map, String.ofList_toList]

end Json

end DisplayHub
