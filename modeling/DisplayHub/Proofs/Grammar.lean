import DisplayHub.Proofs.Written

/-!
# The grammar of JSON

What a JSON text is, told without the parser.

A tree is spelled in many ways. There may be space before anything but the inside of a
number or a text, a character may be escaped or not, and an exponent may have a plus or
not. `Node.Spelled` says what all of these are, one rule for each thing that can stand in a
text. A rule tells where a spelling begins and what is left of the text behind it, so that
one thing is spelled behind another without any talk of places.

The parser is held against the grammar from both sides. A spelled tree is parsed, by
induction on its spelling, and the parser's count of steps lasts because every spelling
takes up at least one character. The other way is by induction on that count, and it is not
true of every tree that comes out: a tree with a fault was spelled by nobody. So the
statement is about trees without one, and a number has to be told apart from one that
breaks off, since whether it has a fault is not to be seen from its value. `Node.Sane` says
that each number is either.

## Main definitions

* `Digits.Spelled`, `Piece.Spelled`: A number, and one stretch of a quoted text.
* `Node.Spelled`, `SpelledItems`, `SpelledMembers`: A value.
* `Node.SpelledBy`: A text that holds one value.
* `Node.Sane`: Every number in a tree was scanned to its end or is broken.

## Theorems

* `Numeral.scan_of_spelled`, `Numeral.scan_cases`: What is scanned as a number is spelled,
  or is broken.
* `Quoted.scan_of_spelled`, `Quoted.spelled_scan`: What is scanned as a text is spelled.
* `parse_of_spelledBy`: A text that holds a value is parsed to its tree.
* `Node.parse_parsed`: A tree without a fault is spelled where it was parsed.
-/

namespace DisplayHub

namespace Json

/-! ### Numbers -/

/-- One digit or more. -/
def Row (digits : List Char) : Prop :=
  digits ≠ [] ∧ ∀ c ∈ digits, isDigit c = true

/-- A fraction, if there is one. -/
inductive SpelledFraction : Option (List Char) → List Char → List Char → Prop where
  | none (rest : List Char) : SpelledFraction none rest rest
  | some (digits rest : List Char) (row : Row digits) :
      SpelledFraction (some digits) ('.' :: (digits ++ rest)) rest

/-- The sign of an exponent. A plus may be left out. -/
inductive SpelledSign : Bool → List Char → Prop where
  | none : SpelledSign false []
  | plus : SpelledSign false ['+']
  | minus : SpelledSign true ['-']

/-- An exponent, if there is one. -/
inductive SpelledExponent : Option (Bool × List Char) → List Char → List Char → Prop where
  | none (rest : List Char) : SpelledExponent none rest rest
  | some (e : Char) (negative : Bool) (sign digits rest : List Char) (letter : e = 'e' ∨ e = 'E')
      (signed : SpelledSign negative sign) (row : Row digits) :
      SpelledExponent (some (negative, digits)) (e :: (sign ++ (digits ++ rest))) rest

/-- A number: a minus or none, a whole part without a zero in front of other digits, and what
    may follow it. -/
inductive Digits.Spelled : Digits → List Char → List Char → Prop where
  | intro (negative : Bool) (whole : List Char) (fraction : Option (List Char))
      (exponent : Option (Bool × List Char)) (s₁ s₂ rest : List Char) (row : Row whole)
      (zero : whole.head? = some '0' → whole = ['0']) (point : SpelledFraction fraction s₁ s₂)
      (power : SpelledExponent exponent s₂ rest) :
      Spelled ⟨negative, whole, fraction, exponent⟩
        ((if negative then ['-'] else []) ++ (whole ++ s₁)) rest

section Numbers

variable {s s₁ s₂ rest digits whole : List Char} {negative : Bool}
  {fraction : Option (List Char)} {exponent : Option (Bool × List Char)}

theorem Apart.stop (apart : Apart rest) : ∀ c ∈ rest.head?, isDigit c = false :=
  fun c head => (apart c head).1

theorem Row.head (row : Row digits) : ∃ c more, digits = c :: more ∧ isDigit c = true := by
  obtain ⟨c, more, rfl⟩ := List.exists_cons_of_ne_nil row.1
  exact ⟨c, more, rfl, row.2 c List.mem_cons_self⟩

theorem scanExponent_of_spelled (negative : Bool) (whole : List Char)
    (fraction : Option (List Char)) (spelled : SpelledExponent exponent s rest)
    (apart : Apart rest) :
    scanExponent negative whole fraction s =
      (.ofDigits ⟨negative, whole, fraction, exponent⟩, rest) := by
  cases spelled with
  | none =>
      cases s with
      | nil => rfl
      | cons c s =>
          obtain ⟨-, -, small, large⟩ := apart c rfl
          exact if_neg (by simp [small, large])
  | some e minus sign digits rest letter signed row =>
      have span := spanDigits_append row.2 apart.stop
      obtain ⟨c, more, rfl, digit⟩ := row.head
      -- a digit is neither of the signs
      have plus : c ≠ '+' := digit_ne digit (by decide)
      have dash : c ≠ '-' := digit_ne digit (by decide)
      rw [List.cons_append] at span ⊢
      unfold scanExponent
      dsimp only
      rw [if_pos letter]
      cases signed with
      | plus | minus => simp only [List.cons_append, List.nil_append, span]
      | none =>
          simp only [List.nil_append, List.cons.injEq, plus, dash, false_and, imp_false,
            not_false_eq_true, implies_true, span]

/-- Neither a digit nor a point comes behind the digits in front of an exponent. -/
theorem SpelledExponent.head (spelled : SpelledExponent exponent s rest) (apart : Apart rest) :
    ∀ c ∈ s.head?, isDigit c = false ∧ c ≠ '.' := by
  cases spelled with
  | none => exact fun c head => ⟨(apart c head).1, (apart c head).2.1⟩
  | some e minus sign digits rest letter signed row =>
      rintro c ⟨⟩
      rcases letter with rfl | rfl <;> decide

theorem scanFraction_of_spelled (negative : Bool) (whole : List Char)
    (point : SpelledFraction fraction s s₁) (power : SpelledExponent exponent s₁ rest)
    (apart : Apart rest) :
    scanFraction negative whole s =
      (.ofDigits ⟨negative, whole, fraction, exponent⟩, rest) := by
  have scanned := scanExponent_of_spelled negative whole fraction power apart
  cases point with
  | none =>
      rw [← scanned]
      unfold scanFraction
      split
      · next found => exact absurd rfl (power.head apart '.' rfl).2
      · rfl
  | some digits rest row =>
      have span := spanDigits_append row.2 fun c head => (power.head apart c head).1
      obtain ⟨c, more, rfl, -⟩ := row.head
      unfold scanFraction
      simp only [span, scanned]

theorem SpelledFraction.head (point : SpelledFraction fraction s s₁)
    (power : SpelledExponent exponent s₁ rest) (apart : Apart rest) :
    ∀ c ∈ s.head?, isDigit c = false := by
  cases point with
  | none => exact fun c head => (power.head apart c head).1
  | some digits rest row =>
      rintro c ⟨⟩
      rfl

/-- A spelled number is scanned, if it ends where it is spelled to. -/
theorem Numeral.scan_of_spelled {d : Digits} (spelled : d.Spelled s rest) (apart : Apart rest) :
    Numeral.scan s = (.ofDigits d, rest) := by
  obtain ⟨negative, whole, fraction, exponent, s₁, s₂, _, row, zero, point, power⟩ := spelled
  have scanned := scanFraction_of_spelled negative whole point power apart
  have span := spanDigits_append row.2 (point.head power apart)
  obtain ⟨c, more, rfl, digit⟩ := row.head
  have unsigned : scanUnsigned negative (c :: more ++ s₁) =
      (.ofDigits ⟨negative, c :: more, fraction, exponent⟩, rest) := by
    unfold scanUnsigned
    rw [span]
    split
    · next found => exact absurd (congrArg Prod.fst found) nofun
    · next found =>
        -- a zero in front stands alone
        obtain ⟨rfl, rfl⟩ := List.cons.inj (congrArg Prod.fst found)
        nomatch zero rfl
    · next found =>
        obtain ⟨rfl, rfl⟩ := Prod.mk.inj found
        exact scanned
  cases negative with
  | true => exact unsigned
  | false =>
      rw [if_neg Bool.false_ne_true, List.nil_append, ← unsigned]
      unfold Numeral.scan
      split
      · next found => exact absurd (List.cons.inj found).1 (digit_ne digit (by decide))
      · rfl

/-- A number that breaks off, which nobody reads or passes over. -/
def Numeral.Broken (n : Numeral) : Prop :=
  ∃ f g, n = ⟨.error f, some g⟩

theorem broken_brokenNumber (s : List Char) : (brokenNumber s).1.Broken :=
  ⟨_, _, rfl⟩

theorem spanDigits_spec (s : List Char) :
    s = (spanDigits s).1 ++ (spanDigits s).2 ∧ ∀ c ∈ (spanDigits s).1, isDigit c = true := by
  refine ⟨List.takeWhile_append_dropWhile.symm, fun c among => ?_⟩
  simpa using List.all_eq_true.mp List.all_takeWhile c among

theorem scanExponent_cases (negative : Bool) (whole : List Char) (fraction : Option (List Char))
    (s : List Char) :
    (∃ exponent, (scanExponent negative whole fraction s).1 =
        .ofDigits ⟨negative, whole, fraction, exponent⟩ ∧
      SpelledExponent exponent s (scanExponent negative whole fraction s).2) ∨
    (scanExponent negative whole fraction s).1.Broken := by
  fun_cases scanExponent negative whole fraction s with
  | case1 e s letter minus tail found rest span => exact Or.inr (broken_brokenNumber rest)
  | case2 e s letter minus tail found digits rest filled span =>
      -- behind the letter there is a sign or none
      have sign : ∃ sign, SpelledSign minus sign ∧ s = sign ++ tail := by
        split at found
        · obtain ⟨rfl, rfl⟩ := Prod.mk.inj found
          exact ⟨['+'], .plus, rfl⟩
        · obtain ⟨rfl, rfl⟩ := Prod.mk.inj found
          exact ⟨['-'], .minus, rfl⟩
        · obtain ⟨rfl, rfl⟩ := Prod.mk.inj found
          exact ⟨[], .none, rfl⟩
      obtain ⟨sign, signed, rfl⟩ := sign
      obtain ⟨parts, row⟩ := spanDigits_spec tail
      rw [span] at parts row
      refine Or.inl ⟨some (minus, digits), rfl, ?_⟩
      rw [parts]
      exact .some e minus sign digits rest letter signed ⟨filled, row⟩
  | case3 e s other => exact Or.inl ⟨none, rfl, .none (e :: s)⟩
  | case4 => exact Or.inl ⟨none, rfl, .none []⟩

theorem scanFraction_cases (negative : Bool) (whole s : List Char) :
    (∃ fraction exponent s₁, (scanFraction negative whole s).1 =
        .ofDigits ⟨negative, whole, fraction, exponent⟩ ∧ SpelledFraction fraction s s₁ ∧
      SpelledExponent exponent s₁ (scanFraction negative whole s).2) ∨
    (scanFraction negative whole s).1.Broken := by
  unfold scanFraction
  split
  · next s =>
      obtain ⟨parts, digits⟩ := spanDigits_spec s
      rcases span : spanDigits s with ⟨_ | ⟨c, more⟩, rest⟩
      · exact Or.inr (broken_brokenNumber rest)
      · rw [span] at parts digits
        dsimp only at parts ⊢
        rcases scanExponent_cases negative whole (some (c :: more)) rest with
          ⟨exponent, scanned, power⟩ | broken
        · rw [parts]
          exact Or.inl ⟨_, exponent, rest, scanned,
            .some (c :: more) rest ⟨List.cons_ne_nil c more, digits⟩, power⟩
        · exact Or.inr broken
  · rcases scanExponent_cases negative whole none s with ⟨exponent, scanned, power⟩ | broken
    · exact Or.inl ⟨none, exponent, s, scanned, .none s, power⟩
    · exact Or.inr broken

theorem scanUnsigned_cases (negative : Bool) (s : List Char) :
    (∃ d, (scanUnsigned negative s).1 = .ofDigits d ∧
      d.Spelled ((if negative then ['-'] else []) ++ s) (scanUnsigned negative s).2) ∨
    (scanUnsigned negative s).1.Broken := by
  obtain ⟨parts, digits⟩ := spanDigits_spec s
  unfold scanUnsigned
  rcases span : spanDigits s with ⟨whole, rest⟩
  rw [span] at parts digits
  dsimp only at parts digits
  split
  · exact Or.inr (broken_brokenNumber _)
  · exact Or.inr ⟨_, _, rfl⟩
  · next whole rest filled alone found =>
      obtain ⟨rfl, rfl⟩ := Prod.mk.inj found
      rcases scanFraction_cases negative whole rest with
        ⟨fraction, exponent, s₁, scanned, point, power⟩ | broken
      · rw [parts]
        -- a zero in front stands alone, or the number would have been refused before
        have zero : whole.head? = some '0' → whole = ['0'] := by
          rcases whole with _ | ⟨c, _ | ⟨d, more⟩⟩
          · exact nofun
          · rintro ⟨⟩
            rfl
          · rintro ⟨⟩
            exact absurd rfl (alone d more)
        exact Or.inl ⟨_, scanned,
          .intro negative whole fraction exponent rest s₁ _ ⟨filled, digits⟩ zero point power⟩
      · exact Or.inr broken

/-- What is scanned as a number is spelled, or is broken. -/
theorem Numeral.scan_cases (s : List Char) :
    (∃ d, (Numeral.scan s).1 = .ofDigits d ∧ d.Spelled s (Numeral.scan s).2) ∨
      (Numeral.scan s).1.Broken := by
  unfold Numeral.scan
  split
  · next s => exact scanUnsigned_cases true s
  · exact scanUnsigned_cases false s

end Numbers

/-! ### Texts -/

/-- One stretch of a quoted text: a character that may stand as it is, or an escape. -/
inductive Piece.Spelled : Piece → List Char → List Char → Prop where
  | plain (c : Char) (rest : List Char) (quote : c ≠ '"') (slash : c ≠ '\\')
      (control : ¬ c.toNat < 0x20) : Spelled (.char c) (c :: rest) rest
  | named (e c : Char) (rest : List Char) (named : namedEscape e = some c) :
      Spelled (.char c) ('\\' :: e :: rest) rest
  | number (a b c d : Char) (n : Nat) (rest : List Char) (digits : fourDigits a b c d = some n) :
      Spelled (.unit n) ('\\' :: 'u' :: a :: b :: c :: d :: rest) rest

/-- The inside of a quoted text, with the closing quote. -/
inductive SpelledPieces : List Piece → List Char → List Char → Prop where
  | close (rest : List Char) : SpelledPieces [] ('"' :: rest) rest
  | piece (p : Piece) (ps : List Piece) (s s' rest : List Char) (first : p.Spelled s s')
      (more : SpelledPieces ps s' rest) : SpelledPieces (p :: ps) s rest

section Texts

variable {s s' rest : List Char} {p : Piece} {ps : List Piece}

theorem Quoted.scan_of_piece (spelled : p.Spelled s s') :
    Quoted.scan s = pushPiece p (Quoted.scan s') := by
  cases spelled with
  | plain c _ quote slash control =>
      rw [Quoted.scan]
      · exact if_neg control
      · exact quote
      all_goals
        intros
        exact slash ‹_›
  | named e c _ named =>
      have number : e ≠ 'u' := by
        rintro rfl
        cases named
      rw [Quoted.scan]
      · rw [named]
      · exact fun _ _ _ _ _ same _ => number same
      · exact number
  | number a b c d n _ digits =>
      rw [Quoted.scan, digits]

/-- A spelled text is scanned up to its closing quote. -/
theorem Quoted.scan_of_spelled (spelled : SpelledPieces ps s rest) :
    Quoted.scan s = (⟨ps, none⟩, rest) := by
  induction spelled with
  | close rest => rw [Quoted.scan]
  | piece p ps s s' rest first more ih => rw [scan_of_piece first, ih, pushPiece]

/-- What is scanned to a closing quote is spelled. -/
theorem Quoted.spelled_scan (s : List Char) (whole : (Quoted.scan s).1.fault = none) :
    SpelledPieces (Quoted.scan s).1.pieces s (Quoted.scan s).2 := by
  fun_induction Quoted.scan s with
  | case1 | case4 | case5 | case7 | case8 | case9 => nomatch whole
  | case2 rest => exact .close rest
  | case3 a b c d rest n digits ih =>
      exact .piece _ _ _ rest _ (.number a b c d n rest digits) (ih whole)
  | case6 e rest digits number c named ih =>
      exact .piece _ _ _ rest _ (.named e c rest named) (ih whole)
  | case10 c rest quote number short named last control ih =>
      have slash : c ≠ '\\' := by
        rintro rfl
        cases rest with
        | nil => exact last rfl rfl
        | cons e rest => exact named e rest rfl rfl
      exact .piece _ _ _ rest _ (.plain c rest quote slash control) (ih whole)

end Texts

/-! ### Values -/

/-- How a word is spelled. -/
def Word.letters : Word → List Char
  | null => ['n', 'u', 'l', 'l']
  | bool true => ['t', 'r', 'u', 'e']
  | bool false => ['f', 'a', 'l', 's', 'e']

mutual

/-- A value, after any space. -/
inductive Node.Spelled : Node → List Char → List Char → Prop where
  | word (w : Word) (s rest : List Char) (start : skipSpace s = w.letters ++ rest) :
      Node.Spelled (.word (.ok w)) s rest
  | number (d : Digits) (s rest : List Char) (digits : d.Spelled (skipSpace s) rest) :
      Node.Spelled (.number (.ofDigits d)) s rest
  | text (ps : List Piece) (s inner rest : List Char) (start : skipSpace s = '"' :: inner)
      (pieces : SpelledPieces ps inner rest) : Node.Spelled (.text ⟨ps, none⟩) s rest
  | emptyList (s inner rest : List Char) (start : skipSpace s = '[' :: inner)
      (close : skipSpace inner = ']' :: rest) : Node.Spelled (.list [] none) s rest
  | list (items : List Node) (s inner rest : List Char) (start : skipSpace s = '[' :: inner)
      (spelled : SpelledItems items inner rest) : Node.Spelled (.list items none) s rest
  | emptyObject (s inner rest : List Char) (start : skipSpace s = '{' :: inner)
      (close : skipSpace inner = '}' :: rest) : Node.Spelled (.object [] none) s rest
  | object (members : List (Key × Node)) (s inner rest : List Char)
      (start : skipSpace s = '{' :: inner) (spelled : SpelledMembers members inner rest) :
      Node.Spelled (.object members none) s rest

/-- The items of a list, with a comma between each two, and the closing bracket. -/
inductive SpelledItems : List Node → List Char → List Char → Prop where
  | last (n : Node) (s after rest : List Char) (item : n.Spelled s after)
      (close : skipSpace after = ']' :: rest) : SpelledItems [n] s rest
  | next (n : Node) (items : List Node) (s after more rest : List Char)
      (item : n.Spelled s after) (comma : skipSpace after = ',' :: more)
      (later : SpelledItems items more rest) : SpelledItems (n :: items) s rest

/-- A member of an object: a key, a colon and a value. -/
inductive SpelledMember : Key × Node → List Char → List Char → Prop where
  | intro (ps : List Piece) (n : Node) (s inner behind more rest : List Char)
      (start : skipSpace s = '"' :: inner) (key : SpelledPieces ps inner behind)
      (colon : skipSpace behind = ':' :: more) (value : n.Spelled more rest) :
      SpelledMember (.quoted ⟨ps, none⟩, n) s rest

/-- The members of an object, with a comma between each two, and the closing brace. -/
inductive SpelledMembers : List (Key × Node) → List Char → List Char → Prop where
  | last (m : Key × Node) (s after rest : List Char) (member : SpelledMember m s after)
      (close : skipSpace after = '}' :: rest) : SpelledMembers [m] s rest
  | next (m : Key × Node) (members : List (Key × Node)) (s after more rest : List Char)
      (member : SpelledMember m s after) (comma : skipSpace after = ',' :: more)
      (later : SpelledMembers members more rest) : SpelledMembers (m :: members) s rest

end

/-- A text that holds one value, with nothing but space around it. -/
def Node.SpelledBy (n : Node) (text : String) : Prop :=
  ∃ rest, n.Spelled text.toList rest ∧ skipSpace rest = []

section Values

variable {n : Node} {m : Key × Node} {items : List Node} {members : List (Key × Node)}
  {s s' rest : List Char} {c : Char}

/-! ### A spelled tree is parsed -/

theorem length_skipSpace (s : List Char) : (skipSpace s).length ≤ s.length :=
  (List.dropWhile_suffix isSpace).length_le

theorem length_of_start (start : skipSpace s = c :: s') : s'.length < s.length := by
  have short := length_skipSpace s
  rw [start, List.length_cons] at short
  exact short

theorem apart_space (space : isSpace c = true) (s : List Char) : Apart (c :: s) := by
  refine apart_cons ?_
  simp only [isSpace, Bool.or_eq_true, beq_iff_eq] at space
  rcases space with ((rfl | rfl) | rfl) | rfl <;> decide

theorem apart_of_start (start : skipSpace s = c :: s')
    (other : isDigit c = false ∧ c ≠ '.' ∧ c ≠ 'e' ∧ c ≠ 'E') : Apart s := by
  cases s with
  | nil => exact apart_nil
  | cons d s =>
      by_cases space : isSpace d = true
      · exact apart_space space s
      · rw [skipSpace_cons (Bool.not_eq_true _ ▸ space)] at start
        rw [(List.cons.inj start).1]
        exact apart_cons other

theorem apart_of_blank (blank : skipSpace s = []) : Apart s := by
  cases s with
  | nil => exact apart_nil
  | cons d s =>
      by_cases space : isSpace d = true
      · exact apart_space space s
      · rw [skipSpace_cons (Bool.not_eq_true _ ▸ space)] at blank
        nomatch blank

theorem Digits.Spelled.length {d : Digits} (spelled : d.Spelled s rest) :
    rest.length < s.length := by
  obtain ⟨negative, whole, fraction, exponent, s₁, s₂, _, row, -, point, power⟩ := spelled
  have some : 0 < whole.length := List.length_pos_iff.mpr row.1
  have behind : rest.length ≤ s₂.length := by
    cases power with
    | none => exact Nat.le_refl _
    | some =>
        simp only [List.length_cons, List.length_append]
        omega
  have between : s₂.length ≤ s₁.length := by
    cases point with
    | none => exact Nat.le_refl _
    | some =>
        simp only [List.length_cons, List.length_append]
        omega
  simp only [List.length_append]
  omega

theorem SpelledPieces.length {ps : List Piece} (spelled : SpelledPieces ps s rest) :
    rest.length < s.length := by
  induction spelled with
  | close rest => exact Nat.lt_succ_self _
  | piece p ps s s' rest first more ih =>
      have shorter : s'.length < s.length := by
        cases first with
        | plain => exact Nat.lt_succ_self _
        | named | number =>
            simp only [List.length_cons]
            omega
      omega

theorem Word.letters_ne (w : Word) : ∃ c more, w.letters = c :: more := by
  rcases w with _ | _ | _ <;> exact ⟨_, _, rfl⟩

end Values

mutual

theorem Node.Spelled.length {n : Node} {s rest : List Char} :
    n.Spelled s rest → rest.length < s.length
  | .word w _ _ start => by
      obtain ⟨c, more, written⟩ := w.letters_ne
      rw [written, List.cons_append] at start
      have shorter := length_of_start start
      rw [List.length_append] at shorter
      omega
  | .number _ _ _ digits => Nat.lt_of_lt_of_le digits.length (length_skipSpace s)
  | .text _ _ _ _ start pieces => Nat.lt_trans pieces.length (length_of_start start)
  | .emptyList _ _ _ start close => Nat.lt_trans (length_of_start close) (length_of_start start)
  | .list _ _ _ _ start spelled =>
      Nat.lt_trans (SpelledItems.length spelled) (length_of_start start)
  | .emptyObject _ _ _ start close => Nat.lt_trans (length_of_start close) (length_of_start start)
  | .object _ _ _ _ start spelled =>
      Nat.lt_trans (SpelledMembers.length spelled) (length_of_start start)

theorem SpelledItems.length {items : List Node} {s rest : List Char} :
    SpelledItems items s rest → rest.length < s.length
  | .last _ _ _ _ item close => Nat.lt_trans (length_of_start close) (Node.Spelled.length item)
  | .next _ _ _ _ _ _ item comma later =>
      Nat.lt_trans (SpelledItems.length later)
        (Nat.lt_trans (length_of_start comma) (Node.Spelled.length item))

theorem SpelledMember.length {m : Key × Node} {s rest : List Char} :
    SpelledMember m s rest → rest.length < s.length
  | .intro _ _ _ _ _ _ _ start key colon value =>
      Nat.lt_trans (Node.Spelled.length value)
        (Nat.lt_trans (length_of_start colon) (Nat.lt_trans key.length (length_of_start start)))

theorem SpelledMembers.length {members : List (Key × Node)} {s rest : List Char} :
    SpelledMembers members s rest → rest.length < s.length
  | .last _ _ _ _ member close =>
      Nat.lt_trans (length_of_start close) (SpelledMember.length member)
  | .next _ _ _ _ _ _ member comma later =>
      Nat.lt_trans (SpelledMembers.length later)
        (Nat.lt_trans (length_of_start comma) (SpelledMember.length member))

end

section Steps

variable {s inner rest : List Char} {c : Char} {fuel : Nat}

theorem space_of_start (start : skipSpace s = c :: rest) : isSpace c = false := by
  have other := List.head?_dropWhile_not isSpace s
  rwa [show s.dropWhile isSpace = c :: rest from start] at other

theorem skipSpace_skipSpace (s : List Char) : skipSpace (skipSpace s) = skipSpace s := by
  cases start : skipSpace s with
  | nil => rfl
  | cons c rest => exact skipSpace_cons (space_of_start start)

theorem parseNode_skipSpace (fuel : Nat) (s : List Char) :
    parseNode (fuel + 1) (skipSpace s) = parseNode (fuel + 1) s := by
  rw [parseNode, parseNode, skipSpace_skipSpace]

theorem parseItems_skipSpace (fuel : Nat) (s : List Char) :
    parseItems (fuel + 2) (skipSpace s) = parseItems (fuel + 2) s := by
  rw [parseItems, parseItems, parseNode_skipSpace]

theorem parseNode_word {w : Word} (start : skipSpace s = w.letters ++ rest) :
    parseNode (fuel + 1) s = (.word (.ok w), rest) := by
  rw [← parseNode_skipSpace, start]
  rcases w with _ | _ | _
  · exact spell_append _ ['u', 'l', 'l'] rest
  · exact spell_append _ ['a', 'l', 's', 'e'] rest
  · exact spell_append _ ['r', 'u', 'e'] rest

theorem Digits.Spelled.head {d : Digits} (spelled : d.Spelled s rest) :
    ∃ c more, s = c :: more ∧ (c = '-' ∨ isDigit c = true) := by
  obtain ⟨negative, whole, fraction, exponent, s₁, s₂, _, row, -, -, -⟩ := spelled
  cases negative with
  | true => exact ⟨'-', _, rfl, Or.inl rfl⟩
  | false =>
      obtain ⟨c, more, rfl, digit⟩ := row.head
      exact ⟨c, more ++ s₁, rfl, Or.inr digit⟩

theorem parseNode_digits {d : Digits} (spelled : d.Spelled (skipSpace s) rest)
    (apart : Apart rest) : parseNode (fuel + 1) s = (.number (.ofDigits d), rest) := by
  have scanned := Numeral.scan_of_spelled spelled apart
  obtain ⟨c, more, written, starts⟩ := spelled.head
  rw [← parseNode_skipSpace, written, parseNode_number starts, ← written, scanned]

theorem parseNode_text {ps : List Piece} (start : skipSpace s = '"' :: inner)
    (pieces : SpelledPieces ps inner rest) :
    parseNode (fuel + 1) s = (.text ⟨ps, none⟩, rest) := by
  rw [parseNode, start]
  simp only [Quoted.scan_of_spelled pieces]

/-- Space behind an opening bracket is passed over, and again where the first item is read. -/
theorem parseNode_items (start : skipSpace s = '[' :: inner) (item : skipSpace inner = c :: rest)
    (other : c ≠ ']') : parseNode (fuel + 3) s = (.list (parseItems (fuel + 2) inner).1
      (parseItems (fuel + 2) inner).2.1, (parseItems (fuel + 2) inner).2.2) := by
  have closer : parseNode (fuel + 3) ('[' :: inner) = parseNode (fuel + 3) ('[' :: c :: rest) := by
    rw [parseNode, parseNode, skipSpace_cons (by decide), skipSpace_cons (by decide)]
    simp only [item, skipSpace_cons (space_of_start item)]
  rw [← parseNode_skipSpace, start, closer, parseNode_list (space_of_start item) other, ← item,
    parseItems_skipSpace]

theorem parseMembers_skipSpace (fuel : Nat) (s : List Char) :
    parseMembers (fuel + 1) (skipSpace s) = parseMembers (fuel + 1) s := by
  rw [parseMembers, parseMembers, skipSpace_skipSpace]

theorem parseNode_members (start : skipSpace s = '{' :: inner)
    (member : skipSpace inner = '"' :: rest) :
    parseNode (fuel + 2) s = (.object (parseMembers (fuel + 1) inner).1
      (parseMembers (fuel + 1) inner).2.1, (parseMembers (fuel + 1) inner).2.2) := by
  have closer :
      parseNode (fuel + 2) ('{' :: inner) = parseNode (fuel + 2) ('{' :: '"' :: rest) := by
    rw [parseNode, parseNode, skipSpace_cons (by decide), skipSpace_cons (by decide)]
    simp only [member, skipSpace_cons (space_of_start member)]
  rw [← parseNode_skipSpace, start, closer, parseNode_object, ← member, parseMembers_skipSpace]

/-- A value begins with a character that does not close a list. -/
theorem Node.Spelled.head {n : Node} (spelled : n.Spelled s rest) :
    ∃ c more, skipSpace s = c :: more ∧ c ≠ ']' := by
  cases spelled with
  | word w _ _ start =>
      rw [start]
      rcases w with _ | _ | _ <;> exact ⟨_, _, rfl, by decide⟩
  | number d _ _ digits =>
      obtain ⟨c, more, written, rfl | digit⟩ := digits.head
      · exact ⟨_, _, written, by decide⟩
      · exact ⟨c, more, written, digit_ne digit (by decide)⟩
  | text _ _ _ _ start _ => exact ⟨_, _, start, by decide⟩
  | emptyList _ _ _ start _ => exact ⟨_, _, start, by decide⟩
  | list _ _ _ _ start _ => exact ⟨_, _, start, by decide⟩
  | emptyObject _ _ _ start _ => exact ⟨_, _, start, by decide⟩
  | object _ _ _ _ start _ => exact ⟨_, _, start, by decide⟩

theorem SpelledItems.head {items : List Node} (spelled : SpelledItems items s rest) :
    ∃ c more, skipSpace s = c :: more ∧ c ≠ ']' := by
  cases spelled with
  | last _ _ _ _ item _ => exact item.head
  | next _ _ _ _ _ _ item _ _ => exact item.head

theorem SpelledMembers.head {members : List (Key × Node)}
    (spelled : SpelledMembers members s rest) : ∃ more, skipSpace s = '"' :: more := by
  cases spelled with
  | last _ _ _ _ member _ =>
      cases member with
      | intro _ _ _ _ _ _ _ start _ _ _ => exact ⟨_, start⟩
  | next _ _ _ _ _ _ member _ _ =>
      cases member with
      | intro _ _ _ _ _ _ _ start _ _ _ => exact ⟨_, start⟩

end Steps

theorem apart_comma {s more : List Char} (comma : skipSpace s = ',' :: more) : Apart s :=
  apart_of_start comma (by decide)

mutual

/-- A spelled tree is parsed, given enough steps and something apart behind it. The count of
    steps is that of the characters, twice over. -/
theorem parseNode_of_spelled {n : Node} {s rest : List Char} : n.Spelled s rest → Apart rest →
    ∀ fuel, 2 * s.length ≤ 2 * rest.length + (fuel + 2) → parseNode (fuel + 2) s = (n, rest)
  | .word _ _ _ start, _, _, _ => parseNode_word start
  | .number _ _ _ digits, apart, _, _ => parseNode_digits digits apart
  | .text _ _ _ _ start pieces, _, _, _ => parseNode_text start pieces
  | .emptyList _ _ _ start close, _, _, _ => by
      rw [parseNode, start]
      simp only [close]
  | .emptyObject _ _ _ start close, _, _, _ => by
      rw [parseNode, start]
      simp only [close]
  | .list _ _ _ _ start spelled, _, fuel, enough => by
      -- what is inside is shorter by the bracket, which pays for the two steps
      have shorter := length_of_start start
      have some := SpelledItems.length spelled
      obtain ⟨fuel, rfl⟩ : ∃ k, fuel = k + 2 := ⟨fuel - 2, by omega⟩
      have items := parseItems_of_spelled spelled fuel (by omega)
      obtain ⟨c, more, item, other⟩ := SpelledItems.head spelled
      rw [parseNode_items start item other, items]
  | .object _ _ _ _ start spelled, _, fuel, enough => by
      have shorter := length_of_start start
      have some := SpelledMembers.length spelled
      obtain ⟨fuel, rfl⟩ : ∃ k, fuel = k + 2 := ⟨fuel - 2, by omega⟩
      have members := parseMembers_of_spelled spelled fuel (by omega)
      obtain ⟨more, member⟩ := SpelledMembers.head spelled
      rw [parseNode_members start member, members]

theorem parseItems_of_spelled {items : List Node} {s rest : List Char} :
    SpelledItems items s rest → ∀ fuel, 2 * s.length + 1 ≤ 2 * rest.length + (fuel + 3) →
      parseItems (fuel + 3) s = (items, none, rest)
  | .last _ _ _ _ item close, fuel, enough => by
      have shorter := length_of_start close
      rw [parseItems, parseNode_of_spelled item (apart_of_start close (by decide)) fuel (by omega)]
      simp only [close]
  | .next _ _ _ _ _ _ item comma later, fuel, enough => by
      have shorter := length_of_start comma
      have before := Node.Spelled.length item
      have some := SpelledItems.length later
      obtain ⟨fuel, rfl⟩ : ∃ k, fuel = k + 1 := ⟨fuel - 1, by omega⟩
      rw [parseItems, parseNode_of_spelled item (apart_comma comma) _ (by omega)]
      simp only [comma, parseItems_of_spelled later fuel (by omega)]

theorem parseMembers_of_spelled {members : List (Key × Node)} {s rest : List Char} :
    SpelledMembers members s rest → ∀ fuel, 2 * s.length + 1 ≤ 2 * rest.length + (fuel + 3) →
      parseMembers (fuel + 3) s = (members, none, rest)
  | .last _ _ _ _ (.intro _ _ _ _ _ _ _ start key colon value) close, fuel, enough => by
      have shorter := length_of_start close
      have before := length_of_start start
      have inside := key.length
      have behind := length_of_start colon
      have parsed := parseNode_of_spelled value (apart_of_start close (by decide)) fuel (by omega)
      rw [parseMembers, start]
      simp only [Quoted.scan_of_spelled key, colon, parsed, close]
  | .next _ _ _ _ _ _ (.intro _ _ _ _ _ _ _ start key colon value) comma later, fuel, enough => by
      have shorter := length_of_start comma
      have before := length_of_start start
      have inside := key.length
      have behind := length_of_start colon
      have ahead := Node.Spelled.length value
      have some := SpelledMembers.length later
      obtain ⟨fuel, rfl⟩ : ∃ k, fuel = k + 1 := ⟨fuel - 1, by omega⟩
      have parsed := parseNode_of_spelled value (apart_comma comma) (fuel + 1) (by omega)
      rw [parseMembers, start]
      simp only [Quoted.scan_of_spelled key, colon, parsed, comma,
        parseMembers_of_spelled later fuel (by omega)]

end

/-- A text that holds a value is parsed to its tree. -/
theorem parse_of_spelledBy {n : Node} {text : String} (spelled : n.SpelledBy text) :
    ∃ rest, Node.parse text.toList = (n, rest) ∧ skipSpace rest = [] := by
  obtain ⟨rest, whole, blank⟩ := spelled
  have apart := apart_of_blank blank
  exact ⟨rest, parseNode_of_spelled whole apart (2 * text.toList.length) (by omega), blank⟩

/-! ### A parsed tree is spelled -/

mutual

/-- Every number in a tree was scanned to its end or is broken. -/
def Node.Sane : Node → Prop
  | .number n => n.fault = none ∨ n.Broken
  | .list items _ => SaneItems items
  | .object members _ => SaneMembers members
  | .cut _ | .word _ | .text _ => True

/-- Every number in a list. -/
def SaneItems : List Node → Prop
  | [] => True
  | n :: rest => n.Sane ∧ SaneItems rest

/-- Every number in an object. -/
def SaneMembers : List (Key × Node) → Prop
  | [] => True
  | (_, n) :: rest => n.Sane ∧ SaneMembers rest

end

theorem orFault_eq_none {f g : Option Fault} : orFault f g = none ↔ f = none ∧ g = none := by
  cases f <;> simp [orFault]

mutual

/-- A spelled tree has no fault. -/
theorem Node.Spelled.whole {n : Node} {s rest : List Char} : n.Spelled s rest → n.skip = none
  | .word .. | .number .. | .text .. | .emptyList .. | .emptyObject .. => rfl
  | .list _ _ _ _ _ spelled => orFault_eq_none.mpr ⟨SpelledItems.whole spelled, rfl⟩
  | .object _ _ _ _ _ spelled => orFault_eq_none.mpr ⟨SpelledMembers.whole spelled, rfl⟩

theorem SpelledItems.whole {items : List Node} {s rest : List Char} :
    SpelledItems items s rest → Node.skipItems items = none
  | .last _ _ _ _ item _ => orFault_eq_none.mpr ⟨Node.Spelled.whole item, rfl⟩
  | .next _ _ _ _ _ _ item _ later =>
      orFault_eq_none.mpr ⟨Node.Spelled.whole item, SpelledItems.whole later⟩

theorem SpelledMembers.whole {members : List (Key × Node)} {s rest : List Char} :
    SpelledMembers members s rest → Node.skipMembers members = none
  | .last _ _ _ _ (.intro _ _ _ _ _ _ _ _ _ _ value) _ =>
      orFault_eq_none.mpr ⟨orFault_eq_none.mpr ⟨rfl, Node.Spelled.whole value⟩, rfl⟩
  | .next _ _ _ _ _ _ (.intro _ _ _ _ _ _ _ _ _ _ value) _ later =>
      orFault_eq_none.mpr
        ⟨orFault_eq_none.mpr ⟨rfl, Node.Spelled.whole value⟩, SpelledMembers.whole later⟩

end

/-- What a text is parsed to: a tree of sane numbers that is spelled, if it has no fault. -/
def Node.Parsed (s : List Char) (found : Node × List Char) : Prop :=
  found.1.Sane ∧ (found.1.skip = none → found.1.Spelled s found.2)

def ItemsParsed (s : List Char) (found : List Node × Option Fault × List Char) : Prop :=
  SaneItems found.1 ∧
    (Node.skipItems found.1 = none → found.2.1 = none → SpelledItems found.1 s found.2.2)

def MembersParsed (s : List Char) (found : List (Key × Node) × Option Fault × List Char) : Prop :=
  SaneMembers found.1 ∧
    (Node.skipMembers found.1 = none → found.2.1 = none → SpelledMembers found.1 s found.2.2)

theorem Node.Spelled.of_skipSpace {n : Node} {s rest : List Char}
    (spelled : n.Spelled (skipSpace s) rest) : n.Spelled s rest := by
  have same := skipSpace_skipSpace s
  cases spelled with
  | word w _ _ start => exact .word w s rest (same ▸ start)
  | number d _ _ digits => exact .number d s rest (same ▸ digits)
  | text ps _ inner _ start pieces => exact .text ps s inner rest (same ▸ start) pieces
  | emptyList _ inner _ start close => exact .emptyList s inner rest (same ▸ start) close
  | list items _ inner _ start spelled => exact .list items s inner rest (same ▸ start) spelled
  | emptyObject _ inner _ start close => exact .emptyObject s inner rest (same ▸ start) close
  | object members _ inner _ start spelled =>
      exact .object members s inner rest (same ▸ start) spelled

theorem SpelledItems.of_skipSpace {items : List Node} {s rest : List Char}
    (spelled : SpelledItems items (skipSpace s) rest) : SpelledItems items s rest := by
  cases spelled with
  | last n _ after _ item close => exact .last n s after rest item.of_skipSpace close
  | next n items _ after more _ item comma later =>
      exact .next n items s after more rest item.of_skipSpace comma later

theorem SpelledMember.of_skipSpace {m : Key × Node} {s rest : List Char}
    (spelled : SpelledMember m (skipSpace s) rest) : SpelledMember m s rest := by
  cases spelled with
  | intro ps n _ inner behind more _ start key colon value =>
      exact .intro ps n s inner behind more rest (skipSpace_skipSpace s ▸ start) key colon value

theorem SpelledMembers.of_skipSpace {members : List (Key × Node)} {s rest : List Char}
    (spelled : SpelledMembers members (skipSpace s) rest) : SpelledMembers members s rest := by
  cases spelled with
  | last m _ after _ member close => exact .last m s after rest member.of_skipSpace close
  | next m members _ after more _ member comma later =>
      exact .next m members s after more rest member.of_skipSpace comma later

theorem parsed_spell {w : Word} {c : Char} {cs s rest : List Char} (written : w.letters = c :: cs)
    (start : skipSpace s = c :: rest) : Node.Parsed s (spell w cs rest) := by
  have spelled (cs rest : List Char) : (spell w cs rest).1.Sane ∧
      ((spell w cs rest).1.skip = none →
        (spell w cs rest).1 = .word (.ok w) ∧ rest = cs ++ (spell w cs rest).2) := by
    fun_induction spell w cs rest with
    | case1 s => exact ⟨trivial, fun _ => ⟨rfl, rfl⟩⟩
    | case2 | case4 => exact ⟨trivial, nofun⟩
    | case3 cs c s ih => exact ⟨ih.1, fun whole => ⟨(ih.2 whole).1, congrArg _ (ih.2 whole).2⟩⟩
  obtain ⟨sane, found⟩ := spelled cs rest
  refine ⟨sane, fun whole => ?_⟩
  obtain ⟨word, parts⟩ := found whole
  rw [word]
  refine .word w s _ ?_
  rw [start, written, List.cons_append, ← parts]

theorem parsed_number {s : List Char} :
    Node.Parsed s (.number (Numeral.scan (skipSpace s)).1, (Numeral.scan (skipSpace s)).2) := by
  rcases Numeral.scan_cases (skipSpace s) with ⟨d, scanned, digits⟩ | broken
  · unfold Node.Parsed
    dsimp only
    rw [scanned]
    exact ⟨Or.inl rfl, fun _ => .number d s _ digits⟩
  · refine ⟨Or.inr broken, fun whole => ?_⟩
    obtain ⟨f, g, same⟩ := broken
    change (Numeral.scan (skipSpace s)).1.fault = none at whole
    rw [same] at whole
    nomatch whole

theorem parsed_bracket {s inner : List Char} {found : List Node × Option Fault × List Char}
    (start : skipSpace s = '[' :: inner) (items : ItemsParsed (skipSpace inner) found) :
    Node.Parsed s (.list found.1 found.2.1, found.2.2) := by
  refine ⟨items.1, fun whole => ?_⟩
  obtain ⟨each, fault⟩ := orFault_eq_none.mp whole
  dsimp only
  rw [fault]
  exact .list _ s inner _ start (items.2 each fault).of_skipSpace

theorem parsed_brace {s inner : List Char} {found : List (Key × Node) × Option Fault × List Char}
    (start : skipSpace s = '{' :: inner) (members : MembersParsed (skipSpace inner) found) :
    Node.Parsed s (.object found.1 found.2.1, found.2.2) := by
  refine ⟨members.1, fun whole => ?_⟩
  obtain ⟨each, fault⟩ := orFault_eq_none.mp whole
  dsimp only
  rw [fault]
  exact .object _ s inner _ start (members.2 each fault).of_skipSpace

theorem parse_parsed (fuel : Nat) : (∀ s, Node.Parsed s (parseNode fuel s)) ∧
    (∀ s, ItemsParsed s (parseItems fuel s)) ∧ ∀ s, MembersParsed s (parseMembers fuel s) := by
  induction fuel with
  | zero => exact ⟨fun _ => ⟨trivial, nofun⟩, fun _ => ⟨trivial, nofun⟩, fun _ => ⟨trivial, nofun⟩⟩
  | succ fuel ih =>
      obtain ⟨nodes, items, members⟩ := ih
      refine ⟨fun s => ?_, fun s => ?_, fun s => ?_⟩
      · rw [parseNode]
        split
        · exact ⟨trivial, nofun⟩
        · next start => exact parsed_spell rfl start
        · next start => exact parsed_spell rfl start
        · next start => exact parsed_spell rfl start
        · next inner start =>
            have scanned := Quoted.spelled_scan inner
            generalize Quoted.scan inner = found at scanned ⊢
            obtain ⟨⟨ps, fault⟩, rest⟩ := found
            refine ⟨trivial, fun whole => ?_⟩
            obtain rfl : fault = none := whole
            exact .text ps s inner rest start (scanned rfl)
        · next inner start =>
            have found := items (skipSpace inner)
            split
            · exact ⟨trivial, nofun⟩
            · next close => exact ⟨trivial, fun _ => .emptyList s inner _ start close⟩
            · exact parsed_bracket start found
        · next inner start =>
            have found := members (skipSpace inner)
            split
            · exact ⟨trivial, nofun⟩
            · next close => exact ⟨trivial, fun _ => .emptyObject s inner _ start close⟩
            · exact parsed_brace start found
        · next start =>
            rw [← start]
            split
            · exact parsed_number
            · exact ⟨trivial, nofun⟩
      · have item := nodes s
        rw [parseItems]
        generalize parseNode fuel s = found at item ⊢
        obtain ⟨n, after⟩ := found
        dsimp only
        split
        · exact ⟨⟨item.1, trivial⟩, fun _ => nofun⟩
        · next rest close =>
            refine ⟨⟨item.1, trivial⟩, fun each _ => ?_⟩
            exact .last n s after rest (item.2 (orFault_eq_none.mp each).1) close
        · next more comma =>
            obtain ⟨sane, later⟩ := items more
            refine ⟨⟨item.1, sane⟩, fun each fault => ?_⟩
            obtain ⟨first, others⟩ := orFault_eq_none.mp each
            exact .next n _ s after more _ (item.2 first) comma (later others fault)
        · exact ⟨⟨item.1, trivial⟩, fun _ => nofun⟩
      · rw [parseMembers]
        split
        · exact ⟨⟨trivial, trivial⟩, nofun⟩
        · next inner start =>
            have scanned := Quoted.spelled_scan inner
            generalize Quoted.scan inner = found at scanned ⊢
            obtain ⟨⟨ps, broken⟩, behind⟩ := found
            dsimp only
            split
            · exact ⟨⟨trivial, trivial⟩, fun each =>
                nomatch (orFault_eq_none.mp (orFault_eq_none.mp each).1).2⟩
            · next more colon =>
                have value := nodes more
                generalize parseNode fuel more = found at value ⊢
                obtain ⟨n, after⟩ := found
                -- a member that has no fault is spelled, whatever comes behind it
                have member (rest : List (Key × Node))
                    (each : Node.skipMembers ((.quoted ⟨ps, broken⟩, n) :: rest) = none) :
                    SpelledMember (.quoted ⟨ps, broken⟩, n) s after ∧
                      Node.skipMembers rest = none := by
                  obtain ⟨first, others⟩ := orFault_eq_none.mp each
                  obtain ⟨key, whole⟩ := orFault_eq_none.mp first
                  obtain rfl : broken = none := key
                  exact ⟨.intro ps n s inner behind more after start (scanned rfl) colon
                    (value.2 whole), others⟩
                dsimp only
                split
                · exact ⟨⟨value.1, trivial⟩, fun _ => nofun⟩
                · next rest close =>
                    exact ⟨⟨value.1, trivial⟩, fun each _ =>
                      .last _ s after rest (member [] each).1 close⟩
                · next later comma =>
                    obtain ⟨sane, others⟩ := members later
                    refine ⟨⟨value.1, sane⟩, fun each fault => ?_⟩
                    obtain ⟨first, rest⟩ := member _ each
                    exact .next _ _ s after later _ first comma (others rest fault)
                · exact ⟨⟨value.1, trivial⟩, fun _ => nofun⟩
            · exact ⟨⟨trivial, trivial⟩, fun each =>
                nomatch (orFault_eq_none.mp (orFault_eq_none.mp each).1).2⟩
        · exact ⟨⟨trivial, trivial⟩, nofun⟩

/-- A tree without a fault is spelled where it was parsed. -/
theorem Node.parse_parsed (s : List Char) : Node.Parsed s (Node.parse s) :=
  (Json.parse_parsed _).1 s

end Json

end DisplayHub
