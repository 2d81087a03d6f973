import DisplayHub.Json.Reading
import DisplayHub.Json.Value

/-!
# The tree of a written value

What a reader of JSON finds in a text that this library wrote.

Writing and parsing are both recursive over the structure of a value, but they
do not cut the text in the same places. A value is written without regard to
what comes after it, while the parser finds the end of a number only by
meeting a character that cannot belong to it, and finds out whether a bracket
opens an empty list before it parses the first item. So the statement that is
proved by induction is about a written value with something `Apart` after it,
and besides it there is a lemma on the characters that a value can start with.

The parser counts its steps. Twice the length of what is written is enough
for one value, and one more for the items or members that follow an opening
bracket. The count that `Node.parse` begins with is above that.

Whole numbers are the one place where a value can fail to come back: beyond 64
bits the parser takes them for fractions. Every other value is its tree.

## Main definitions

* `Quoted.written`, `Numeral.written`: What a scan finds in a written text
  and a written number.
* `Value.node`: The tree of a written value.
* `Apart`: A text that cannot be taken for the rest of a number.

## Theorems

* `Numeral.scan_written`, `Numeral.value_written`: A written number is scanned
  to its end, and is itself if it fits 64 bits.
* `parseNode_render`: A written value is parsed to its tree.
* `parse_render`: So is a text that holds nothing else.
-/

namespace DisplayHub

namespace Json

/-! ### Digits -/

/-- A digit of a number is a digit to the parser. -/
theorem isDigit_digitChar {d : Nat} (small : d < 10) : isDigit (Nat.digitChar d) = true := by
  have all : ∀ d : Fin 10, isDigit (Nat.digitChar d) = true := by decide
  exact all ⟨d, small⟩

/-- A number is written in digits. -/
theorem isDigit_of_mem_decimal {n : Nat} {c : Char} (member : c ∈ Text.decimal n) :
    isDigit c = true := by
  revert c
  -- a number is one digit, or a shorter number with one more digit behind it
  refine Text.toDigits_induct 10 (P := fun _ s => ∀ {c}, c ∈ s → isDigit c = true) (by decide)
    (fun d small c member => ?_) (fun _ d s _ small _ ih c member => ?_) n
  · rw [List.mem_singleton.mp member]
    exact isDigit_digitChar small
  · rcases List.mem_append.mp member with member | member
    · exact ih member
    · rw [List.mem_singleton.mp member]
      exact isDigit_digitChar small

/-- A positive number does not start with a zero. -/
theorem decimal_head {n : Nat} (positive : 0 < n) : (Text.decimal n).head? ≠ some '0' := by
  revert positive
  refine Text.toDigits_induct 10 (P := fun n s => 0 < n → s.head? ≠ some '0') (by decide)
    (fun d _ positive zero => ?_) (fun _ d s front _ more ih _ zero => ?_) n
  · have : d = 0 := Nat.digitChar_eq_zero.mp (Option.some.inj zero)
    omega
  · obtain ⟨c, s, rfl⟩ := List.exists_cons_of_ne_nil more
    exact ih front zero

/-- Taking more digits goes on from the significand so far. -/
theorem fillSignificand_append {m k : Nat} {s t : List Char}
    (filled : fillSignificand m s = (k, [])) :
    fillSignificand m (s ++ t) = fillSignificand k t := by
  -- each digit changes the significand that the rest starts from
  induction s generalizing m with
  | nil =>
      rw [fillSignificand, Prod.mk.injEq] at filled
      rw [filled.1, List.nil_append]
  | cons c s ih =>
      rw [List.cons_append]
      simp only [fillSignificand] at filled ⊢
      split at filled
      · next fits =>
          rw [if_pos fits]
          exact ih filled
      · rw [Prod.mk.injEq] at filled
        exact absurd filled.2 nofun

/-- The digits of a number of 64 bits fill a significand with that number. -/
theorem fillSignificand_decimal {n : Nat} (fits : n < 0x10000000000000000) :
    fillSignificand 0 (Text.decimal n) = (n, []) := by
  revert fits
  refine Text.toDigits_induct 10
    (P := fun n s => n < 0x10000000000000000 → fillSignificand 0 s = (n, [])) (by decide)
    (fun d small fits => ?_) (fun _ d s _ small _ ih fits => ?_) n
  · simp only [fillSignificand, Nat.toNat_digitChar_sub_48_of_lt_ten small, Nat.zero_mul,
      Nat.zero_add, if_pos fits]
  · -- what a number starts with is smaller than the number, so it fits as well
    rw [fillSignificand_append (ih (by omega))]
    simp only [fillSignificand, Nat.toNat_digitChar_sub_48_of_lt_ten small, if_pos fits]

/-! ### Numbers -/

/-- The parts of a whole number as it is written. -/
def Digits.written (n : Int) : Digits :=
  ⟨decide (n < 0), Text.decimal n.natAbs, none, none⟩

/-- A whole number as it is scanned from its written form. -/
def Numeral.written (n : Int) : Numeral :=
  .ofDigits (.written n)

/-- A text that cannot be taken for the rest of a number. -/
def Apart (s : List Char) : Prop :=
  ∀ c ∈ s.head?, isDigit c = false ∧ c ≠ '.' ∧ c ≠ 'e' ∧ c ≠ 'E'

theorem apart_nil : Apart [] :=
  nofun

theorem apart_cons {c : Char} {s : List Char}
    (other : isDigit c = false ∧ c ≠ '.' ∧ c ≠ 'e' ∧ c ≠ 'E') : Apart (c :: s) := by
  intro d head
  rwa [← Option.some.inj head]

/-- Digits are told from what is apart from them. -/
theorem spanDigits_append {digits rest : List Char} (row : ∀ c ∈ digits, isDigit c = true)
    (stop : ∀ c ∈ rest.head?, isDigit c = false) :
    spanDigits (digits ++ rest) = (digits, rest) := by
  have ended : rest.takeWhile isDigit = [] ∧ rest.dropWhile isDigit = rest := by
    cases rest with
    | nil => exact ⟨rfl, rfl⟩
    | cons c rest =>
        have other := stop c rfl
        exact ⟨List.takeWhile_cons_of_neg (by simp [other]),
          List.dropWhile_cons_of_neg (by simp [other])⟩
  rw [spanDigits, List.takeWhile_append_of_pos row, List.dropWhile_append_of_pos row, ended.1,
    ended.2, List.append_nil]

/-- A number with nothing of a fraction after it is closed at once. -/
theorem scanFraction_of_apart (negative : Bool) (whole : List Char) {rest : List Char}
    (apart : Apart rest) :
    scanFraction negative whole rest = (.ofDigits ⟨negative, whole, none, none⟩, rest) := by
  cases rest with
  | nil => rfl
  | cons c rest =>
      obtain ⟨-, point, small, large⟩ := apart c rfl
      rw [scanFraction]
      · exact if_neg (by simp [small, large])
      · intro _ found
        exact point (List.cons.inj found).1

/-- The digits of a number are scanned to their end. -/
theorem scanUnsigned_decimal (negative : Bool) (n : Nat) {rest : List Char} (apart : Apart rest) :
    scanUnsigned negative (Text.decimal n ++ rest)
      = (.ofDigits ⟨negative, Text.decimal n, none, none⟩, rest) := by
  have span : spanDigits (Text.decimal n ++ rest) = (Text.decimal n, rest) :=
    spanDigits_append (fun _ => isDigit_of_mem_decimal) fun c head => (apart c head).1
  rw [scanUnsigned, span]
  split
  · next none => exact absurd (congrArg Prod.fst none) Nat.toDigits_ne_nil
  · next c s after zero =>
      -- Only zero starts with a zero, and it has no second digit.
      have zero : Text.decimal n = '0' :: c :: s := congrArg Prod.fst zero
      rcases Nat.eq_zero_or_pos n with rfl | positive
      · exact absurd (List.cons.inj zero).2 nofun
      · exact absurd (congrArg List.head? zero) (decimal_head positive)
  · next whole after _ _ found =>
      obtain ⟨rfl, rfl⟩ := Prod.mk.inj found
      exact scanFraction_of_apart negative _ apart

/-- A written number is scanned to its end. -/
theorem Numeral.scan_written (n : Int) {rest : List Char} (apart : Apart rest) :
    Numeral.scan (Text.decimalInt n ++ rest) = (Numeral.written n, rest) := by
  cases n with
  | ofNat n =>
      have unsigned : Numeral.scan (Text.decimal n ++ rest)
          = scanUnsigned false (Text.decimal n ++ rest) := by
        rw [Numeral.scan]
        -- it starts with a digit, which is no minus
        rintro s minus
        have first : '-' ∈ (Text.decimal n).head? := by
          obtain ⟨c, digits, written⟩ := List.exists_cons_of_ne_nil (Nat.toDigits_ne_nil (n := n))
          rw [Text.decimal, written] at minus ⊢
          exact congrArg some (List.cons.inj minus).1
        exact absurd (isDigit_of_mem_decimal (List.mem_of_mem_head? first)) (by decide)
      rw [Text.decimalInt, unsigned, scanUnsigned_decimal false n apart]
      rfl
  | negSucc n =>
      rw [Text.decimalInt, List.cons_append, Numeral.scan, scanUnsigned_decimal true _ apart,
        Numeral.written, Digits.written, decide_eq_true (Int.negSucc_lt_zero n), Int.natAbs_negSucc]

/-- A number of 64 bits, with sign or without, is written as itself. -/
theorem Numeral.value_written {n : Int} (low : -0x8000000000000000 ≤ n)
    (high : n < 0x10000000000000000) : (Numeral.written n).value = .ok (some n) := by
  have filled : fillSignificand 0 (Text.decimal n.natAbs) = (n.natAbs, []) :=
    fillSignificand_decimal (by omega)
  simp only [Numeral.written, Numeral.ofDigits, Digits.value, Digits.written, filled,
    decide_eq_true_eq]
  split
  · next negative =>
      rw [if_neg (by omega), show -(n.natAbs : Int) = n by omega]
  · next positive =>
      rw [show (n.natAbs : Int) = n by omega]

/-! ### Texts -/

/-- A text as it is scanned from its written form. -/
def Quoted.written (s : String) : Quoted :=
  (Quoted.scan (s.toList.flatMap escape ++ ['"'])).1

/-- A written text is scanned to its end. -/
theorem Quoted.scan_written (s : String) (rest : List Char) :
    Quoted.scan (s.toList.flatMap escape ++ '"' :: rest) = (Quoted.written s, rest) := by
  obtain ⟨q, scanned, -⟩ := read_quoted s
  rw [Quoted.written, scanned, scanned]

/-- A written text is itself. -/
theorem Quoted.read_written (s : String) : (Quoted.written s).read = .ok s := by
  obtain ⟨q, scanned, read⟩ := read_quoted s
  rwa [Quoted.written, scanned]

/-! ### Values -/

mutual

/-- The tree of a written value. -/
def Value.node : Value → Node
  | .null => .word (.ok .null)
  | .bool b => .word (.ok (.bool b))
  | .int n => .number (.written n)
  | .text s => .text (.written s)
  | .list items => .list (Value.itemNodes items) none
  | .object members => .object (Value.memberNodes members) none

/-- The trees of written items. -/
def Value.itemNodes : List Value → List Node
  | [] => []
  | v :: rest => v.node :: Value.itemNodes rest

/-- The keys and trees of written members. -/
def Value.memberNodes : List (String × Value) → List (Key × Node)
  | [] => []
  | (k, v) :: rest => (.quoted (.written k), v.node) :: Value.memberNodes rest

end

/-- A digit is none of the characters that mean something else to the
    parser. -/
theorem digit_ne {c d : Char} (digit : isDigit c = true) (other : isDigit d = false) : c ≠ d := by
  rintro rfl
  exact absurd digit (by simp [other])

/-- A number starts with a minus or a digit. -/
theorem decimalInt_head (n : Int) :
    ∃ c s, Text.decimalInt n = c :: s ∧ (c = '-' ∨ isDigit c = true) := by
  cases n with
  | ofNat n =>
      obtain ⟨c, s, written⟩ := List.exists_cons_of_ne_nil (Nat.toDigits_ne_nil (n := n) (b := 10))
      have member : c ∈ Text.decimal n := by
        rw [Text.decimal, written]
        exact List.mem_cons_self
      exact ⟨c, s, written, .inr (isDigit_of_mem_decimal member)⟩
  | negSucc n => exact ⟨'-', _, rfl, .inl rfl⟩

/-- A value starts with a character that is neither space nor the end of a
    list. -/
theorem render_head (v : Value) :
    ∃ c s, v.render = c :: s ∧ isSpace c = false ∧ c ≠ ']' := by
  cases v with
  | null => exact ⟨_, _, rfl, by decide, by decide⟩
  | bool b => cases b <;> exact ⟨_, _, rfl, by decide, by decide⟩
  | int n =>
      obtain ⟨c, s, written, minus | digit⟩ := decimalInt_head n
      · exact ⟨c, s, written, by rw [minus]; decide, by rw [minus]; decide⟩
      · have space : isSpace c = false := by
          simp [isSpace, digit_ne digit (show isDigit ' ' = false by decide),
            digit_ne digit (show isDigit '\n' = false by decide),
            digit_ne digit (show isDigit '\t' = false by decide),
            digit_ne digit (show isDigit '\r' = false by decide)]
        exact ⟨c, s, written, space, digit_ne digit (by decide)⟩
  | text s => exact ⟨_, _, rfl, by decide, by decide⟩
  | list items => cases items <;> exact ⟨_, _, rfl, by decide, by decide⟩
  | object members =>
      rcases members with _ | ⟨⟨_, _⟩, _⟩ <;> exact ⟨_, _, rfl, by decide, by decide⟩

/-- A text that starts with no space is not moved by skipping it. -/
theorem skipSpace_cons {c : Char} {s : List Char} (other : isSpace c = false) :
    skipSpace (c :: s) = c :: s :=
  List.dropWhile_cons_of_neg (by simp [other])

/-- What starts like a number is scanned as one. -/
theorem parseNode_number {c : Char} {s : List Char} (starts : c = '-' ∨ isDigit c = true)
    (fuel : Nat) :
    parseNode (fuel + 1) (c :: s)
      = (.number (Numeral.scan (c :: s)).1, (Numeral.scan (c :: s)).2) := by
  have ne {d : Char} (minus : '-' ≠ d) (other : isDigit d = false) : c ≠ d := by
    rcases starts with rfl | digit
    · exact minus
    · exact digit_ne digit other
  have space : isSpace c = false := by
    simp [isSpace, ne (show '-' ≠ ' ' by decide) (by decide),
      ne (show '-' ≠ '\n' by decide) (by decide), ne (show '-' ≠ '\t' by decide) (by decide),
      ne (show '-' ≠ '\r' by decide) (by decide)]
  rw [parseNode, skipSpace_cons space]
  -- a number starts with none of the other characters that the parser looks for
  split
  case h_1 found => exact absurd found nofun
  case h_8 found =>
    obtain ⟨rfl, rfl⟩ := List.cons.inj found
    rw [if_pos starts]
  all_goals
    next found => exact absurd (List.cons.inj found).1 (ne (by decide) (by decide))

/-- A list with something in it is parsed item by item. -/
theorem parseNode_list {c : Char} {s : List Char} (space : isSpace c = false) (item : c ≠ ']')
    (fuel : Nat) :
    parseNode (fuel + 1) ('[' :: c :: s)
      = (.list (parseItems fuel (c :: s)).1 (parseItems fuel (c :: s)).2.1,
        (parseItems fuel (c :: s)).2.2) := by
  rw [parseNode, skipSpace_cons (by decide)]
  simp only [skipSpace_cons space]
  split
  · next found => exact absurd found nofun
  · next found => exact absurd (List.cons.inj found).1 item
  · rfl

/-- An object with something in it is parsed member by member. -/
theorem parseNode_object (s : List Char) (fuel : Nat) :
    parseNode (fuel + 1) ('{' :: '"' :: s)
      = (.object (parseMembers fuel ('"' :: s)).1 (parseMembers fuel ('"' :: s)).2.1,
        (parseMembers fuel ('"' :: s)).2.2) := by
  rw [parseNode, skipSpace_cons (by decide)]
  simp only [skipSpace_cons (show isSpace '"' = false by decide)]
  rfl

/-- A written value is parsed to its tree, given enough steps and something
    apart after it. -/
def Value.Parsed (v : Value) : Prop :=
  ∀ fuel rest, 2 * v.render.length ≤ fuel → Apart rest →
    parseNode fuel (v.render ++ rest) = (v.node, rest)

/-- Every value is written in one character at least, so there is a first step. -/
theorem parsed_of_step {v : Value}
    (step : ∀ fuel rest, 2 * v.render.length ≤ fuel + 1 → Apart rest →
      parseNode (fuel + 1) (v.render ++ rest) = (v.node, rest)) : v.Parsed := by
  intro fuel rest enough apart
  obtain ⟨c, s, written, -⟩ := render_head v
  obtain ⟨fuel, rfl⟩ : ∃ n, fuel = n + 1 :=
    ⟨fuel - 1, by rw [written, List.length_cons] at enough; omega⟩
  exact step fuel rest enough apart

/-- A written item and those after it are parsed to their trees. -/
def Value.ItemsParsed (items : List Value) : Prop :=
  ∀ (v : Value) fuel rest, v.Parsed →
    2 * (v.render ++ Value.renderItems items).length + 1 ≤ fuel →
      parseItems fuel (v.render ++ (Value.renderItems items ++ rest))
        = (v.node :: Value.itemNodes items, none, rest)

/-- A written member and those after it are parsed to their keys and trees. -/
def Value.MembersParsed (members : List (String × Value)) : Prop :=
  ∀ (k : String) (v : Value) fuel rest, v.Parsed →
    2 * (v.render ++ Value.renderMembers members).length + 1 ≤ fuel →
      parseMembers fuel (quote k ++ ':' :: (v.render ++ (Value.renderMembers members ++ rest)))
        = ((.quoted (.written k), v.node) :: Value.memberNodes members, none, rest)

/-- The last item is followed by the bracket. -/
theorem itemsParsed_nil : Value.ItemsParsed [] := by
  intro v fuel rest parsed enough
  obtain ⟨fuel, rfl⟩ : ∃ n, fuel = n + 1 := ⟨fuel - 1, by omega⟩
  simp only [List.length_append] at enough
  -- the bracket is apart from a number, so the item ends before it
  rw [Value.renderItems, List.singleton_append, parseItems,
    parsed fuel _ (by omega) (apart_cons (by decide)), Value.itemNodes]
  simp only [skipSpace_cons (show isSpace ']' = false by decide)]

/-- An item that is not the last is followed by a comma and the next one. -/
theorem itemsParsed_cons {w : Value} {items : List Value} (next : w.Parsed)
    (later : Value.ItemsParsed items) : Value.ItemsParsed (w :: items) := by
  intro v fuel rest parsed enough
  obtain ⟨fuel, rfl⟩ : ∃ n, fuel = n + 1 := ⟨fuel - 1, by omega⟩
  simp only [Value.renderItems, List.length_append, List.length_cons] at enough
  rw [Value.renderItems, List.cons_append, List.append_assoc, parseItems,
    parsed fuel _ (by omega) (apart_cons (by decide)), Value.itemNodes]
  simp only [skipSpace_cons (show isSpace ',' = false by decide)]
  rw [later w fuel rest next (by rw [List.length_append]; omega)]

section Members

variable (k : String) {s rest : List Char} {fuel : Nat} {n : Node}

/-- A written key is parsed, then its value, and then the brace. -/
theorem parseMembers_last (value : parseNode fuel s = (n, '}' :: rest)) :
    parseMembers (fuel + 1) (quote k ++ ':' :: s) =
      ([(.quoted (.written k), n)], none, rest) := by
  rw [quote, List.cons_append, List.append_assoc, List.singleton_append, parseMembers,
    skipSpace_cons (by decide)]
  simp only [Quoted.scan_written, skipSpace_cons (show isSpace ':' = false by decide), value,
    skipSpace_cons (show isSpace '}' = false by decide)]

/-- The other members come after a comma. -/
theorem parseMembers_next (value : parseNode fuel s = (n, ',' :: rest)) :
    parseMembers (fuel + 1) (quote k ++ ':' :: s) =
      ((.quoted (.written k), n) :: (parseMembers fuel rest).1, (parseMembers fuel rest).2) := by
  rw [quote, List.cons_append, List.append_assoc, List.singleton_append, parseMembers,
    skipSpace_cons (by decide)]
  simp only [Quoted.scan_written, skipSpace_cons (show isSpace ':' = false by decide), value,
    skipSpace_cons (show isSpace ',' = false by decide)]

end Members

/-- The last member is followed by the brace. -/
theorem membersParsed_nil : Value.MembersParsed [] := by
  intro k v fuel rest parsed enough
  obtain ⟨fuel, rfl⟩ : ∃ n, fuel = n + 1 := ⟨fuel - 1, by omega⟩
  simp only [List.length_append] at enough
  rw [Value.renderMembers, List.singleton_append,
    parseMembers_last k (parsed fuel _ (by omega) (apart_cons (by decide))), Value.memberNodes]

/-- A member that is not the last is followed by a comma and the next one. -/
theorem membersParsed_cons {l : String} {w : Value} {members : List (String × Value)}
    (next : w.Parsed) (later : Value.MembersParsed members) :
    Value.MembersParsed ((l, w) :: members) := by
  intro k v fuel rest parsed enough
  obtain ⟨fuel, rfl⟩ : ∃ n, fuel = n + 1 := ⟨fuel - 1, by omega⟩
  simp only [Value.renderMembers, List.length_append, List.length_cons] at enough
  rw [Value.renderMembers, List.cons_append, List.append_assoc, List.cons_append,
    parseMembers_next k (parsed fuel _ (by omega) (apart_cons (by decide))), Value.memberNodes,
    List.append_assoc, later l w fuel rest next (by rw [List.length_append]; omega)]

theorem spell_append (w : Word) (cs s : List Char) : spell w cs (cs ++ s) = (.word (.ok w), s) := by
  induction cs with
  | nil => rfl
  | cons c cs ih => rw [List.cons_append, spell, if_pos rfl, ih]

/-- A written word is parsed to itself. -/
theorem parsed_word {v : Value} {w : Word} {c : Char} {cs : List Char}
    (written : v.render = c :: cs) (shown : v.node = .word (.ok w))
    (parse : ∀ fuel s, parseNode (fuel + 1) (c :: s) = spell w cs s) : v.Parsed := by
  refine parsed_of_step fun fuel rest _ _ => ?_
  rw [written, shown, List.cons_append, parse, spell_append]

/-- A written number is parsed to itself. -/
theorem parsed_int (n : Int) : (Value.int n).Parsed := by
  refine parsed_of_step fun fuel rest _ apart => ?_
  obtain ⟨c, s, written, starts⟩ := decimalInt_head n
  have scanned := Numeral.scan_written n apart
  rw [written, List.cons_append] at scanned
  rw [Value.render, written, List.cons_append, parseNode_number starts, scanned, Value.node]

/-- A written text is parsed to itself. -/
theorem parsed_text (s : String) : (Value.text s).Parsed := by
  refine parsed_of_step fun fuel rest _ _ => ?_
  rw [Value.render, quote, List.cons_append, List.append_assoc, List.singleton_append, parseNode,
    skipSpace_cons (by decide), Value.node]
  simp only [Quoted.scan_written]

/-- A list is parsed item by item. -/
theorem parsed_list {v : Value} {items : List Value} (first : v.Parsed)
    (later : Value.ItemsParsed items) : (Value.list (v :: items)).Parsed := by
  refine parsed_of_step fun fuel rest enough _ => ?_
  -- the bracket is a character of its own, which gives the items the one step more
  obtain ⟨c, s, written, space, item⟩ := render_head v
  rw [Value.render, List.length_cons] at enough
  have items := later v fuel rest first (by omega)
  rw [written, List.cons_append] at items
  rw [Value.render, List.cons_append, List.append_assoc, written, List.cons_append,
    parseNode_list space item, items, Value.node, Value.itemNodes]

/-- An object is parsed member by member. -/
theorem parsed_object {k : String} {v : Value} {members : List (String × Value)} (first : v.Parsed)
    (later : Value.MembersParsed members) : (Value.object ((k, v) :: members)).Parsed := by
  refine parsed_of_step fun fuel rest enough _ => ?_
  simp only [Value.render, List.length_cons, List.length_append] at enough
  have members := later k v fuel rest first (by rw [List.length_append]; omega)
  rw [quote, List.cons_append] at members
  rw [Value.render, quote]
  simp only [List.cons_append, List.append_assoc] at members ⊢
  rw [parseNode_object, members, Value.node, Value.memberNodes]

/-- A written value is parsed to its tree. The induction goes along the
    writer, whose helpers write what comes after a first item or member. -/
theorem parseNode_render (v : Value) : v.Parsed := by
  refine Value.render.induct Value.Parsed Value.MembersParsed Value.ItemsParsed
    ?null ?yes ?no parsed_int parsed_text ?emptyList (fun _ _ => parsed_list) ?emptyObject
    (fun _ _ _ => parsed_object) itemsParsed_nil (fun _ _ => itemsParsed_cons) membersParsed_nil
    (fun _ _ _ => membersParsed_cons) v
  case null => exact parsed_word rfl rfl fun _ _ => rfl
  case yes => exact parsed_word rfl rfl fun _ _ => rfl
  case no => exact parsed_word rfl rfl fun _ _ => rfl
  case emptyList => exact parsed_of_step fun _ _ _ _ => rfl
  case emptyObject => exact parsed_of_step fun _ _ _ _ => rfl

/-- A text that holds one written value is parsed to its tree. -/
theorem parse_render (v : Value) : Node.parse v.render = (v.node, []) := by
  have parsed := parseNode_render v (2 * v.render.length + 2) [] (by omega) apart_nil
  rwa [List.append_nil] at parsed

end Json

end DisplayHub
