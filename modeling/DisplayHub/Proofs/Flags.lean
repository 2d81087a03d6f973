import DisplayHub.Capability

/-!
# Capabilities read back

The text that is written for a set of capabilities names that set.

Two things have to fit together. The text has to be divided again where its
parts were joined, although each part gets back a blank at the one end or at
both; this needs no more than that no part has a bar or a blank in it. And
the parts together have to name every bit once it is known that one of the
named flags takes a bit out of the number for the rest only if its name is
written. That would fail for a flag of two bits, of which a set can hold one:
the flags with names have one bit each, and this is where it is used.

## Main definitions

* `Plain`: A part of the written form as far as dividing it goes.
* `listed`: Names and a number, in the form in which sets are written.

## Theorems

* `map_trim_split`: Dividing a text and trimming the parts undoes joining it.
* `readParts_flags`: Names of flags are read as these flags.
* `read_listed`: Names and a number are read as what they name.
* `union_flags_unnamed`: The flags that are written make up the set.
* `read_write`: A set reads back as itself.
-/

namespace DisplayHub

namespace Capabilities

/-! ### Dividing the text -/

/-- A part of a text, not empty and without bars and blanks. -/
def Plain (s : List Char) : Prop :=
  s ≠ [] ∧ ∀ c ∈ s, c ≠ '|' ∧ Text.isBlank c = false

-- only the characters of the text are gone through, not all there are
instance (s : List Char) : Decidable (Plain s) :=
  decidable_of_iff (s ≠ [] ∧ s.all (fun c => c ≠ '|' && !Text.isBlank c) = true)
    (by simp [Plain])

/-- A plain text is met by trimming at its first character. -/
theorem trimStart_plain {s : List Char} (plain : Plain s) (rest : List Char) :
    Text.trimStart (s ++ rest) = s ++ rest := by
  obtain ⟨c, s, rfl⟩ := List.exists_cons_of_ne_nil plain.1
  exact Text.trimStart_eq_self (plain.2 c List.mem_cons_self).2

theorem plain_reverse {s : List Char} (plain : Plain s) : Plain s.reverse :=
  ⟨by simpa using plain.1, fun c member => plain.2 c (List.mem_reverse.mp member)⟩

/-- A text between two plain ones is left alone, and so are these. -/
theorem trim_between {s p q front back : List Char} (starts : s = p ++ front) (first : Plain p)
    (ends : s = back ++ q) (last : Plain q) : Text.trim s = s := by
  have head : Text.trimStart s = s := by
    rw [starts, trimStart_plain first]
  have tail : Text.trimStart s.reverse = s.reverse := by
    rw [ends, List.reverse_append, trimStart_plain (plain_reverse last)]
  rw [Text.trim, head, tail, List.reverse_reverse]

/-- A text of nothing but spaces, which is what joining leaves around a part. -/
def Spaces (s : List Char) : Prop :=
  ∀ c ∈ s, c = ' '

theorem spaces_nil : Spaces [] :=
  nofun

theorem spaces_one : Spaces [' '] :=
  fun _ member => List.mem_singleton.mp member

theorem isBlank_of_spaces {s : List Char} (spaces : Spaces s) : ∀ c ∈ s, Text.isBlank c = true := by
  intro c member
  rw [spaces c member]
  decide

/-- A plain text comes out of the spaces around it. -/
theorem trim_padded {s front back : List Char} (plain : Plain s) (before : Spaces front)
    (behind : Spaces back) : Text.trim (front ++ (s ++ back)) = s := by
  have head : Text.trimStart (front ++ (s ++ back)) = s ++ back := by
    rw [Text.trimStart, List.dropWhile_append_of_pos (isBlank_of_spaces before)]
    exact trimStart_plain plain back
  have tail : Text.trimStart (s ++ back).reverse = s.reverse := by
    rw [List.reverse_append, Text.trimStart, List.dropWhile_append_of_pos fun c member =>
      isBlank_of_spaces behind c (List.mem_reverse.mp member)]
    simpa [Text.trimStart] using trimStart_plain (plain_reverse plain) []
  rw [Text.trim, head, tail, List.reverse_reverse]

/-- A plain text with spaces around it has no bar. -/
theorem whole_padded {s front back : List Char} (plain : Plain s) (before : Spaces front)
    (behind : Spaces back) : ∀ c ∈ front ++ (s ++ back), c ≠ '|' := by
  intro c member
  rcases List.mem_append.mp member with member | member
  · rw [before c member]
    decide
  · rcases List.mem_append.mp member with member | member
    · exact (plain.2 c member).1
    · rw [behind c member]
      decide

/-- What comes before the first bar is the first part. -/
theorem split_append {s : List Char} (whole : ∀ c ∈ s, c ≠ '|') (rest : List Char) :
    split (s ++ '|' :: rest) = s :: split rest := by
  induction s with
  | nil => rw [List.nil_append, split]
  | cons c s ih =>
      have other : c ≠ '|' := whole c List.mem_cons_self
      rw [List.cons_append, split, ih fun d member => whole d (List.mem_cons_of_mem c member)]
      exact other

/-- A text without bars is its only part. -/
theorem split_whole {s : List Char} (whole : ∀ c ∈ s, c ≠ '|') : split s = [s] := by
  induction s with
  | nil => rfl
  | cons c s ih =>
      have other : c ≠ '|' := whole c List.mem_cons_self
      rw [split, ih fun d member => whole d (List.mem_cons_of_mem c member)]
      exact other

/-- What stands between two parts. -/
def separator : List Char := [' ', '|', ' ']

/-- Dividing a text and trimming the parts undoes joining them. The space
    behind a bar is left over in front of the text that follows it. -/
theorem map_trim_split {p : List Char} {ps : List (List Char)} (plain : ∀ q ∈ p :: ps, Plain q)
    {front : List Char} (before : Spaces front) :
    (split (front ++ separator.intercalate (p :: ps))).map Text.trim = p :: ps := by
  have first : Plain p := plain p List.mem_cons_self
  induction ps generalizing p front with
  | nil =>
      have whole := whole_padded first before spaces_nil
      have alone := trim_padded first before spaces_nil
      rw [List.append_nil] at whole alone
      rw [List.intercalate_singleton, split_whole whole, List.map_singleton, alone]
  | cons q ps ih =>
      have rest : ∀ r ∈ q :: ps, Plain r := fun r member => plain r (List.mem_cons_of_mem p member)
      -- the text is divided at its first bar, and goes on behind it with a space
      have text : front ++ separator.intercalate (p :: q :: ps)
          = (front ++ (p ++ [' '])) ++ '|' :: ([' '] ++ separator.intercalate (q :: ps)) := by
        simp [List.intercalate_cons_cons, separator]
      rw [text, split_append (whole_padded first before spaces_one), List.map_cons,
        trim_padded first before spaces_one, ih rest spaces_one (rest q List.mem_cons_self)]

/-- Joined parts start with the first one. -/
theorem intercalate_starts (p : List Char) (ps : List (List Char)) :
    ∃ rest, separator.intercalate (p :: ps) = p ++ rest := by
  cases ps with
  | nil => exact ⟨[], by rw [List.intercalate_singleton, List.append_nil]⟩
  | cons q ps => exact ⟨_, by rw [List.intercalate_cons_cons, List.append_assoc]⟩

/-- Joined parts end with the last one. -/
theorem intercalate_ends (p : List Char) (ps : List (List Char)) :
    ∃ q ∈ p :: ps, ∃ front, separator.intercalate (p :: ps) = front ++ q := by
  induction ps generalizing p with
  | nil => exact ⟨p, List.mem_cons_self, [], by rw [List.intercalate_singleton, List.nil_append]⟩
  | cons q ps ih =>
      obtain ⟨last, member, front, ends⟩ := ih q
      exact ⟨last, List.mem_cons_of_mem p member, p ++ separator ++ front, by
        rw [List.intercalate_cons_cons, ends, List.append_assoc, List.append_assoc,
          List.append_assoc]⟩

/-- Plain parts are left alone by trimming. -/
theorem map_trim_plain {ps : List (List Char)} (plain : ∀ p ∈ ps, Plain p) :
    ps.map Text.trim = ps := by
  induction ps with
  | nil => rfl
  | cons p ps ih =>
      have alone := trim_padded (plain p List.mem_cons_self) spaces_nil spaces_nil
      rw [List.nil_append, List.append_nil] at alone
      rw [List.map_cons, alone, ih fun q member => plain q (List.mem_cons_of_mem p member)]

/-- Parts are read without the space around them. -/
theorem readParts_congr {l m : List (List Char)} (same : l.map Text.trim = m.map Text.trim) :
    readParts l = readParts m := by
  induction l generalizing m with
  | nil =>
      cases m with
      | nil => rfl
      | cons q m => exact absurd same nofun
  | cons p l ih =>
      cases m with
      | nil => exact absurd same nofun
      | cons q m =>
          obtain ⟨first, rest⟩ := List.cons.inj same
          rw [readParts, readParts, first, ih rest]

/-- A text of joined parts is read part by part. -/
theorem read_joined {ps : List String} (plain : ∀ p ∈ ps, Plain p.toList) :
    read (" | ".intercalate ps) = readParts (ps.map String.toList) := by
  cases ps with
  | nil => rfl
  | cons p ps =>
      have all : ∀ q ∈ p.toList :: ps.map String.toList, Plain q := by
        rw [← List.map_cons]
        intro q member
        obtain ⟨r, part, rfl⟩ := List.mem_map.mp member
        exact plain r part
      have text : (" | ".intercalate (p :: ps)).toList
          = separator.intercalate (p.toList :: ps.map String.toList) := by
        rw [String.toList_intercalate, List.map_cons]
        rfl
      -- the whole text is not trimmed, since it starts and ends with a plain part
      obtain ⟨rest, starts⟩ := intercalate_starts p.toList (ps.map String.toList)
      obtain ⟨q, member, front, ends⟩ := intercalate_ends p.toList (ps.map String.toList)
      have first := all _ List.mem_cons_self
      have parts := map_trim_split all spaces_nil
      rw [List.nil_append] at parts
      rw [read, text, trim_between starts first ends (all q member)]
      split
      · next empty =>
          rw [starts] at empty
          exact absurd (List.append_eq_nil_iff.mp empty).1 first.1
      · rw [List.map_cons]
        exact readParts_congr (parts.trans (map_trim_plain all).symm)

/-! ### The parts -/

/-- Every name of a flag is plain. -/
theorem plain_flags : ∀ flag ∈ flags, Plain flag.1.toList := by
  decide

/-- Every name of a flag is read as that flag. -/
theorem readPart_flags : ∀ flag ∈ flags, readPart flag.1.toList = some ⟨flag.2⟩ := by
  decide

/-- A number is written plainly. -/
theorem plain_hexText (n : Nat) : Plain (Text.hexText n).toList := by
  -- no digit is a bar or blank, and all of them are written from the same sixteen
  have digits : ∀ c ∈ Nat.toDigits 16 n, c ≠ '|' ∧ Text.isBlank c = false := by
    have digit {d : Nat} (small : d < 16) :
        Nat.digitChar d ≠ '|' ∧ Text.isBlank (Nat.digitChar d) = false := by
      have all : ∀ d : Fin 16, Nat.digitChar d ≠ '|' ∧ Text.isBlank (Nat.digitChar d) = false := by
        decide
      exact all ⟨d, small⟩
    refine Text.toDigits_induct 16
      (P := fun _ s => ∀ c ∈ s, c ≠ '|' ∧ Text.isBlank c = false) (by decide)
      (fun d small c member => ?_) (fun _ d s _ small _ ih c member => ?_) n
    · rw [List.mem_singleton.mp member]
      exact digit small
    · rcases List.mem_append.mp member with member | member
      · exact ih c member
      · rw [List.mem_singleton.mp member]
        exact digit small
  rw [Text.hexText, String.toList_ofList]
  refine ⟨List.cons_ne_nil _ _, fun c member => ?_⟩
  rcases List.mem_cons.mp member with rfl | member
  · decide
  rcases List.mem_cons.mp member with rfl | member
  · decide
  exact digits c member

/-- A number is read as the set with its bits. -/
theorem readPart_hexText (bits : UInt32) :
    readPart (Text.hexText bits.toNat).toList = some ⟨bits⟩ := by
  have number : Text.readNat 16 0x100000000 (Text.hexadecimal bits.toNat) = some bits.toNat :=
    Text.readNat_toDigits (by decide) (by decide) bits.toNat_lt
  rw [Text.hexText, String.toList_ofList, readPart, number, Option.map_some, UInt32.ofNat_toNat]

/-- The parts of a text that has some names of flags and then, if it is not zero,
    one number. -/
def listed (named : List (String × UInt32)) (rest : UInt32) : List String :=
  named.map (·.1) ++ if rest = 0 then [] else [Text.hexText rest.toNat]

/-- All of them are plain. -/
theorem plain_listed {named : List (String × UInt32)} (known : ∀ flag ∈ named, flag ∈ flags)
    (rest : UInt32) : ∀ p ∈ listed named rest, Plain p.toList := by
  intro p member
  rcases List.mem_append.mp member with member | member
  · obtain ⟨flag, among, rfl⟩ := List.mem_map.mp member
    exact plain_flags flag (known flag among)
  · split at member
    · exact absurd member List.not_mem_nil
    · rw [List.mem_singleton.mp member]
      exact plain_hexText _

/-- Names of flags are read as these flags, whatever parts follow. -/
theorem readParts_flags {named : List (String × UInt32)} (known : ∀ flag ∈ named, flag ∈ flags)
    (rest : List (List Char)) :
    readParts ((named.map fun flag => flag.1.toList) ++ rest)
      = (readParts rest).map fun b => named.foldr (fun flag b => union ⟨flag.2⟩ b) b := by
  induction named with
  | nil => simp
  | cons flag named ih =>
      have here := known flag List.mem_cons_self
      have alone := map_trim_plain fun p member =>
        List.mem_singleton.mp member ▸ plain_flags flag here
      rw [List.map_cons, List.cons_append, readParts, (List.cons.inj alone).1,
        readPart_flags flag here, ih fun f member => known f (List.mem_cons_of_mem flag member)]
      cases readParts rest <;> rfl

/-- Names and a number are read as the flags of the names and the bits of the
    number. -/
theorem read_listed {named : List (String × UInt32)} (known : ∀ flag ∈ named, flag ∈ flags)
    (rest : UInt32) : read (" | ".intercalate (listed named rest)) =
      some (named.foldr (fun flag b => union ⟨flag.2⟩ b) ⟨rest⟩) := by
  have number : readParts ((if rest = 0 then [] else [Text.hexText rest.toNat]).map
      String.toList) = some ⟨rest⟩ := by
    split
    · next zero => rw [zero, List.map_nil, readParts, none]
    · have alone := map_trim_plain fun p member =>
        List.mem_singleton.mp member ▸ plain_hexText rest.toNat
      rw [List.map_singleton, readParts, (List.cons.inj alone).1, readPart_hexText]
      exact congrArg (fun bits => some (Capabilities.mk bits)) UInt32.or_zero
  rw [read_joined (plain_listed known rest), listed, List.map_append, List.map_map]
  rw [Function.comp_def, readParts_flags known, number, Option.map_some]

/-! ### The bits -/

/-- Whether a set has the flag of a bit. -/
def bit (a : Capabilities) (i : Nat) : Bool :=
  a.bits.toBitVec.getLsbD i

/-- A set is known from its bits. -/
theorem ext_bit {a b : Capabilities} (same : ∀ i < 32, a.bit i = b.bit i) : a = b := by
  obtain ⟨a⟩ := a
  obtain ⟨b⟩ := b
  exact congrArg mk (UInt32.toBitVec_inj.mp (BitVec.eq_of_getLsbD_eq same))

theorem bit_union (a b : Capabilities) (i : Nat) : (a.union b).bit i = (a.bit i || b.bit i) := by
  simp [bit, union]

/-- Every flag with a name has one bit. -/
theorem flags_single {flag : String × UInt32} (known : flag ∈ flags) {i j : Nat}
    (low : bit ⟨flag.2⟩ i = true) (high : bit ⟨flag.2⟩ j = true) : i = j := by
  have all : ∀ flag ∈ flags, ∀ i j : Fin 32,
      bit ⟨flag.2⟩ i = true → bit ⟨flag.2⟩ j = true → i = j := by
    decide
  have inside {k : Nat} (set : bit ⟨flag.2⟩ k = true) : k < 32 := BitVec.lt_of_getLsbD set
  exact congrArg Fin.val (all flag known ⟨i, inside low⟩ ⟨j, inside high⟩ low high)

/-- A set contains a flag with a name exactly if it has its bit. -/
theorem contains_iff_bit {flag : String × UInt32} (known : flag ∈ flags) {i : Nat}
    (here : bit ⟨flag.2⟩ i = true) (a : Capabilities) :
    a.contains ⟨flag.2⟩ = true ↔ a.bit i = true := by
  have both (j : Nat) : bit ⟨a.bits &&& flag.2⟩ j = (a.bit j && bit ⟨flag.2⟩ j) := by
    simp [bit]
  rw [contains, beq_iff_eq]
  constructor
  · -- the set has all bits of the flag, so it has this one
    intro held
    have set := both i
    rw [held, here, Bool.and_true] at set
    exact set.symm
  · -- and this one is all that the flag has
    intro set
    have same : (⟨a.bits &&& flag.2⟩ : Capabilities) = ⟨flag.2⟩ := by
      refine ext_bit fun j _ => ?_
      rw [both]
      cases other : bit ⟨flag.2⟩ j with
      | false => rw [Bool.and_false]
      | true => rw [← flags_single known here other, set, Bool.and_true]
    exact congrArg Capabilities.bits same

/-- The bits that are written by name or as the rest. -/
theorem bit_named (b : Capabilities) (named : List (String × UInt32)) (i : Nat) :
    (named.foldr (fun flag b => union ⟨flag.2⟩ b) b).bit i
      = (named.any (fun flag => bit ⟨flag.2⟩ i) || b.bit i) := by
  induction named with
  | nil => rfl
  | cons flag named ih => rw [List.foldr_cons, bit_union, ih, List.any_cons, Bool.or_assoc]

/-- The rest has the bits that no flag with a name has. -/
theorem bit_unnamed (a : Capabilities) {i : Nat} (inside : i < 32) :
    bit ⟨a.unnamed⟩ i = (a.bit i && !flags.any fun flag => bit ⟨flag.2⟩ i) := by
  -- of any flags, and of any number that they are taken from
  have all (named : List (String × UInt32)) (bits : UInt32) :
      bit ⟨named.foldl (fun bits flag => bits &&& ~~~flag.2) bits⟩ i
        = (bit ⟨bits⟩ i && !named.any fun flag => bit ⟨flag.2⟩ i) := by
    induction named generalizing bits with
    | nil => simp
    | cons flag named ih =>
        rw [List.foldl_cons, ih]
        simp [bit, inside, Bool.and_assoc]
  exact all flags a.bits

/-- The flags that are written by name and the rest make up the set. -/
theorem union_flags_unnamed (a : Capabilities) :
    (flags.filter fun flag => a.contains ⟨flag.2⟩).foldr (fun flag b => union ⟨flag.2⟩ b)
      ⟨a.unnamed⟩ = a := by
  refine ext_bit fun i inside => ?_
  rw [bit_named, bit_unnamed a inside]
  cases set : a.bit i with
  | true =>
      -- Either no name has the bit, or the one that has it is written.
      cases name : flags.any fun flag => bit ⟨flag.2⟩ i with
      | false => rw [Bool.true_and, Bool.not_false, Bool.or_true]
      | true =>
          obtain ⟨flag, known, here⟩ := List.any_eq_true.mp name
          have held : flag ∈ flags.filter fun flag => a.contains ⟨flag.2⟩ :=
            List.mem_filter.mpr ⟨known, (contains_iff_bit known here a).mpr set⟩
          rw [List.any_eq_true.mpr ⟨flag, held, here⟩, Bool.true_or]
  | false =>
      -- a name that is written has its one bit in the set
      have none : ((flags.filter fun flag => a.contains ⟨flag.2⟩).any
          fun flag => bit ⟨flag.2⟩ i) = false := by
        rw [List.any_eq_false]
        intro flag held here
        obtain ⟨known, inSet⟩ := List.mem_filter.mp held
        rw [(contains_iff_bit known here a).mp inSet] at set
        exact absurd set nofun
      rw [none, Bool.false_and, Bool.or_false]

/-- A set reads back as itself. -/
theorem read_write (a : Capabilities) : read a.write = some a := by
  have known : ∀ flag ∈ flags.filter (fun flag => a.contains ⟨flag.2⟩), flag ∈ flags :=
    fun _ member => (List.mem_filter.mp member).1
  change read (" | ".intercalate (listed (flags.filter fun flag => a.contains ⟨flag.2⟩) a.unnamed))
    = some a
  rw [read_listed known, union_flags_unnamed]

example : write ⟨0x80000003⟩ = "ROTATOR | COLOR_PIPELINE | 0x80000000" := by
  decide

end Capabilities

end DisplayHub
