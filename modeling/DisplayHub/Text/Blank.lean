/-!
# Blank characters

Which characters count as space around a word, and cutting them off.

Names given by people, capability lists and the little files in which a
driver publishes its state all come with space around them. The class is
Unicode's `White_Space` property, so it is wider than what `Char.isWhitespace`
admits: it holds the no-break space, the ideographic space and the line and
paragraph separators too. The property is a closed list of twenty-five
characters and is written out as such.

## Main definitions

* `isBlank`: A character with the `White_Space` property.
* `trim`: A text without the blanks at its two ends.

## Theorems

* `trimStart_eq_self`: A text that does not start blank keeps its start.
-/

namespace DisplayHub

namespace Text

/-- A character with Unicode's `White_Space` property. -/
def isBlank (c : Char) : Bool :=
  let n := c.toNat
  (9 ≤ n && n ≤ 13) || n == 0x20 || n == 0x85 || n == 0xA0 || n == 0x1680
    || (0x2000 ≤ n && n ≤ 0x200A) || n == 0x2028 || n == 0x2029 || n == 0x202F
    || n == 0x205F || n == 0x3000

/-- The blanks at the start of a text are dropped. -/
def trimStart (s : List Char) : List Char :=
  s.dropWhile isBlank

/-- The blanks at both ends of a text are dropped; those inside stay. -/
def trim (s : List Char) : List Char :=
  (trimStart (trimStart s).reverse).reverse

/-- `trim` on strings. -/
def trimmed (s : String) : String :=
  String.ofList (trim s.toList)

/-- A text that does not start blank keeps its start. -/
theorem trimStart_eq_self {c : Char} {s : List Char} (h : isBlank c = false) :
    trimStart (c :: s) = c :: s := by
  simp [trimStart, h]

end Text

end DisplayHub
