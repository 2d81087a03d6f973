import DisplayHub.Json.Number
import DisplayHub.Json.Quoted

/-!
# The tree of a JSON text

A text is first read into a tree without regard to what it should hold. Where
the text is broken the tree keeps the fault in the place where it was found.

Some faults depend on who reads. A value that nobody asked for is passed over
with a look at its outline only, and a value that was asked for in another
shape is a fault of shape only after it was seen to be a value. So a node
keeps what either reader would find. `Node.skip` and `Node.mismatch` are
those two views, and readers of typed values supply the third.

The order of the tree is the order of the text, so the first fault that a
reader meets on its way through the tree is the first one in the text. What
the tree holds behind a broken place means nothing, and no reader gets there.

A comma promises another item. The promise is kept by an item that is broken
from the start, so that a list which stops after a comma differs from one
that stops before it.

## Main definitions

* `Node`: The tree of one value.
* `Node.skip`: The fault met by a reader that passes over the value.
* `Node.mismatch`: The fault met by a reader that wanted another value.
* `Node.parse`: The tree at the start of a text, and what follows it.
-/

namespace DisplayHub

namespace Json

/-- The values that are written as words. -/
inductive Word where
  | null
  | bool (b : Bool)
deriving DecidableEq, Repr

/-- What stands where a key should: a quoted text, or something else with the
    fault that it is as a key and the fault that it is as a value. -/
inductive Key where
  | quoted (q : Quoted)
  | odd (asKey asValue : Fault)

/-- The tree of one value. -/
inductive Node where
  /-- No value starts here. -/
  | cut (f : Fault)
  /-- A word, or the fault in its spelling. -/
  | word (w : Except Fault Word)
  | number (n : Numeral)
  | text (q : Quoted)
  /-- The items, and the fault that stands where a comma or the end should. -/
  | list (items : List Node) (fault : Option Fault)
  /-- The members, and the fault that stands where a comma or the end should. -/
  | object (members : List (Key × Node)) (fault : Option Fault)

/-- The fault of the first of two checks that finds one. -/
def orFault : Option Fault → Option Fault → Option Fault
  | some f, _ => some f
  | none, g => g

/-- The fault that a key is to a reader passing over it. -/
def Key.skip : Key → Option Fault
  | .quoted q => q.fault
  | .odd f _ => some f

mutual

/-- The fault met by a reader that passes over the value. -/
def Node.skip : Node → Option Fault
  | .cut f => some f
  | .word (.error f) => some f
  | .word (.ok _) => none
  | .number n => n.fault
  | .text q => q.fault
  | .list items fault => orFault (Node.skipItems items) fault
  | .object members fault => orFault (Node.skipMembers members) fault

/-- The first fault met in passing over the items of a list. -/
def Node.skipItems : List Node → Option Fault
  | [] => none
  | n :: rest => orFault n.skip (Node.skipItems rest)

/-- The first fault met in passing over the members of an object. -/
def Node.skipMembers : List (Key × Node) → Option Fault
  | [] => none
  | (k, n) :: rest => orFault (orFault k.skip n.skip) (Node.skipMembers rest)

end

/-- The fault met by a reader that wanted another kind of value. Words,
    numbers and texts are read to their end before their kind counts, lists
    and objects are not even entered. -/
def Node.mismatch : Node → Fault
  | .cut f => f
  | .word (.error f) => f
  | .word (.ok _) => .mistyped
  | .number n => match n.value with
    | .error f => f
    | .ok _ => .mistyped
  | .text q => match q.read with
    | .error f => f
    | .ok _ => .mistyped
  | .list _ _ => .mistyped
  | .object _ _ => .mistyped

/-- The four characters that JSON counts as space. -/
def isSpace (c : Char) : Bool :=
  c == ' ' || c == '\n' || c == '\t' || c == '\r'

/-- The text after the space at its start. -/
def skipSpace (s : List Char) : List Char :=
  s.dropWhile isSpace

/-- Scans the rest of a word whose first character was seen. -/
def spell (w : Word) : List Char → List Char → Node × List Char
  | [], s => (.word (.ok w), s)
  | _ :: _, [] => (.word (.error .unfinished), [])
  | c :: cs, d :: s =>
    if c = d then spell w cs s else (.word (.error .malformed), d :: s)

mutual

/-- Reads the value that starts in a text, after any space. The first
    argument bounds the count of steps. -/
def parseNode : Nat → List Char → Node × List Char
  | 0, s => (.cut .malformed, s)
  | fuel + 1, s => match skipSpace s with
    | [] => (.cut .unfinished, [])
    | 'n' :: rest => spell .null ['u', 'l', 'l'] rest
    | 't' :: rest => spell (.bool true) ['r', 'u', 'e'] rest
    | 'f' :: rest => spell (.bool false) ['a', 'l', 's', 'e'] rest
    | '"' :: rest =>
      let (q, rest) := Quoted.scan rest
      (.text q, rest)
    | '[' :: rest => match skipSpace rest with
      | [] => (.list [] (some .unfinished), [])
      | ']' :: rest => (.list [] none, rest)
      | rest =>
        let (items, fault, rest) := parseItems fuel rest
        (.list items fault, rest)
    | '{' :: rest => match skipSpace rest with
      | [] => (.object [] (some .unfinished), [])
      | '}' :: rest => (.object [] none, rest)
      | rest =>
        let (members, fault, rest) := parseMembers fuel rest
        (.object members fault, rest)
    | c :: rest =>
      if c = '-' ∨ isDigit c then
        let (n, rest) := Numeral.scan (c :: rest)
        (.number n, rest)
      else (.cut .malformed, c :: rest)

/-- Reads one item and those after it, up to the closing bracket. -/
def parseItems : Nat → List Char → List Node × Option Fault × List Char
  | 0, s => ([], some .malformed, s)
  | fuel + 1, s =>
    let (n, rest) := parseNode fuel s
    match skipSpace rest with
    | [] => ([n], some .unfinished, [])
    | ']' :: rest => ([n], none, rest)
    | ',' :: rest =>
      let (items, fault, rest) := parseItems fuel rest
      (n :: items, fault, rest)
    | rest => ([n], some .malformed, rest)

/-- Reads one member and those after it, up to the closing brace. -/
def parseMembers : Nat → List Char → List (Key × Node) × Option Fault × List Char
  | 0, s => ([], some .malformed, s)
  | fuel + 1, s => match skipSpace s with
    | [] => ([(.odd .unfinished .unfinished, .cut .unfinished)], none, [])
    | '"' :: rest =>
      let (q, rest) := Quoted.scan rest
      match skipSpace rest with
      | [] => ([(.quoted q, .cut .unfinished)], none, [])
      | ':' :: rest =>
        let (n, rest) := parseNode fuel rest
        match skipSpace rest with
        | [] => ([(.quoted q, n)], some .unfinished, [])
        | '}' :: rest => ([(.quoted q, n)], none, rest)
        | ',' :: rest =>
          let (members, fault, rest) := parseMembers fuel rest
          ((.quoted q, n) :: members, fault, rest)
        | rest => ([(.quoted q, n)], some .malformed, rest)
      | rest => ([(.quoted q, .cut .malformed)], none, rest)
    | rest =>
      let (n, rest) := parseNode fuel rest
      ([(.odd .malformed n.mismatch, .cut .malformed)], none, rest)

end

/-- The tree at the start of a text, and what follows it. Each character
    takes at most two steps, so the count given never runs out. -/
def Node.parse (s : List Char) : Node × List Char :=
  parseNode (2 * s.length + 2) s

end Json

end DisplayHub
