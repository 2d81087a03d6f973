import DisplayHub.Json.Node
import DisplayHub.Json.Value

/-!
# Reading typed values

From the tree of a JSON text to the value of a type.

A reader goes through the tree in the order of the text and stops at the
first fault. Structures are the interesting case. One is written as an object
or as the list of its fields in order. In an object a key that names no field
is passed over with its value, whatever it holds; a key that names a field
may come once; and the fields that are not named keep their defaults, except
those without one, whose absence is noticed at the closing brace. A list may
stop early if all the fields left have defaults, and may not go on.

An enumeration is written as the name of a case, or as an object with that
name as its only key and nothing as its value. What is neither text nor
object is not even looked at before it is refused.

## Main definitions

* `Reader`: A function from trees to values or faults.
* `RecordField`, `readRecord`: One field of a structure, and the structure.
* `readName`: One case of an enumeration.
* `readDocument`: A text that holds one value and nothing else.
-/

namespace DisplayHub

namespace Json

/-- From the tree of a text to a value, or the first fault. -/
abbrev Reader (α : Type) := Node → Except Fault α

/-- Checks a condition on what was read. -/
def require {α : Type} (a : Option α) : Except Fault α :=
  match a with
  | some a => .ok a
  | none => .error .mistyped

/-- A truth value. -/
def readBool : Reader Bool
  | .word (.ok (.bool b)) => .ok b
  | n => .error n.mismatch

/-- A whole number for which `fits` has a value. -/
def readInt {α : Type} (fits : Int → Option α) : Reader α
  | .number n => match n.value with
    | .ok (some i) => require (fits i)
    | .ok none => .error .mistyped
    | .error f => .error f
  | n => .error n.mismatch

/-- A whole number of 32 bits. -/
def readUInt32 : Reader UInt32 :=
  readInt fun i => if 0 ≤ i ∧ i < 0x100000000 then some (UInt32.ofNat i.toNat) else none

/-- A whole number of 64 bits. -/
def readUInt64 : Reader UInt64 :=
  readInt fun i => if 0 ≤ i ∧ i < 0x10000000000000000 then some (UInt64.ofNat i.toNat) else none

/-- A whole number of 32 bits with sign. -/
def readInt32 : Reader Int32 :=
  readInt fun i => if -0x80000000 ≤ i ∧ i < 0x80000000 then some (Int32.ofInt i) else none

/-- A text. -/
def readText : Reader String
  | .text q => q.read
  | n => .error n.mismatch

/-- A text for which `meaning` has a value. -/
def readMeaning {α : Type} (meaning : String → Option α) : Reader α := fun n => do
  require (meaning (← readText n))

/-- The items of a list, in order. -/
def readItems {α : Type} (read : Reader α) : List Node → Except Fault (List α)
  | [] => .ok []
  | n :: rest => do
    let a ← read n
    return a :: (← readItems read rest)

/-- Nothing where the text goes on as it should, else the fault. -/
def checkEnd : Option Fault → Except Fault Unit
  | none => .ok ()
  | some f => .error f

/-- A list of any length. -/
def readList {α : Type} (read : Reader α) : Reader (List α)
  | .list items fault => do
    let as ← readItems read items
    checkEnd fault
    return as
  | n => .error n.mismatch

/-- The name of a case given as a key. What stands there instead of a quoted
    text is seen as a value. -/
def readCaseKey : Key → Except Fault String
  | .quoted q => q.read
  | .odd _ f => .error f

/-- One case of an enumeration. -/
def readName {α : Type} (meaning : String → Option α) : Reader α
  | .cut f => .error f
  | .text q => do require (meaning (← q.read))
  | .object [] (some f) => .error f
  | .object [] none => .error .malformed
  | .object ((key, n) :: rest) fault => do
    let a ← require (meaning (← readCaseKey key))
    match n with
    | .word (.ok .null) => match rest, fault with
      | [], none => return a
      | [], some f => .error f
      | _ :: _, _ => .error .malformed
    | n => .error n.mismatch
  | _ => .error .malformed

/-- One field of a structure: how a value read for it changes the structure. -/
structure RecordField (α : Type) where
  name : String
  /-- Whether the structure cannot do without it. -/
  required : Bool
  read : Reader (α → α)

/-- A field that is set to the value read for it. -/
def RecordField.of {α β : Type} (name : String) (required : Bool) (read : Reader β)
    (set : β → α → α) : RecordField α :=
  ⟨name, required, fun n => (read n).map set⟩

/-- The fields of a structure from a list, in order. Fields that the list
    does not reach keep what they have. -/
def readInOrder {α : Type} (fault : Option Fault) :
    List (RecordField α) → List Node → α → Except Fault α
  | [], [], a => do
    checkEnd fault
    return a
  | [], _ :: _, _ => .error .malformed
  | field :: fields, [], a => do
    checkEnd fault
    if field.required then .error .mistyped else readInOrder fault fields [] a
  | field :: fields, n :: rest, a => do
    let set ← field.read n
    readInOrder fault fields rest (set a)

/-- The name of a member. -/
def readKey : Key → Except Fault String
  | .quoted q => q.read
  | .odd f _ => .error f

/-- Passes over a value. -/
def pass (n : Node) : Except Fault Unit :=
  checkEnd n.skip

/-- The fields of a structure from the members of an object, with the names
    seen so far. -/
def readByName {α : Type} (fields : List (RecordField α)) :
    List (Key × Node) → List String → α → Except Fault (α × List String)
  | [], seen, a => .ok (a, seen)
  | (key, n) :: rest, seen, a => do
    let name ← readKey key
    match fields.find? fun field => field.name = name with
    | some field =>
      if name ∈ seen then .error .mistyped
      else
        let set ← field.read n
        readByName fields rest (name :: seen) (set a)
    | none =>
      pass n
      readByName fields rest seen a

/-- Whether every field that a structure needs was seen. -/
def complete {α : Type} (fields : List (RecordField α)) (seen : List String) : Bool :=
  fields.all fun field => !field.required || seen.contains field.name

/-- A structure, beginning with `blank`. -/
def readRecord {α : Type} (blank : α) (fields : List (RecordField α)) : Reader α
  | .list items fault => readInOrder fault fields items blank
  | .object members fault => do
    let (a, seen) ← readByName fields members [] blank
    checkEnd fault
    if complete fields seen then return a else .error .mistyped
  | n => .error n.mismatch

/-- A text that holds one value, with nothing but space around it. -/
def readDocument {α : Type} (read : Reader α) (text : String) : Except Fault α := do
  let (n, rest) := Node.parse text.toList
  let a ← read n
  if (skipSpace rest).isEmpty then return a else .error .malformed

end Json

end DisplayHub
