import DisplayHub.Text.Blank
import DisplayHub.Text.Numeral

/-!
# Capabilities

The optional blocks of composition hardware, as a set of 32 flags.

Five flags have names. The others are kept as they are, because hardware may
have blocks that this library does not know. A set is written as its named
flags in the order of their bits, divided by bars, and then everything that
has no name as one hexadecimal number; the empty set is written as nothing.
Reading is more generous: the parts may come in any order, more than once and
with space around them, and any of them may be a number.

## Main definitions

* `Capabilities`: A set of flags.
* `Capabilities.write`: The one written form of a set.
* `Capabilities.read`: The set that a text names.
* `Capabilities.describe`: The form used in messages.
-/

namespace DisplayHub

/-- A set of capability flags, one for each bit. -/
structure Capabilities where
  bits : UInt32
deriving DecidableEq, Repr

namespace Capabilities

/-- The flags that have names, in the order of their bits. -/
def flags : List (String × UInt32) :=
  [("ROTATOR", 1), ("COLOR_PIPELINE", 2), ("HDR", 4), ("CONCURRENT_WRITEBACK", 8),
    ("DEST_SCALER", 16)]

/-- The set of flags without any. -/
def none : Capabilities := ⟨0⟩

/-- The flags of both sets. -/
def union (a b : Capabilities) : Capabilities := ⟨a.bits ||| b.bits⟩

/-- Rotating a layer while it is composed. -/
def rotator : Capabilities := ⟨1⟩

/-- Correcting colors after composition. -/
def colorPipeline : Capabilities := ⟨2⟩

/-- Whether every flag of `b` is in `a`. -/
def contains (a b : Capabilities) : Bool :=
  a.bits &&& b.bits == b.bits

/-- The names of the flags that a set holds. -/
def names (a : Capabilities) : List String :=
  (flags.filter fun flag => a.contains ⟨flag.2⟩).map (·.1)

/-- The flags of a set that have no name. -/
def unnamed (a : Capabilities) : UInt32 :=
  flags.foldl (fun bits flag => bits &&& ~~~flag.2) a.bits

/-- The parts of the written form: the names, then one number for the rest. -/
def parts (a : Capabilities) : List String :=
  a.names ++ (if a.unnamed = 0 then [] else [Text.hexText a.unnamed.toNat])

/-- The one written form of a set. -/
def write (a : Capabilities) : String :=
  " | ".intercalate a.parts

/-- The form of a set in messages, where the empty set has to show. -/
def describe (a : Capabilities) : String :=
  let text := if a.bits = 0 then Text.hexText 0 else a.write
  "HwCapabilities(" ++ text ++ ")"

/-- Divides a text at every bar. -/
def split : List Char → List (List Char)
  | [] => [[]]
  | '|' :: rest => [] :: split rest
  | c :: rest => match split rest with
    | [] => [[c]]
    | piece :: more => (c :: piece) :: more

/-- The flags that one part names: a number after `0x`, or a name exactly as
    it is declared. -/
def readPart (part : List Char) : Option Capabilities :=
  match part with
  | '0' :: 'x' :: digits => (Text.readNat 16 0x100000000 digits).map fun n => ⟨UInt32.ofNat n⟩
  | _ => (flags.find? fun flag => flag.1 = String.ofList part).map fun flag => ⟨flag.2⟩

/-- The union of the flags that the parts name, if all of them name some. -/
def readParts : List (List Char) → Option Capabilities
  | [] => some none
  | part :: rest => do
    let a ← readPart (Text.trim part)
    let b ← readParts rest
    return a.union b

/-- The set that a text names. A text of nothing but space is the empty set;
    otherwise every part between bars has to name something. -/
def read (text : String) : Option Capabilities :=
  match Text.trim text.toList with
  | [] => some none
  | s => readParts (split s)

end Capabilities

end DisplayHub
