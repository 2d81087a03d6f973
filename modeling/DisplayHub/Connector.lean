import DisplayHub.Journal
import DisplayHub.Storage
import DisplayHub.Text.Blank
import DisplayHub.Text.Numeral
import DisplayHub.Topology

/-!
# Connectors

The displays that a kernel lists as connector entries.

An entry is a directory called after its card, the type of the connector and
a running number, as in `card0-HDMI-A-1`. Inside, one file says whether a
display is connected and another one may give the connector's number. Both
can vanish at any time, so what cannot be read counts as not there.

The scan has two halves. `readConnectors` goes through the files and is the
only part that touches the storage. Everything else is arithmetic on what was
read: `claims` gives each number to the first entry that carries it,
`fallbacks` gives the entries without a number the smallest ones that nobody
carries, and `markPrimary` picks the first connected panel.

Entries are taken in the order of their names, which makes the outcome
independent of the order in which the directory lists them.

## Main definitions

* `splitName`: The parts of an entry's name.
* `Connector`: One entry as read.
* `claims`, `fallbacks`, `assigned`: The number of each entry.
* `markPrimary`: The entries reported, with the primary panel marked.
* `scan`: The topology under a directory.
-/

namespace DisplayHub

namespace Connector

/-- The kind of display behind a type of connector. Other types are not
    driven. -/
def variantOf (type : String) : Option Variant :=
  if ["eDP", "DSI", "LVDS", "DPI"].contains type then some .builtIn
  else if ["HDMI-A", "HDMI-B", "DP", "DVI-I", "DVI-D", "DVI-A", "VGA", "USB"].contains type then
    some .pluggable
  else if ["Virtual", "Writeback"].contains type then some .offscreen
  else none

/-- Divides a text at its first hyphen. -/
def splitFirst : List Char → Option (List Char × List Char)
  | [] => none
  | '-' :: rest => some ([], rest)
  | c :: rest => (splitFirst rest).map fun p => (c :: p.1, p.2)

/-- Divides a text at its last hyphen. -/
def splitLast (s : List Char) : Option (List Char × List Char) :=
  (splitFirst s.reverse).map fun p => (p.2.reverse, p.1.reverse)

/-- The type of the connector and the part of its name that follows the card,
    for a name that is one of an entry: `card`, more without a hyphen, a
    hyphen, the type, a hyphen, and a number. -/
def splitName (name : List Char) : Option (List Char × List Char) :=
  if ['c', 'a', 'r', 'd'].isPrefixOf name then do
    let (_, connector) ← splitFirst name
    let (type, index) ← splitLast connector
    if type = [] ∨ Text.readUInt32 index = none then none
    else some (type, connector)
  else none

end Connector

/-- One connector entry as read. -/
structure Connector where
  /-- The number that the kernel gives, if it could be read. -/
  number : Option Int32
  variant : Variant
  connected : Bool
  name : String
deriving DecidableEq, Repr

namespace Connector

/-- The numbers that entries carry. -/
def numbers (l : List Connector) : List Int32 :=
  l.filterMap (·.number)

/-- Gives each number to the first entry that carries it. Entries whose number
    is gone get nothing, and so do those without one. -/
def claims (taken : List Int32) : List Connector → List (Option Int32)
  | [] => []
  | c :: rest => match c.number with
    | none => none :: claims taken rest
    | some id =>
      if id ∈ taken then none :: claims taken rest
      else some id :: claims (id :: taken) rest

/-- Counts up to the first number from `next` on that is not taken. The first
    argument bounds the count of steps, and as many as there are taken numbers
    are enough. -/
def leastFree (taken : List Int32) : Nat → Nat → Nat
  | 0, next => next
  | steps + 1, next =>
    if (next : Int) ∈ taken.map Int32.toInt then leastFree taken steps (next + 1) else next

/-- Completes what was claimed: the entries without a number take, in order,
    the smallest ones not taken. -/
def fallbacks (taken : List Int32) (next : Nat) :
    List (Connector × Option Int32) → List (Option Int32)
  | [] => []
  | (c, claim) :: rest => match c.number with
    | some _ => claim :: fallbacks taken next rest
    | none =>
      let free := leastFree taken taken.length next
      let id := Int32.ofNat free
      some id :: fallbacks (id :: taken) free rest

/-- The number under which each entry is reported, if it is. -/
def assigned (l : List Connector) : List (Option Int32) :=
  fallbacks (numbers l) 0 (l.zip (claims [] l))

/-- The entries that are reported, each with its number, in the order of their
    names. -/
def reported (l : List Connector) : List (Int32 × Connector) :=
  (l.zip (assigned l)).filterMap fun p => p.2.map fun id => (id, p.1)

/-- Marks the first connected panel as primary and no other. -/
def markPrimary : List (Int32 × Connector) → Bool → List Entry
  | [], _ => []
  | (id, c) :: rest, found =>
    let primary := !found && c.connected && c.variant == .builtIn
    ⟨id, c.variant, c.connected, primary, c.name⟩ :: markPrimary rest (found || primary)

/-- The topology of the entries read. -/
def topology (l : List Connector) : Topology :=
  Topology.ofList (markPrimary (reported l) false)

/-- What is noted about numbers that several entries carry. -/
def duplicateNotes (l : List Connector) : List Note :=
  (l.zip (assigned l)).filterMap fun p => match p.1.number, p.2 with
    | some id, none => some ⟨.warn, "DrmSysfsHwInfo: duplicate connector id " ++ toString id.toInt
        ++ " for " ++ p.1.name ++ ", ignoring"⟩
    | _, _ => none

/-- What is noted about each entry reported. -/
def reportNotes (l : List Connector) : List Note :=
  (reported l).map fun p => ⟨.trace, "DrmSysfsHwInfo: " ++ p.2.name ++ " -> id "
    ++ toString p.1.toInt ++ " (" ++ p.2.variant.word ++ ", connected="
    ++ toString p.2.connected ++ ")"⟩

/-- The text of a file without the blanks around it, if it can be read. -/
def readTrimmed (storage : Storage) (path : String) : Option String × Storage :=
  match storage.readText path with
  | (.ok text, storage) => (some (Text.trimmed text), storage)
  | (.error _, storage) => (none, storage)

/-- Reads one entry's files. -/
def readFiles (storage : Storage) (root entry : String) : Bool × Option Int32 × Storage :=
  let dir := Path.join root entry
  let (status, storage) := readTrimmed storage (Path.join dir "status")
  let (number, storage) := readTrimmed storage (Path.join dir "connector_id")
  (status == some "connected", number.bind fun text => Text.readInt32 text.toList, storage)

/-- What a scan has so far. -/
structure Progress where
  storage : Storage
  found : List Connector := []
  notes : List Note := []

/-- Reads the entry with a name, if it is one that is driven. -/
def readEntry (root : String) (p : Progress) (entry : String) : Progress :=
  match splitName entry.toList with
  | none => p
  | some (type, connector) => match variantOf (String.ofList type) with
    | none => { p with notes := p.notes
        ++ [⟨.debug, "DrmSysfsHwInfo: skipping unsupported connector " ++ entry⟩] }
    | some variant =>
      let (connected, number, storage) := readFiles p.storage root entry
      let c : Connector := ⟨number, variant, connected, String.ofList connector⟩
      { p with storage, found := p.found ++ [c] }

/-- Reads the entries with the given names, in order. -/
def readConnectors (storage : Storage) (root : String) (entries : List String) : Progress :=
  entries.foldl (readEntry root) { storage }

/-- The names in the order of their characters. -/
def inOrder (entries : List String) : List String :=
  entries.mergeSort fun a b => decide (a ≤ b)

/-- What a scan gives: the topology, or why the directory cannot be listed;
    the storage after the files were opened; and the notes. -/
def scan (storage : Storage) (root : String) : Except OsFault Topology × Storage × List Note :=
  match storage.list root with
  | .error fault => (.error fault, storage, [])
  | .ok entries =>
    let p := readConnectors storage root (inOrder entries)
    (.ok (topology p.found), p.storage, p.notes ++ duplicateNotes p.found ++ reportNotes p.found)

end Connector

end DisplayHub
