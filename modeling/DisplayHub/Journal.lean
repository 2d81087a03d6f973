import DisplayHub.Surface
import DisplayHub.Variant
import DisplayHub.Vendor

/-!
# The journal

What the hub leaves behind for those who watch it.

Four sorts of records are kept, and nothing the hub does depends on any of
them. Notes are lines of log with a weight. Calls are the points at which the
hub turns to one of its collaborators. Deliveries are what the handlers of
displays were told. Library events are what an extension library sees of its
own life. All of them stand in one sequence, in the order of time, so that it
can be told of any two which came first, whatever their sorts.

## Main definitions

* `Level`, `Note`: A line of log.
* `Call`: A point at which a collaborator is called.
* `Notice`, `Handler`, `Delivery`: What a display's handler is told.
* `Record`: A thing left behind, of any of the four sorts.
* `Journal`: All records, and `Journal.notes`, `Journal.calls`,
  `Journal.deliveries`, `Journal.library` for the ones of a sort.
* `Note.lines`: The lines of log that a level lets through.
-/

namespace DisplayHub

/-- The weight of a note, the gravest first. -/
inductive Level where
  | error
  | warn
  | info
  | debug
  | trace
deriving DecidableEq, Repr

namespace Level

/-- How far a weight is from the gravest. -/
def rank : Level → Nat
  | error => 1
  | warn => 2
  | info => 3
  | debug => 4
  | trace => 5

/-- The weight as it stands in front of a note. -/
def title : Level → String
  | error => "ERROR"
  | warn => "WARN"
  | info => "INFO"
  | debug => "DEBUG"
  | trace => "TRACE"

end Level

/-- A line of log. -/
structure Note where
  level : Level
  text : String
deriving DecidableEq, Repr

/-- A line of log with its weight in front. -/
def Note.line (n : Note) : String :=
  n.level.title ++ " " ++ n.text

/-- The lines of the notes that are at least as grave as a level. No level
    lets no note through. -/
def Note.lines (level : Option Level) (notes : List Note) : List String :=
  match level with
  | none => []
  | some level => (notes.filter fun n => n.level.rank ≤ level.rank).map Note.line

/-- The points at which a collaborator is called. -/
inductive Call where
  | loadExtension
  | destroyExtension
  | createProvider
  | destroyProvider
  | queryResource
  | queryStatus
  | queryLimit
  | queryFirst
  | startCompositor
  | stopCompositor
  | setBandwidth
  | askRotator
  | register
  | unregister
  | startColor
  | stopColor
deriving DecidableEq, Repr

/-- What a display tells its handler. -/
inductive Notice where
  /-- The display changed its power state. -/
  | stateChanged (variant : Variant) (id : Option Int32) (state : Power)
  /-- The display needs a new frame. -/
  | refresh (variant : Variant) (id : Option Int32)
  /-- The handler looked the topology up while it was being told. -/
  | topology (ids : List Int32)
deriving DecidableEq, Repr

/-- How a handler takes what it is told. -/
inductive Handler where
  /-- It keeps a record. -/
  | record
  /-- It keeps a record, and looks the topology up each time. -/
  | reenter
  /-- It keeps a record of wanted frames alone. -/
  | refreshOnly
  /-- It writes a note. -/
  | announce
deriving DecidableEq, Repr

/-- A notice in the record of a handler. -/
structure Delivery where
  handler : Handler
  notice : Notice
deriving DecidableEq, Repr

/-- A thing left behind. -/
inductive Record where
  | note (n : Note)
  | call (c : Call)
  | delivery (d : Delivery)
  | library (e : LibraryEvent)
deriving DecidableEq, Repr

namespace Record

/-- The note that a record is, if it is one. -/
def note? : Record → Option Note
  | note n => some n
  | _ => none

/-- The call that a record is, if it is one. -/
def call? : Record → Option Call
  | call c => some c
  | _ => none

/-- The delivery that a record is, if it is one. -/
def delivery? : Record → Option Delivery
  | delivery d => some d
  | _ => none

/-- The library event that a record is, if it is one. -/
def library? : Record → Option LibraryEvent
  | library e => some e
  | _ => none

end Record

/-- What is left behind, in the order of time. -/
structure Journal where
  records : Array Record := #[]
deriving DecidableEq, Repr

namespace Journal

/-- The journal with one more record. -/
def add (j : Journal) (r : Record) : Journal :=
  ⟨j.records.push r⟩

/-- The journal with more records. -/
def addAll (j : Journal) (l : List Record) : Journal :=
  ⟨j.records ++ l⟩

/-- What was left behind after the point at which a journal was as `before`. -/
def since (before after : Journal) : Journal :=
  ⟨after.records.extract before.records.size⟩

/-- The lines of log. -/
def notes (j : Journal) : List Note := j.records.toList.filterMap Record.note?

/-- The calls of collaborators. -/
def calls (j : Journal) : List Call := j.records.toList.filterMap Record.call?

/-- What handlers were told. -/
def deliveries (j : Journal) : List Delivery := j.records.toList.filterMap Record.delivery?

/-- What extension libraries saw. -/
def library (j : Journal) : List LibraryEvent := j.records.toList.filterMap Record.library?

end Journal

end DisplayHub
