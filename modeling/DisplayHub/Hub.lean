import DisplayHub.Compositor
import DisplayHub.Display
import DisplayHub.Hardware

/-!
# The hub

The state that every operation reads and changes, and the shape of an
operation.

The state has the hub's own core, which is what is known between bringing the
hub up and taking it down; the collaborators, each in the state it keeps for
itself; the displays that somebody holds, in numbered slots; and what lies
around all of them, the files and the process. What is left behind for
watchers goes into the journal.

An operation runs on this state and either gives a value or stops. When it
stops, the state stays as it then is: nothing is rolled back, and whatever an
operation has to undo it undoes itself. That is why the state is inside and
the stopping outside in `Act`.

Collaborators can be made to fail. Every call of one goes through `visit`,
which writes the call down and then stops if a fault is set there.

## Main definitions

* `Core`: What is known between bringing up and taking down.
* `Hub`: The whole state.
* `Act`: An operation.
* `Act.visit`: Calling a collaborator.
* `Act.onStop`, `Act.attempt`: Undoing, and living with failure.
* `Hub.letGo`: One holder less of a vendor interface.
-/

namespace DisplayHub

/-- What is known between bringing the hub up and taking it down. The hub is
    up exactly while there is a provider. -/
structure Core where
  extension : Option Extension := none
  provider : Option Nat := none
  resource : Option Resource := none
  /-- The report against which displays are created by number. -/
  topology : Topology := {}

/-- The service that corrects colors. -/
structure ColorService where
  active : Bool := false
  /-- A stand-in takes up work on any hardware and keeps nothing. -/
  standIn : Bool := false
deriving DecidableEq, Repr

/-- The whole state. -/
structure Hub where
  storage : Storage := {}
  /-- The library path that the environment gives. -/
  override : Option String := none
  /-- Whether writing to a peer that is gone fails instead of ending the
      process. -/
  pipeIgnored : Bool := false
  loader : Loader
  hardware : Hardware
  /-- Where collaborators are made to stop, and how. -/
  faults : Call → Option Stop := fun _ => none
  allocator : Allocator := {}
  compositor : Compositor := {}
  color : ColorService := {}
  core : Core := {}
  /-- The displays that somebody holds. An emptied slot is never filled. -/
  slots : List (Option Display) := []
  /-- The interfaces handed out so far. -/
  extensions : Nat := 0
  /-- The providers created so far. -/
  providers : Nat := 0
  /-- Whether the compositor was last offered an interface. -/
  offered : Option Bool := none
  journal : Journal := {}

/-- An operation: a value or a reason to stop, and the state either way. -/
abbrev Act (α : Type) := ExceptT Stop (StateM Hub) α

namespace Hub

/-- The state with one more note. -/
def note (level : Level) (text : String) (h : Hub) : Hub :=
  { h with journal := h.journal.add (.note ⟨level, text⟩) }

/-- The state with more notes. -/
def noteAll (notes : List Note) (h : Hub) : Hub :=
  { h with journal := h.journal.addAll (notes.map .note) }

/-- The state with one more call written down. -/
def recordCall (call : Call) (h : Hub) : Hub :=
  { h with journal := h.journal.add (.call call) }

/-- The state with one more notice in the record of a handler. -/
def deliver (handler : Handler) (notice : Notice) (h : Hub) : Hub :=
  { h with journal := h.journal.add (.delivery ⟨handler, notice⟩) }

/-- The state with more library events. -/
def recordEvents (events : List LibraryEvent) (h : Hub) : Hub :=
  { h with journal := h.journal.addAll (events.map .library) }

/-- Whether the hub is up. -/
def initialized (h : Hub) : Bool := h.core.provider.isSome

/-- The display in a slot. -/
def display? (h : Hub) (slot : Nat) : Option Display :=
  h.slots[slot]?.join

/-- The state with another display, or none, in a slot. -/
def setSlot (slot : Nat) (d : Option Display) (h : Hub) : Hub :=
  { h with slots := h.slots.set slot d }

/-- The state with a display in a new slot. -/
def addSlot (d : Display) (h : Hub) : Hub :=
  { h with slots := h.slots ++ [some d] }

/-- The displays that somebody holds. -/
def live (h : Hub) : List Display :=
  h.slots.filterMap id

/-- Whether the core or the compositor holds an interface. -/
def holds (h : Hub) (e : Extension) : Bool :=
  h.core.extension == some e || h.compositor.extension? == some e

/-- Destroys an interface that nobody holds, and closes its library. -/
def destroyExtension (e : Extension) (h : Hub) : Hub :=
  match e.opened with
  | none => h.recordCall .destroyExtension
  | some i =>
    let h := h.recordEvents [i.destruction.seen, .unload]
    if i.destruction.status ≠ 0 then
      h.note .warn ("DylibExtension: destroy interface from " ++ i.path ++ " returned "
        ++ toString i.destruction.status.toInt)
    else h.note .debug ("DylibExtension: destroyed interface from " ++ i.path)

/-- One holder of an interface has let go. It is destroyed if that was the
    last one. -/
def letGo (e : Extension) (h : Hub) : Hub :=
  if h.holds e then h else h.destroyExtension e

/-- What was held of an interface, if anything, is let go. -/
def letGo? (e : Option Extension) (h : Hub) : Hub :=
  match e with
  | some e => h.letGo e
  | none => h

end Hub

namespace Act

/-- Stops with a failure. -/
def fail {α : Type} (f : Failure) : Act α :=
  throw (.failure f)

/-- Writes a note. -/
def note (level : Level) (text : String) : Act Unit :=
  modify (Hub.note level text)

/-- Goes on with a value, or stops with the failure in its place. -/
def ofExcept {α : Type} : Except Failure α → Act α
  | .ok a => pure a
  | .error f => fail f

/-- Calls a collaborator: the call is written down, and a fault that is set
    there takes effect before the collaborator does anything. -/
def visit (call : Call) : Act Unit := do
  modify (Hub.recordCall call)
  match (← get).faults call with
  | none => return ()
  | some stop => throw stop

/-- Runs an operation, and undoes something if it stops. -/
def onStop {α : Type} (undo : Hub → Hub) (act : Act α) : Act α := fun h =>
  match act h with
  | (.ok a, h) => (.ok a, h)
  | (.error stop, h) => (.error stop, undo h)

/-- Runs an operation and takes its failure for a value. A collaborator that
    gives up still stops everything. -/
def attempt {α : Type} (act : Act α) : Act (Except Failure α) := fun h =>
  match act h with
  | (.ok a, h) => (.ok (.ok a), h)
  | (.error (.failure f), h) => (.ok (.error f), h)
  | (.error .collapse, h) => (.error .collapse, h)

end Act

end DisplayHub
