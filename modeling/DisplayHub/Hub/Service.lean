import DisplayHub.Hub.Composition
import DisplayHub.Hub.Provider

/-!
# Displays in service

Bringing a display into service, driving it, and taking it out again.

An operation on a display changes the display as well as the hub, and both
changes stay when it stops half way: a display that found its entry is bound
to it even if no token could be had afterwards. `Serve` is `Act` with the
display beside the state.

Going into service, a display first finds the entry that it drives, then
gets what memory it needs, and asks for its token last. Leaving service it
returns the token first. Dropping a display returns whatever it still holds.
A handler is told of changes of power only, and only of those that the owner
asks for.

## Main definitions

* `Serve`: An operation on a display.
* `Serve.resolve`: Finding the entry to drive.
* `Serve.register`, `Serve.unregister`: Getting a token and returning it.
* `Serve.bringUp`, `Serve.takeDown`: Into service and out of it.
* `Serve.setPower`: Changing the power state.
* `Display.drop`: Letting a display go.
-/

namespace DisplayHub

/-- An operation on a display. -/
abbrev Serve (α : Type) := ExceptT Stop (StateM (Display × Hub)) α

/-- An operation of the hub leaves the display alone. -/
def Serve.onHub {α : Type} (act : Act α) : Serve α := fun (d, h) =>
  match act h with
  | (result, h) => (result, d, h)

namespace Hub

/-- Tells a handler something, in the way in which it takes it. -/
def tell (handler : Handler) (notice : Notice) (h : Hub) : Hub :=
  match handler, notice with
  | .record, _ => h.deliver .record notice
  | .reenter, _ =>
    let h := h.deliver .reenter notice
    h.deliver .reenter (.topology h.core.topology.ids)
  | .refreshOnly, .refresh _ _ => h.deliver .refreshOnly notice
  | .refreshOnly, _ => h
  | .announce, .stateChanged variant id state =>
    h.note .info (variant.word ++ " display " ++ idText id ++ " is now " ++ state.title)
  | .announce, .refresh variant id =>
    h.note .info ("refresh requested by " ++ variant.word ++ " display " ++ idText id)
  | .announce, .topology _ => h

end Hub

namespace Display

/-- Returns a display's token, if it holds one. -/
def returnToken (d : Display) (h : Hub) : Display × Hub :=
  match d.token with
  | none => (d, h)
  | some token =>
    ({ d with token := none },
      (h.unregister token).note .debug ("Display " ++ d.name
        ++ ": released composition resources"))

/-- Returns a display's buffer, if it holds one. -/
def returnWriteback (d : Display) (h : Hub) : Display × Hub :=
  match d.writeback? with
  | none => (d, h)
  | some buffer =>
    ({ d with body := .offscreen none },
      (h.note .debug ("DisplayVirtual: freeing writeback buffer " ++ toString buffer.id)).free
        buffer)

/-- Lets a display go, with whatever it still holds. -/
def drop (d : Display) (h : Hub) : Hub :=
  let (d, h) := d.returnWriteback h
  let h := if d.initialized then
      h.note .warn ("Display " ++ d.name ++ ": dropped without deinit")
    else h
  (d.returnToken h).2

end Display

namespace Serve

/-- Stops with a failure. -/
def fail {α : Type} (f : Failure) : Serve α :=
  throw (.failure f)

/-- Writes a note. -/
def note (level : Level) (text : String) : Serve Unit :=
  onHub (Act.note level text)

/-- The display as it stands. -/
def display : Serve Display := do
  return (← get).1

/-- Changes the display. -/
def change (f : Display → Display) : Serve Unit :=
  modify fun (d, h) => (f d, h)

/-- Finds the entry that the display drives, in a fresh report, and binds the
    display to it. -/
def resolve (connected : Bool) : Serve Entry := do
  let topology ← onHub Act.queryStatus
  match (← display).choose connected topology with
  | .ok entry =>
    change (·.bind entry.id)
    return entry
  | .error f => fail f

/-- Gets the token of a display that has none. -/
def register : Serve Unit := do
  let d ← display
  if d.initialized then fail .parameters
  let token ← onHub (Act.register d.variant d.id)
  change fun d => { d with token := some token }
  note .info ("Display " ++ d.name ++ ": initialized")

/-- Returns the token of a display, if it has one. -/
def unregister : Serve Unit :=
  modify fun (d, h) => d.returnToken h

/-- A built-in panel goes into service. -/
def bringUpPanel : Serve Unit := do
  let entry ← resolve true
  register
  change fun d => { d with body := .builtIn entry.primary }
  if entry.primary then
    note .info ("DisplayBuiltIn: " ++ entry.name ++ " is the primary panel")

/-- An external display goes into service. -/
def bringUpConnector : Serve Unit := do
  let entry ← resolve true
  register
  change fun d => { d with body := .pluggable entry.name }

/-- Gets the token of an off-screen display, and returns its buffer if that
    fails. -/
def registerOffscreen : Serve Unit := fun s =>
  match register s with
  | (.error (.failure f), d, h) => (.error (.failure f), d.returnWriteback h)
  | done => done

/-- An off-screen display goes into service. One without a number has no
    entry to check, and the entry of another one need not be connected. -/
def bringUpOffscreen : Serve Unit := do
  if (← display).id.isSome then
    let _ ← resolve false
  let buffer ← onHub (Act.allocate Display.writebackSize)
  change fun d => { d with body := .offscreen (some buffer) }
  registerOffscreen

/-- A display goes into service. -/
def bringUp : Serve Unit := do
  match (← display).body with
  | .bare _ => return ()
  | .builtIn _ => bringUpPanel
  | .pluggable _ => bringUpConnector
  | .offscreen _ => bringUpOffscreen

/-- What all kinds do to leave service. The handler is not told. -/
def retire : Serve Unit := do
  let d ← display
  if !d.initialized then fail .notInitialized
  change fun d => { d with power := .off }
  unregister
  note .info ("Display " ++ d.name ++ ": deinitialized")

/-- A display leaves service. -/
def takeDown : Serve Unit := do
  match (← display).stuck with
  | some f => fail f
  | none =>
    retire
    match (← display).body with
    | .pluggable _ => change fun d => { d with body := .pluggable "" }
    | .offscreen _ => modify fun (d, h) => d.returnWriteback h
    | _ => return ()

/-- Changes the power state of a display in service and tells its handler. A
    display that is switched on needs a frame at once. -/
def setPower (power : Power) : Serve Unit := do
  let d ← display
  if !d.initialized then fail .notInitialized
  if d.power = power then return ()
  note .debug ("Display " ++ d.name ++ ": " ++ d.power.title ++ " -> " ++ power.title)
  change fun d => { d with power }
  modify fun (e, h) => (e, h.tell d.handler (.stateChanged d.variant d.id power))
  if power = .on then
    modify fun (e, h) => (e, h.tell d.handler (.refresh d.variant d.id))

end Serve

end DisplayHub
