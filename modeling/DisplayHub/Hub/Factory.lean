import DisplayHub.Hub.Service

/-!
# Creating and destroying displays

The hub as a factory.

A display is asked for by its kind, by the number of its kind, or by its own
number, which is looked up in the last report and not asked of the hardware.
Each way first checks its arguments, the missing handler before anything
else, and only then whether the hub is up. The display is brought into
service before its owner gets it; one that cannot be is dropped.

Destroying takes the display whatever comes of taking it out of service, and
answers what came of that.

## Main definitions

* `Act.create`, `Act.createByCode`, `Act.createById`: Creating.
* `Act.destroy`: Destroying.
-/

namespace DisplayHub

namespace Act

/-- The handler has to be there. -/
def requireHandler (handler : Option Handler) : Act Handler :=
  match handler with
  | some handler => return handler
  | none => fail .parameters

/-- Brings a new display into service, or drops it. -/
def commission (d : Display) (variant : Variant) (id : Option Int32) : Act Display := fun h =>
  match Serve.bringUp (d, h) with
  | (.ok (), d, h) => (.ok d, h.note .info ("DisplayCore: created display " ++ d.name))
  | (.error (.failure f), d, h) =>
    let text := "DisplayCore: " ++ variant.word ++ " display " ++ idText id
      ++ " failed to initialize: " ++ f.message
    (.error (.failure f), d.drop (h.note .warn text))
  | (.error .collapse, d, h) => (.error .collapse, d.drop h)

/-- Creates a display, with arguments that were checked. -/
def construct (variant : Variant) (id : Option Int32) (handler : Handler) : Act Display := do
  match (← get).core.provider with
  | none => fail .notInitialized
  | some provider => commission (.fresh variant id handler (some provider)) variant id

/-- Creates a display of a kind. -/
def create (variant : Variant) (handler : Option Handler) : Act Display := do
  let handler ← requireHandler handler
  construct variant none handler

/-- Creates a display of the kind with a number. -/
def createByCode (code : Int32) (handler : Option Handler) : Act Display := do
  let handler ← requireHandler handler
  match Variant.ofCode code with
  | some variant => construct variant none handler
  | none =>
    note .error ("DisplayCore: spurious display type " ++ toString code.toInt)
    fail .parameters

/-- Creates the display that the last report has under a number. -/
def createById (id : Int32) (handler : Option Handler) : Act Display := do
  let handler ← requireHandler handler
  match (← get).core.topology.find? id with
  | some entry => construct entry.variant (some id) handler
  | none =>
    note .error ("DisplayCore: spurious display id " ++ toString id.toInt)
    fail .parameters

/-- Takes a display out of service and lets it go. -/
def decommission (d : Display) : Act Unit := fun h =>
  match Serve.takeDown (d, h) with
  | (.ok (), e, h) =>
    (.ok (), (e.drop h).note .info ("DisplayCore: destroyed display " ++ d.name))
  | (.error (.failure f), e, h) =>
    (.error (.failure f), (e.drop h).note .warn ("DisplayCore: display " ++ d.name
      ++ " deinit failed: " ++ f.message))
  | (.error .collapse, e, h) => (.error .collapse, e.drop h)

/-- Destroys a display. There has to be one. -/
def destroy (d : Option Display) : Act Unit :=
  match d with
  | some d => decommission d
  | none => fail .parameters

end Act

end DisplayHub
