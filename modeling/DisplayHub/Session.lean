import DisplayHub.Hub.Accessors
import DisplayHub.Hub.Bootstrap
import DisplayHub.Hub.Factory
import DisplayHub.Reply

/-!
# Sessions

A hub driven step by step.

A session is a hub together with somebody who holds its displays and can
change the world around it. Its steps are the operations of the hub, the
operations on displays that are held, the work of the compositor and the
color service done directly, and changes to the hardware, the files and the
faults.

A hub can be set up in three ways. A configured one has the collaborators
that its settings ask for. A recording one answers from a description that
can be changed at any time, and every call is written down. A scripted one
has stand-ins throughout, of which only the compositor does real work; its
direct steps go to a compositor and a color service apart from the hub's.

## Main definitions

* `Rig`: How a hub is set up.
* `Session`: A hub and its surroundings.
* `Step`: One step.
* `Session.step`: What a step answers and changes.
* `Session.close`: The end, where everything held is let go.
-/

namespace DisplayHub

/-- How a hub is set up. -/
inductive Rig where
  | configured
  | recording
  | scripted
deriving DecidableEq, Repr

/-- A hub and its surroundings. -/
structure Session where
  rig : Rig
  hub : Hub
  /-- The tokens granted by direct steps. -/
  tokens : List Nat := []
  /-- The compositor and the color service apart from the hub's own. -/
  spareCompositor : Compositor := {}
  spareColor : ColorService := {}
  /-- How many of the calls written down were struck out. -/
  struck : Nat := 0

/-- One step. -/
inductive Step where
  | bootstrap
  | teardown
  | create (variant : Variant) (handler : Option Handler)
  | createByCode (code : Int32) (handler : Option Handler)
  | createById (id : Int32) (handler : Option Handler)
  | destroy (slot : Option Nat)
  | setBandwidth (mode : BandwidthMode)
  | limit (variant : Variant)
  | firstInterface
  | rotates (format : PixelFormat)
  | refresh
  | cachedTopology
  | cachedResource
  | inspect (slot : Nat)
  | drop (slot : Nat)
  | bringUp (slot : Nat)
  | takeDown (slot : Nat)
  | setPower (slot : Nat) (power : Power)
  /-- From now on the display fails to leave service. -/
  | stick (slot : Nat) (failure : Failure)
  | resolve (slot : Nat) (connected : Bool)
  | register (slot : Nat)
  | unregister (slot : Nat)
  /-- A display is made without the hub. -/
  | make (variant : Variant) (id : Option Int32) (concrete : Bool)
  | makeBare (variant : Variant) (id : Option Int32)
  | takeUp (resource : Resource) (extension : Bool)
  | leave
  | chooseMode (mode : BandwidthMode)
  | canRotate (format : PixelFormat)
  | grant (variant : Variant) (id : Option Int32)
  | revoke (place : Nat)
  | brighten (resource : Resource)
  | darken
  | setDisplays (entries : List Entry)
  | setResource (resource : Resource)
  | setExtension (outcome : Except Failure Bool)
  | setFault (call : Call) (stop : Option Stop)
  | changeFiles (removes : List String) (layout : List (String × Item))
  | pipeIgnored
  | restorePipe
  | wasCalled (name : String)
  | strikeCalls
  | loadExtension
  | work (ids : List Int32) (rounds : Nat)

/-- The name under which a call is written down. -/
def Call.name : Call → String
  | loadExtension => "ext.load"
  | destroyExtension => "ext.destroy"
  | createProvider => "hw.create"
  | destroyProvider => "hw.destroy"
  | queryResource => "hw.resource"
  | queryStatus => "hw.status"
  | queryLimit => "hw.max"
  | queryFirst => "hw.first"
  | startCompositor => "comp.init"
  | stopCompositor => "comp.deinit"
  | setBandwidth => "comp.bandwidth"
  | askRotator => "comp.rotator"
  | register => "comp.register"
  | unregister => "comp.unregister"
  | startColor => "color.init"
  | stopColor => "color.deinit"

/-- The name under which a stand-in writes a call down, unless it only counts
    it. -/
def Call.scriptedName? : Call → Option String
  | queryStatus => none
  | register => none
  | unregister => none
  | queryLimit => some "hw.max_displays"
  | queryFirst => some "hw.first_interface"
  | call => some call.name

namespace Session

/-- The names of the calls that are written down and not struck out. -/
def callNames (s : Session) : List String :=
  let calls := s.hub.journal.calls.drop s.struck
  match s.rig with
  | .scripted => calls.filterMap Call.scriptedName?
  | _ => calls.map Call.name

/-- How often a call was made. -/
def countCalls (s : Session) (call : Call) : Nat :=
  s.hub.journal.calls.count call

/-- Runs an operation of the hub. -/
def run {α : Type} (s : Session) (act : Act α) : Except Stop α × Session :=
  let (result, hub) := act s.hub
  (result, { s with hub })

/-- Runs an operation of the hub and answers what comes of it. -/
def answer {α : Type} (s : Session) (act : Act α) (reply : α → Reply) : Outcome × Session :=
  let (result, s) := s.run act
  (.ofResult reply result, s)

/-- Changes the hub. -/
def change (s : Session) (f : Hub → Hub) : Outcome × Session :=
  (.done, { s with hub := f s.hub })

/-- Puts a display into the next slot. -/
def keep (s : Session) (d : Display) : Outcome × Session :=
  (.value (.display d (some s.hub.slots.length)), { s with hub := s.hub.addSlot d })

/-- Puts what was created into the next slot. -/
def keepCreated (s : Session) (act : Act Display) : Outcome × Session :=
  match s.run act with
  | (.ok d, s) => s.keep d
  | (.error stop, s) => (.trouble (.stop stop), s)

/-- Does something with the display in a slot. -/
def withDisplay (s : Session) (slot : Nat) (f : Display → Outcome × Session) :
    Outcome × Session :=
  match s.hub.display? slot with
  | some d => f d
  | none => (.trouble .noSlot, s)

/-- Runs an operation on the display in a slot. -/
def serve {α : Type} (s : Session) (slot : Nat) (act : Serve α) (reply : α → Reply)
    (shows : Bool) : Outcome × Session :=
  s.withDisplay slot fun d =>
    let (result, d, hub) := act (d, s.hub)
    let outcome := Outcome.ofResult reply result
    let shown := match result with
      | .error .collapse => none
      | _ => if shows then some d else none
    ({ outcome with shown }, { s with hub := hub.setSlot slot (some d) })

/-- Takes the display out of a slot and destroys it. -/
def destroySlot (s : Session) (slot : Option Nat) : Outcome × Session :=
  let d := slot.bind s.hub.display?
  let hub := match slot with
    | some slot => s.hub.setSlot slot none
    | none => s.hub
  { s with hub }.answer (Act.destroy d) fun _ => .nothing

/-- Runs direct work of the compositor and the color service. In a scripted
    session it is done by the ones apart from the hub. -/
def directly {α : Type} (s : Session) (act : Act α) : Except Stop α × Session :=
  match s.rig with
  | .scripted =>
    let hub := { s.hub with compositor := s.spareCompositor, color := s.spareColor }
    let (result, after) := act hub
    (result, { s with
      hub := { after with compositor := s.hub.compositor, color := s.hub.color }
      spareCompositor := after.compositor
      spareColor := after.color })
  | _ => s.run act

/-- Runs direct work and answers what comes of it. -/
def answerDirectly {α : Type} (s : Session) (act : Act α) (reply : α → Reply) :
    Outcome × Session :=
  let (result, s) := s.directly act
  (.ofResult reply result, s)

/-- The compositor takes up work, perhaps with a stand-in for an extension. -/
def takeUpWith (resource : Resource) (extension : Bool) : Act Unit := do
  if extension then
    let e ← Act.handOut none
    Act.onStop (Hub.letGo e) (Act.takeUp resource (some e))
  else Act.takeUp resource none

/-- The listing in which a session's displays are given. -/
def listing (s : Session) (entries : List Entry) : Listing :=
  match s.rig with
  | .scripted => .scripted entries
  | _ => .described entries

/-- Sets a fault. In a scripted session a fault of the resource query takes
    the place of the description. -/
def setFault (s : Session) (call : Call) (stop : Option Stop) : Outcome × Session :=
  match s.rig, call, stop with
  | .scripted, .queryResource, some (.failure f) =>
    s.change fun h => { h with hardware := { h.hardware with resource := .error f } }
  | _, _, _ =>
    s.change fun h => { h with faults := fun c => if c = call then stop else h.faults c }

/-- One round of work: a display is created, the report refreshed, and the
    display destroyed. -/
def workRound (id : Int32) : Act Unit := do
  let d ← Act.createById id (some .record)
  let _ ← Act.onStop d.drop Act.refresh
  Act.destroy (some d)

/-- Rounds of work on one display, with the count of those that went wrong. -/
def workRounds (id : Int32) : Nat → Hub → Nat × Hub
  | 0, h => (0, h)
  | rounds + 1, h =>
    let (result, h) := workRound id h
    let (errors, h) := workRounds id rounds h
    match result with
    | .ok () => (errors, h)
    | .error _ => (errors + 1, h)

/-- Work on several displays, one after the other. -/
def workAll (rounds : Nat) : List Int32 → Hub → Nat × Hub
  | [], h => (0, h)
  | id :: rest, h =>
    let (errors, h) := workRounds id rounds h
    let (more, h) := workAll rounds rest h
    (errors + more, h)

/-- Loads the extension and lets it go. -/
def tryExtension : Act (Option Extension) := do
  let extension ← Act.loadExtension
  modify (Hub.letGo? extension)
  return extension

/-- What is shown of an extension, if there is one. -/
def showExtension : Option Extension → Reply
  | none => .nothing
  | some e => .extension e.versionTag e.opened.isNone

/-- What a step answers and changes. -/
def step (s : Session) : Step → Outcome × Session
  | .bootstrap => s.answer Act.bootstrap fun _ => .nothing
  | .teardown => s.change Hub.teardown
  | .create variant handler => s.keepCreated (Act.create variant handler)
  | .createByCode code handler => s.keepCreated (Act.createByCode code handler)
  | .createById id handler => s.keepCreated (Act.createById id handler)
  | .destroy slot => s.destroySlot slot
  | .setBandwidth mode => s.answer (Act.setBandwidth mode) fun _ => .nothing
  | .limit variant => s.answer (Act.limit variant) .number
  | .firstInterface => s.answer Act.firstInterface .interface
  | .rotates format => s.answer (Act.rotates format) .flag
  | .refresh => s.answer Act.refresh fun t => .entries t.entries
  | .cachedTopology => (.value (.entries s.hub.core.topology.entries), s)
  | .cachedResource => (.value ((s.hub.core.resource.map .resource).getD .nothing), s)
  | .inspect slot => s.withDisplay slot fun d => (.value (.display d none), s)
  | .drop slot => s.withDisplay slot fun d => s.change fun h => d.drop (h.setSlot slot none)
  | .bringUp slot => s.serve slot Serve.bringUp (fun _ => .nothing) true
  | .takeDown slot => s.serve slot Serve.takeDown (fun _ => .nothing) true
  | .setPower slot power => s.serve slot (Serve.setPower power) (fun _ => .nothing) true
  | .stick slot f =>
    s.serve slot (Serve.change fun d => { d with stuck := some f, concrete := false })
      (fun _ => .nothing) false
  | .resolve slot connected => s.serve slot (Serve.resolve connected) .entry true
  | .register slot => s.serve slot Serve.register (fun _ => .nothing) true
  | .unregister slot => s.serve slot Serve.unregister (fun _ => .nothing) true
  | .make variant id concrete =>
    s.keep { Display.fresh variant id .record none with concrete }
  | .makeBare variant id => s.keep { Display.fresh variant id .record none with
      body := .bare variant }
  | .takeUp resource extension =>
    s.answerDirectly (takeUpWith resource extension) fun _ => .nothing
  | .leave => s.answerDirectly (modify Hub.leave) fun _ => .nothing
  | .chooseMode mode => s.answerDirectly (Act.chooseMode mode) fun _ => .nothing
  | .canRotate format =>
    s.answerDirectly (do return (← get).compositor.rotates format) .flag
  | .grant variant id => match s.directly (Act.grant variant id) with
    | (.ok token, s) =>
      (.value (.token s.tokens.length token), { s with tokens := s.tokens ++ [token] })
    | (.error stop, s) => (.trouble (.stop stop), s)
  | .revoke place => match s.tokens[place]? with
    | some token => s.answerDirectly (modify (Hub.revoke token)) fun _ => .nothing
    | none => (.trouble .noToken, s)
  | .brighten resource => s.answerDirectly (Act.brighten resource) fun _ => .nothing
  | .darken => s.answerDirectly (modify Hub.darken) fun _ => .nothing
  | .setDisplays entries => s.change fun h =>
      { h with hardware := { h.hardware with listing := s.listing entries } }
  | .setResource resource => s.change fun h =>
      { h with hardware := { h.hardware with resource := .ok resource } }
  | .setExtension outcome => s.change fun h => { h with loader := .standIn outcome }
  | .setFault call stop => s.setFault call stop
  | .changeFiles removes layout => s.change fun h =>
      { h with storage := (removes.foldl Storage.remove h.storage).putAll layout }
  | .pipeIgnored => (.value (.flag s.hub.pipeIgnored), s)
  | .restorePipe => s.change fun h => { h with pipeIgnored := false }
  | .wasCalled name => (.value (.flag (s.callNames.contains name)), s)
  | .strikeCalls => (.done, { s with struck := s.hub.journal.calls.length })
  | .loadExtension => s.answer tryExtension showExtension
  | .work ids rounds =>
    let (errors, hub) := workAll rounds ids s.hub
    (.value (.errors errors), { s with hub })

/-- The end of a session: everything held is let go. -/
def close (s : Session) : Session :=
  { s with hub := s.hub.close }

end Session

end DisplayHub
