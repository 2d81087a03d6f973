import DisplayHub.Hub

/-!
# Composition and color

The compositor, the color service and the allocator as collaborators of the
hub.

The rules by which they decide are theirs. Here their decisions take effect
on the state, and what they say about them is noted. Some operations come
twice: once as the collaborator's own work, and once as a call that can be
watched and made to fail.

## Main definitions

* `Act.takeUp`, `Act.startCompositor`: The compositor starts.
* `Hub.leave`, `Hub.stopCompositor`: It stops, and lets its interface go.
* `Act.grant`, `Act.register`: A display gets a token.
* `Hub.revoke`, `Hub.unregister`: A token is taken back.
* `Act.enableColor`, `Hub.disableColor`: Colors are corrected or not.
* `Act.allocate`, `Hub.free`: A buffer is handed out and taken back.
-/

namespace DisplayHub

namespace Act

/-- Goes on with what the compositor answers, or notes its refusal and stops. -/
def ofCompositor {α : Type} : Except Refusal α → Act α
  | .ok a => pure a
  | .error r => do
    match r.warning? with
    | some text => note .warn text
    | none => pure ()
    fail r.failure

/-- Writes a compositor's state. -/
def setCompositor (c : Compositor) : Act Unit :=
  modify fun h => { h with compositor := c }

/-- The compositor takes up work. -/
def takeUp (resource : Resource) (extension : Option Extension) : Act Unit := do
  let c ← ofCompositor ((← get).compositor.start resource extension)
  note .info ("ResourceCompManager: init - " ++ toString resource.mixers ++ " mixers, "
    ++ toString resource.maxBandwidth ++ " kbps, extension=" ++ toString extension.isSome)
  setCompositor c

/-- Calls the compositor to take up work. -/
def startCompositor (resource : Resource) (extension : Option Extension) : Act Unit := do
  modify fun h => { h with offered := some extension.isSome }
  visit .startCompositor
  takeUp resource extension

/-- A policy for bandwidth is chosen. -/
def chooseMode (mode : BandwidthMode) : Act Unit := do
  let c ← ofCompositor ((← get).compositor.setMode mode)
  note .debug ("ResourceCompManager: bandwidth mode " ++ mode.title)
  setCompositor c

/-- The compositor grants a token. -/
def grant (variant : Variant) (id : Option Int32) : Act Nat := do
  let (token, c) ← ofCompositor ((← get).compositor.register variant id)
  note .debug ("ResourceCompManager: registered " ++ variant.word ++ " display "
    ++ idText id ++ " as " ++ Compositor.tokenText token)
  setCompositor c
  return token

/-- Calls the compositor for a token. -/
def register (variant : Variant) (id : Option Int32) : Act Nat := do
  visit .register
  grant variant id

end Act

namespace Hub

/-- The compositor leaves work and lets its interface go. -/
def leave (h : Hub) : Hub :=
  let count := h.compositor.active.length
  let h := if count = 0 then h else
    h.note .warn ("ResourceCompManager: deinit with " ++ toString count
      ++ " displays still registered")
  let held := h.compositor.extension?
  let h := { h with compositor := h.compositor.stop }
  (h.letGo? held).note .info "ResourceCompManager: deinit"

/-- Calls the compositor to leave work. -/
def stopCompositor (h : Hub) : Hub :=
  (h.recordCall .stopCompositor).leave

/-- The compositor takes a token back. -/
def revoke (token : Nat) (h : Hub) : Hub :=
  let h := if h.compositor.knows token then h else
    h.note .warn ("ResourceCompManager: unknown registration " ++ Compositor.tokenText token)
  { h with compositor := h.compositor.unregister token }

/-- Calls the compositor to take a token back. -/
def unregister (token : Nat) (h : Hub) : Hub :=
  (h.recordCall .unregister).revoke token

/-- The color service leaves work. -/
def darken (h : Hub) : Hub :=
  if h.color.active then
    { h with color := { h.color with active := false } }.note .info
      "ColorManagerProxy: color services disabled"
  else h

/-- Calls the color service to leave work. -/
def disableColor (h : Hub) : Hub :=
  (h.recordCall .stopColor).darken

/-- Takes a buffer back. -/
def free (buffer : Buffer) (h : Hub) : Hub :=
  { h with allocator := h.allocator.free }.noteAll (h.allocator.freeNotes buffer)

end Hub

namespace Act

/-- The color service takes up work, if the hardware can correct colors. -/
def brighten (resource : Resource) : Act Unit := do
  let color := (← get).color
  if color.standIn then return ()
  else if !resource.hasColor then
    note .debug "ColorManagerProxy: no color pipeline in hardware"
    fail .notSupported
  else
    modify fun h => { h with color := { h.color with active := true } }
    note .info ("ColorManagerProxy: color services enabled (" ++ toString resource.dspps
      ++ " dspp blocks)")

/-- Calls the color service to take up work. -/
def enableColor (resource : Resource) : Act Unit := do
  visit .startColor
  brighten resource

/-- Hands a buffer out. The system is taken to have every block that a display
    needs, since nothing can be said of a process that it has ended. -/
def allocate (size : Nat) : Act Buffer := do
  let a := (← get).allocator
  modify (Hub.noteAll (a.allocationNotes size))
  match a.allocate size true with
  | .refused f => fail f
  | .granted buffer a =>
    modify fun h => { h with allocator := a }
    return buffer
  | .collapsed a =>
    modify fun h => { h with allocator := a }
    throw .collapse
  | .aborted => throw .collapse

end Act

end DisplayHub
