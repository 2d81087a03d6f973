import DisplayHub.Hub.Service

/-!
# Bringing the hub up and taking it down

The hub comes up in a fixed order: the vendor extension, the provider, the
resource description, the compositor, the color service, the first report of
displays, and the policy on broken pipes. The first four are needed. If one
of them fails, what was acquired before it is released, the latest first, and
the hub is as it was. The hub does without the color service and without a
report, and notes that it does.

Taking down goes through the collaborators whether the hub is up or not, and
always succeeds.

## Main definitions

* `Act.loadExtension`: Coming by an extension.
* `Act.bootstrap`: Bringing the hub up.
* `Hub.teardown`: Taking it down.
* `Hub.close`: Letting the hub itself go.
-/

namespace DisplayHub

namespace Act

/-- Makes an interface one that is told from all others. -/
def handOut (opened : Option OpenInterface) : Act Extension := do
  let serial := (← get).extensions
  modify fun h => { h with extensions := h.extensions + 1 }
  return ⟨serial, opened⟩

/-- Comes by an extension, if there is one. -/
def loadExtension : Act (Option Extension) := do
  visit .loadExtension
  let h ← get
  match h.loader with
  | .disabled => return none
  | .standIn outcome =>
    if ← ofExcept outcome then return some (← handOut none) else return none
  | .library settings =>
    let attempt := settings.attempt h.storage h.override
    modify fun h => (h.noteAll attempt.notes).recordEvents attempt.events
    match ← ofExcept attempt.result with
    | none => return none
    | some opened => return some (← handOut (some opened))

/-- Notes what came of loading the extension. -/
def noteExtension (extension : Option Extension) : Act Unit :=
  match extension with
  | some e => note .info ("DisplayCore: extension interface ready (version tag "
      ++ Text.hexText e.versionTag.toNat ++ ")")
  | none => note .warn "DisplayCore: no extension interface, continuing without it"

/-- Starts the color service, and goes on without it if it fails. -/
def tryColor (resource : Resource) : Act Unit := do
  match ← attempt (enableColor resource) with
  | .ok () => return ()
  | .error f => note .warn ("DisplayCore: unable to create color manager (" ++ f.message
      ++ "), continuing without it")

/-- Asks for a report, and goes on without displays if there is none. -/
def tryStatus : Act Topology := do
  match ← attempt queryStatus with
  | .ok topology => return topology
  | .error f =>
    note .warn ("DisplayCore: failed getting displays status: " ++ f.message)
    return .empty

/-- Sees to it that writing to a peer that is gone fails. -/
def ignoreBrokenPipe : Act Unit := do
  if !(← get).pipeIgnored then
    note .debug "SIGPIPE ignored for this process"
    modify fun h => { h with pipeIgnored := true }

/-- What the hub does once it has a provider. -/
def describe (extension : Option Extension) : Act (Resource × Topology) := do
  let resource ← queryResource
  note .debug ("DisplayCore: hardware resources " ++ resource.describe)
  startCompositor resource extension
  tryColor resource
  let topology ← tryStatus
  ignoreBrokenPipe
  note .info ("DisplayCore: initialized with " ++ toString topology.size
    ++ " displays in topology")
  return (resource, topology)

/-- What the hub does once it knows whether there is an extension. -/
def assemble (extension : Option Extension) : Act Unit := do
  noteExtension extension
  let provider ← createProvider
  let (resource, topology) ← onStop (Hub.abandonProvider provider) (describe extension)
  modify fun h => { h with core := ⟨extension, some provider, some resource, topology⟩ }

/-- Brings the hub up. -/
def bootstrap : Act Unit := do
  if (← get).initialized then
    note .error "DisplayCore: init called on an initialized core"
    fail .parameters
  let extension ← loadExtension
  onStop (Hub.letGo? extension) (assemble extension)

end Act

namespace Hub

/-- Releases the provider, if there is one. -/
def dismissProvider (h : Hub) : Hub :=
  match h.core.provider with
  | some provider =>
    { h with core := { h.core with provider := none } }.releaseProvider provider 0
  | none => h.note .warn "DisplayCore: deinit without a hardware info provider"

/-- Forgets everything that was found out on the way up. -/
def clearCore (h : Hub) : Hub :=
  let held := h.core.extension
  letGo? held { h with core := {} }

/-- Takes the hub down. -/
def teardown (h : Hub) : Hub :=
  h.disableColor.stopCompositor.dismissProvider.clearCore.note .info
    "DisplayCore: deinitialized"

/-- Lets the hub itself go: the displays in their order, then the compositor,
    then the core. -/
def close (h : Hub) : Hub :=
  let h := h.live.foldl (fun h d => d.drop h) { h with slots := [] }
  let held := h.compositor.extension?
  let h := letGo? held { h with compositor := { h.compositor with setup := none } }
  h.clearCore

end Hub

end DisplayHub
