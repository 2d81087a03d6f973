import DisplayHub.Connector
import DisplayHub.Hub

/-!
# Providers

Asking the hardware, and having somebody to ask.

A provider is created when the hub is brought up and released when it is
taken down. Displays hold on to the provider they were created with, so one
that was released can still be asked; how many displays do is noted on
release. All providers of a hub answer from the same hardware, and only their
numbers tell them apart.

## Main definitions

* `Act.createProvider`, `Hub.releaseProvider`: Its coming and going.
* `Act.queryResource`, `Act.queryStatus`, `Act.queryLimit`, `Act.queryFirst`:
  The four questions.
-/

namespace DisplayHub

namespace Hub

/-- How many displays hold a provider. -/
def providerHolders (h : Hub) (provider : Nat) : Nat :=
  h.live.countP fun d => d.provider = some provider

/-- What is noted when a provider is released of which `left` others keep
    hold. -/
def releaseNotes (h : Hub) (left : Nat) : List Note :=
  match h.hardware.announced, h.hardware.listing with
  | true, .described _ => [⟨.debug, "StaticHwInfoFactory: releasing provider ("
      ++ toString left ++ " references left elsewhere)"⟩]
  | true, .connectors _ => [⟨.debug, "DrmSysfsHwInfoFactory: releasing provider"⟩]
  | _, _ => []

/-- Releases a provider that `others` besides the displays keep hold of. -/
def releaseProvider (provider others : Nat) (h : Hub) : Hub :=
  let h := h.recordCall .destroyProvider
  h.noteAll (h.releaseNotes (h.providerHolders provider + others))

/-- Releases the provider of a bringing up that did not come to its end. -/
def abandonProvider (provider : Nat) (h : Hub) : Hub :=
  (h.note .debug "Bootstrap aborted, releasing hardware info provider").releaseProvider provider 1

end Hub

namespace Act

/-- Creates a provider. Without the directory of connector entries there is
    none. -/
def createProvider : Act Nat := do
  visit .createProvider
  let h ← get
  match h.hardware.listing with
  | .connectors root =>
    if !h.storage.isDirectory root then fail (.hardware (root ++ " not found"))
    else if h.hardware.announced then note .info ("DrmSysfsHwInfoFactory: using " ++ root)
  | .described entries =>
    if h.hardware.announced then
      note .info ("StaticHwInfoFactory: creating provider (" ++ toString entries.length
        ++ " displays)")
  | .scripted _ => pure ()
  let provider := h.providers
  modify fun h => { h with providers := h.providers + 1 }
  return provider

/-- Lists the connector entries under a directory. -/
def scanConnectors (root : String) : Act Topology := do
  let h ← get
  let (result, storage, notes) := Connector.scan h.storage root
  set ({ h with storage }.noteAll notes)
  match result with
  | .ok topology => return topology
  | .error fault => fail (.hardware ("read_dir " ++ root ++ ": " ++ fault.message))

/-- What the composition hardware offers. -/
def queryResource : Act Resource := do
  visit .queryResource
  ofExcept (← get).hardware.resource

/-- Which displays there are. -/
def queryStatus : Act Topology := do
  visit .queryStatus
  match (← get).hardware.listing with
  | .described entries =>
    let topology := Topology.ofList entries
    note .debug ("StaticHwInfo: reporting " ++ toString topology.size ++ " displays")
    return topology
  | .connectors root => scanConnectors root
  | .scripted entries => return Topology.ofList entries

/-- How many displays of a kind can be active together. -/
def queryLimit (variant : Variant) : Act Nat := do
  visit .queryLimit
  let resource ← ofExcept (← get).hardware.resource
  return resource.limit variant

/-- Which interface comes first. -/
def queryFirst : Act Interface := do
  visit .queryFirst
  let listing := (← get).hardware.listing
  let topology ← match listing with
    | .described entries => pure (Topology.ofList entries)
    | .connectors root => scanConnectors root
    | .scripted entries => pure (Topology.ofList entries)
  match topology.first? with
  | some interface => return interface
  | none => fail listing.noInterface

end Act

end DisplayHub
