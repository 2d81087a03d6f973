import DisplayHub.Hub.Provider
import DisplayHub.Reply

/-!
# Inspections

A provider by itself, without a hub that is up.

Somebody who wants to know what the hardware says creates a provider, asks
it, and releases it. Creating another one takes the place of the first.

## Main definitions

* `Inspection`: The hardware, and the provider that is there to be asked.
* `InspectionStep`, `Inspection.step`: Creating, asking and releasing.
-/

namespace DisplayHub

/-- The hardware, and the provider that is there to be asked. -/
structure Inspection where
  hub : Hub
  provider : Option Nat := none

/-- One step. -/
inductive InspectionStep where
  | create
  | destroy
  | resource
  | status
  | first
  | limit (variant : Variant)
  | changeFiles (removes : List String) (layout : List (String × Item))

namespace Inspection

/-- An inspection of hardware among given files. -/
def begin (hardware : Hardware) (storage : Storage) : Inspection :=
  { hub := { storage, loader := .disabled, hardware } }

/-- Asks the provider, if there is one. -/
def ask {α : Type} (i : Inspection) (act : Act α) (reply : α → Reply) : Outcome × Inspection :=
  match i.provider with
  | none => (.trouble .noProvider, i)
  | some _ =>
    let (result, hub) := act i.hub
    (.ofResult reply result, { i with hub })

/-- What a step answers and changes. -/
def step (i : Inspection) : InspectionStep → Outcome × Inspection
  | .create => match Act.createProvider i.hub with
    | (.ok provider, hub) => (.done, { hub, provider := some provider })
    | (.error stop, hub) => (.trouble (.stop stop), { i with hub })
  | .destroy => match i.provider with
    | none => (.trouble .noProvider, i)
    | some provider => (.done, { hub := i.hub.releaseProvider provider 0, provider := none })
  | .resource => i.ask Act.queryResource .resource
  | .status => i.ask Act.queryStatus fun t => .entries t.entries
  | .first => i.ask Act.queryFirst .interface
  | .limit variant => i.ask (Act.queryLimit variant) .number
  | .changeFiles removes layout =>
    let storage := (removes.foldl Storage.remove i.hub.storage).putAll layout
    (.done, { i with hub := { i.hub with storage } })

end Inspection

end DisplayHub
