import DisplayHub.Hub.Composition
import DisplayHub.Hub.Provider

/-!
# Asking the hub

Questions that the hub hands on, and what it remembers itself.

What concerns the hardware needs the hub to be up. What concerns the
compositor is left to the compositor, which knows whether it is at work. A
fresh report of the displays takes the place of the last one, but only if it
could be had.

## Main definitions

* `Act.setBandwidth`, `Act.rotates`: Handed on to the compositor.
* `Act.firstInterface`, `Act.limit`: Handed on to the provider.
* `Act.refresh`: A fresh report.
-/

namespace DisplayHub

namespace Act

/-- The hub has to be up. -/
def requireProvider : Act Unit := do
  if !(← get).initialized then fail .notInitialized

/-- Chooses a policy for bandwidth. -/
def setBandwidth (mode : BandwidthMode) : Act Unit := do
  visit .setBandwidth
  chooseMode mode

/-- Whether layers of a layout can be rotated. -/
def rotates (format : PixelFormat) : Act Bool := do
  visit .askRotator
  return (← get).compositor.rotates format

/-- Which interface comes first. -/
def firstInterface : Act Interface := do
  requireProvider
  queryFirst

/-- How many displays of a kind can be active together. -/
def limit (variant : Variant) : Act Nat := do
  requireProvider
  queryLimit variant

/-- A fresh report of the displays, which takes the place of the last one. -/
def refresh : Act Topology := do
  requireProvider
  let topology ← queryStatus
  modify fun h => { h with core := { h.core with topology } }
  return topology

end Act

end DisplayHub
