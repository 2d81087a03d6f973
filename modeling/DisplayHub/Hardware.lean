import DisplayHub.Resource
import DisplayHub.Settings
import DisplayHub.Topology

/-!
# Hardware descriptions

Where answers about the hardware come from.

A provider answers four questions: what the composition hardware offers,
which displays there are, how many displays of a kind can be active, and
which interface comes first. What it answers from is data here. Displays are
listed by the settings, found among the kernel's connector entries, or laid
down by a script, which also decides whether the resource description can be
had at all.

## Main definitions

* `Listing`: Where the displays are listed.
* `Hardware`: What a provider answers from.
-/

namespace DisplayHub

/-- Where the displays are listed. -/
inductive Listing where
  /-- In a description. -/
  | described (entries : List Entry)
  /-- Among the connector entries under a directory. -/
  | connectors (root : String)
  /-- In a script. -/
  | scripted (entries : List Entry)
deriving DecidableEq, Repr

/-- What a provider answers from. -/
structure Hardware where
  resource : Except Failure Resource
  listing : Listing
  /-- Whether it is noted when providers come and go. -/
  announced : Bool

/-- The hardware that settings describe. -/
def HardwareSettings.hardware (s : HardwareSettings) : Hardware :=
  { resource := .ok s.resource
    listing := match s.source with
      | .fixed => .described s.displays
      | .connectors => .connectors s.connectorRoot
    announced := true }

namespace Listing

/-- What is said if there is no interface to come first. -/
def noInterface : Listing → Failure
  | described _ => .hardware "no display interfaces described"
  | connectors root => .hardware ("no connectors under " ++ root)
  | scripted _ => .notSupported

end Listing

end DisplayHub
