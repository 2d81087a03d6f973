import DisplayHub.Resource
import DisplayHub.Topology

/-!
# Settings

What a hub is built from, and the defaults of each part.

Settings come in three sections: where the vendor extension is found, where
the hardware description comes from, and where the sockets of the display
daemons live. Every setting has a default, so an empty document is a complete
one.

## Main definitions

* `ExtensionSettings`: Which library to load, and how to call it.
* `HardwareSettings`: Where the hardware description comes from.
* `SocketSettings`: Where the daemons' sockets live.
* `Settings`: The three sections together.
-/

namespace DisplayHub

/-- The interface version that extensions are asked for. -/
def interfaceVersion : UInt32 := 0x00010000

/-- Which library to load, and how to call it. -/
structure ExtensionSettings where
  /-- Without this the hub always runs without an extension. -/
  enabled : Bool := true
  library : String := "libdisplay-extension.so"
  /-- Searched in order, before the system's own search. -/
  searchDirs : List String :=
    ["/vendor/lib64", "/usr/lib/display-core", "/usr/local/lib/display-core"]
  createSymbol : String := "CreateExtensionInterface"
  destroySymbol : String := "DestroyExtensionInterface"
  versionTag : UInt32 := interfaceVersion
deriving DecidableEq, Repr

/-- Where the hardware description comes from. -/
inductive HardwareSource where
  /-- The settings themselves list the displays. -/
  | fixed
  /-- The kernel's connector entries are scanned. -/
  | connectors
deriving DecidableEq, Repr

namespace HardwareSource

/-- Every source, in the order of their declaration. -/
def all : List HardwareSource := [fixed, connectors]

/-- The name of a source in settings. -/
def name : HardwareSource → String
  | fixed => "static"
  | connectors => "drm_sysfs"

/-- The source with a name. -/
def ofName (name : String) : Option HardwareSource :=
  all.find? fun s => s.name = name

end HardwareSource

/-- Where the hardware description comes from, and what it says. -/
structure HardwareSettings where
  source : HardwareSource := .connectors
  connectorRoot : String := "/sys/class/drm"
  /-- Used with either source, for connector entries say nothing of it. -/
  resource : Resource := {}
  /-- Used only if the settings list the displays. -/
  displays : List Entry := []
deriving DecidableEq, Repr

/-- Where the sockets of the display daemons live. -/
structure SocketSettings where
  directory : String := "/run/display-core"
deriving DecidableEq, Repr

/-- What a hub is built from. -/
structure Settings where
  extension : ExtensionSettings := {}
  hardware : HardwareSettings := {}
  sockets : SocketSettings := {}
deriving DecidableEq, Repr

end DisplayHub
