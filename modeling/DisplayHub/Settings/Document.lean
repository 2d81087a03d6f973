import DisplayHub.Json.Reading
import DisplayHub.Settings

/-!
# Settings as documents

Reading settings and hardware descriptions from JSON, and writing them.

Each structure has one table of fields, in the order in which a list would
give them. A field's entry says how its value is read and where it goes. The
writers name the same fields in the same order.

## Main definitions

* `Resource.ofNode`, `Entry.ofNode`, `Settings.ofNode`, …: The readers.
* `Resource.toValue`, `Entry.toValue`, `Settings.toValue`, …: The writers.
* `Settings.ofText`: The settings that a document holds.
-/

namespace DisplayHub

open Json

/-- Reads a kind of display by its name. -/
def Variant.ofNode : Reader Variant := readName ofName

/-- Reads a pixel layout by its name. -/
def PixelFormat.ofNode : Reader PixelFormat := readName ofName

/-- Reads a bandwidth policy by its name. -/
def BandwidthMode.ofNode : Reader BandwidthMode := readName ofName

/-- Reads a source of hardware descriptions by its name. -/
def HardwareSource.ofNode : Reader HardwareSource := readName ofName

/-- Reads a set of capabilities from the text that names them. -/
def Capabilities.ofNode : Reader Capabilities := readMeaning read

namespace Resource

/-- The fields of a resource description. -/
def fields : List (RecordField Resource) :=
  [.of "hw_version" false readUInt32 fun x r => { r with version := x },
    .of "num_vig_pipe" false readUInt32 fun x r => { r with vigPipes := x },
    .of "num_rgb_pipe" false readUInt32 fun x r => { r with rgbPipes := x },
    .of "num_dma_pipe" false readUInt32 fun x r => { r with dmaPipes := x },
    .of "num_blending_stages" false readUInt32 fun x r => { r with blendingStages := x },
    .of "num_mixers" false readUInt32 fun x r => { r with mixers := x },
    .of "num_dspp" false readUInt32 fun x r => { r with dspps := x },
    .of "max_bandwidth_kbps" false readUInt64 fun x r => { r with maxBandwidth := x },
    .of "capabilities" false Capabilities.ofNode fun x r => { r with capabilities := x },
    .of "rotator_formats" false (readList PixelFormat.ofNode)
      fun x r => { r with rotatorFormats := x },
    .of "max_builtin_displays" false readUInt32 fun x r => { r with maxBuiltIn := x },
    .of "max_pluggable_displays" false readUInt32 fun x r => { r with maxPluggable := x },
    .of "max_virtual_displays" false readUInt32 fun x r => { r with maxOffscreen := x }]

/-- Reads a resource description. -/
def ofNode : Reader Resource := readRecord {} fields

/-- Writes a resource description. -/
def toValue (r : Resource) : Value :=
  .object [("hw_version", .int r.version.toNat), ("num_vig_pipe", .int r.vigPipes.toNat),
    ("num_rgb_pipe", .int r.rgbPipes.toNat), ("num_dma_pipe", .int r.dmaPipes.toNat),
    ("num_blending_stages", .int r.blendingStages.toNat), ("num_mixers", .int r.mixers.toNat),
    ("num_dspp", .int r.dspps.toNat), ("max_bandwidth_kbps", .int r.maxBandwidth.toNat),
    ("capabilities", .text r.capabilities.write),
    ("rotator_formats", .list (r.rotatorFormats.map fun f => .text f.name)),
    ("max_builtin_displays", .int r.maxBuiltIn.toNat),
    ("max_pluggable_displays", .int r.maxPluggable.toNat),
    ("max_virtual_displays", .int r.maxOffscreen.toNat)]

end Resource

namespace Entry

/-- The fields of a display entry. The first two have no defaults. -/
def fields : List (RecordField Entry) :=
  [.of "display_id" true readInt32 fun x e => { e with id := x },
    .of "display_type" true Variant.ofNode fun x e => { e with variant := x },
    .of "is_connected" false readBool fun x e => { e with connected := x },
    .of "is_primary" false readBool fun x e => { e with primary := x },
    .of "name" false readText fun x e => { e with name := x }]

/-- Reads a display entry. -/
def ofNode : Reader Entry := readRecord ⟨0, .builtIn, false, false, ""⟩ fields

/-- Writes a display entry. -/
def toValue (e : Entry) : Value :=
  .object [("display_id", .int e.id.toInt), ("display_type", .text e.variant.name),
    ("is_connected", .bool e.connected), ("is_primary", .bool e.primary), ("name", .text e.name)]

end Entry

namespace Interface

/-- The fields of an interface. Neither has a default. -/
def fields : List (RecordField Interface) :=
  [.of "display_type" true Variant.ofNode fun x i => { i with variant := x },
    .of "is_connected" true readBool fun x i => { i with connected := x }]

/-- Reads an interface. -/
def ofNode : Reader Interface := readRecord ⟨.builtIn, false⟩ fields

/-- Writes an interface. -/
def toValue (i : Interface) : Value :=
  .object [("display_type", .text i.variant.name), ("is_connected", .bool i.connected)]

end Interface

namespace ExtensionSettings

/-- The fields of the extension section. -/
def fields : List (RecordField ExtensionSettings) :=
  [.of "enabled" false readBool fun x s => { s with enabled := x },
    .of "library" false readText fun x s => { s with library := x },
    .of "search_dirs" false (readList readText) fun x s => { s with searchDirs := x },
    .of "create_symbol" false readText fun x s => { s with createSymbol := x },
    .of "destroy_symbol" false readText fun x s => { s with destroySymbol := x },
    .of "version_tag" false readUInt32 fun x s => { s with versionTag := x }]

/-- Reads the extension section. -/
def ofNode : Reader ExtensionSettings := readRecord {} fields

/-- Writes the extension section. -/
def toValue (s : ExtensionSettings) : Value :=
  .object [("enabled", .bool s.enabled), ("library", .text s.library),
    ("search_dirs", .list (s.searchDirs.map .text)), ("create_symbol", .text s.createSymbol),
    ("destroy_symbol", .text s.destroySymbol), ("version_tag", .int s.versionTag.toNat)]

end ExtensionSettings

namespace HardwareSettings

/-- The fields of the hardware section. -/
def fields : List (RecordField HardwareSettings) :=
  [.of "source" false HardwareSource.ofNode fun x s => { s with source := x },
    .of "sysfs_root" false readText fun x s => { s with connectorRoot := x },
    .of "resource" false Resource.ofNode fun x s => { s with resource := x },
    .of "displays" false (readList Entry.ofNode) fun x s => { s with displays := x }]

/-- Reads the hardware section. -/
def ofNode : Reader HardwareSettings := readRecord {} fields

/-- Writes the hardware section. -/
def toValue (s : HardwareSettings) : Value :=
  .object [("source", .text s.source.name), ("sysfs_root", .text s.connectorRoot),
    ("resource", s.resource.toValue), ("displays", .list (s.displays.map Entry.toValue))]

end HardwareSettings

namespace SocketSettings

/-- The one field of the socket section. -/
def fields : List (RecordField SocketSettings) :=
  [.of "directory" false readText fun x s => { s with directory := x }]

/-- Reads the socket section. -/
def ofNode : Reader SocketSettings := readRecord {} fields

/-- Writes the socket section. -/
def toValue (s : SocketSettings) : Value :=
  .object [("directory", .text s.directory)]

end SocketSettings

namespace Settings

/-- The sections of a settings document. -/
def fields : List (RecordField Settings) :=
  [.of "extension" false ExtensionSettings.ofNode fun x s => { s with extension := x },
    .of "hardware" false HardwareSettings.ofNode fun x s => { s with hardware := x },
    .of "sockets" false SocketSettings.ofNode fun x s => { s with sockets := x }]

/-- Reads settings. -/
def ofNode : Reader Settings := readRecord {} fields

/-- Writes settings. -/
def toValue (s : Settings) : Value :=
  .object [("extension", s.extension.toValue), ("hardware", s.hardware.toValue),
    ("sockets", s.sockets.toValue)]

/-- The settings that a document holds. -/
def ofText (text : String) : Except Fault Settings :=
  readDocument ofNode text

end Settings

end DisplayHub
