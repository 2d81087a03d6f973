import DisplayHub.Capability
import DisplayHub.Surface
import DisplayHub.Variant

/-!
# Hardware resources

What the composition hardware has to offer.

The description is found out once, when the hub is brought up, and everything
that is shared among displays is dealt out from it.

## Main definitions

* `Resource`: The description.
* `Resource.limit`: How many displays of a kind can be active together.
* `Resource.hasColor`: Whether colors can be corrected.
* `Resource.describe`: The form used in messages.
-/

namespace DisplayHub

/-- What the composition hardware has to offer. A field left open has the
    value that most hardware has. -/
structure Resource where
  version : UInt32 := 0x05000000
  vigPipes : UInt32 := 2
  rgbPipes : UInt32 := 0
  dmaPipes : UInt32 := 2
  blendingStages : UInt32 := 7
  mixers : UInt32 := 2
  dspps : UInt32 := 1
  maxBandwidth : UInt64 := 6800000
  capabilities : Capabilities := Capabilities.rotator.union Capabilities.colorPipeline
  rotatorFormats : List PixelFormat := [.rgba8888, .rgbx8888, .nv12, .yuv420Ubwc]
  maxBuiltIn : UInt32 := 1
  maxPluggable : UInt32 := 1
  maxOffscreen : UInt32 := 1
deriving DecidableEq, Repr

namespace Resource

/-- How many displays of a kind can be active together. -/
def limit (r : Resource) : Variant → Nat
  | .builtIn => r.maxBuiltIn.toNat
  | .pluggable => r.maxPluggable.toNat
  | .offscreen => r.maxOffscreen.toNat

/-- Whether colors can be corrected: there is a pipeline for it, and a block
    that runs it. -/
def hasColor (r : Resource) : Bool :=
  r.capabilities.contains .colorPipeline && r.dspps != 0

/-- Whether a layer of this layout can be rotated. -/
def rotates (r : Resource) (format : PixelFormat) : Bool :=
  r.capabilities.contains .rotator && r.rotatorFormats.contains format

/-- The description as messages print it. -/
def describe (r : Resource) : String :=
  let formats := ", ".intercalate (r.rotatorFormats.map PixelFormat.title)
  let fields :=
    [("hw_version", toString r.version), ("num_vig_pipe", toString r.vigPipes),
      ("num_rgb_pipe", toString r.rgbPipes), ("num_dma_pipe", toString r.dmaPipes),
      ("num_blending_stages", toString r.blendingStages), ("num_mixers", toString r.mixers),
      ("num_dspp", toString r.dspps), ("max_bandwidth_kbps", toString r.maxBandwidth),
      ("capabilities", r.capabilities.describe), ("rotator_formats", "[" ++ formats ++ "]"),
      ("max_builtin_displays", toString r.maxBuiltIn),
      ("max_pluggable_displays", toString r.maxPluggable),
      ("max_virtual_displays", toString r.maxOffscreen)]
  let texts := fields.map fun field => field.1 ++ ": " ++ field.2
  "HwResourceInfo \x7b " ++ ", ".intercalate texts ++ " \x7d"

end Resource

end DisplayHub
