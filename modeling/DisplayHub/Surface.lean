/-!
# Surfaces and modes

The small closed sets in which displays and their buffers are described.

Each case has a name, by which settings and requests refer to it, and a
title, which is how messages print it.

## Main definitions

* `PixelFormat`: The layouts of pixels that a layer buffer can carry.
* `BandwidthMode`: The policies for memory bandwidth.
* `Power`: The power states of a display.
-/

namespace DisplayHub

/-- The layouts of pixels that a layer buffer can carry. -/
inductive PixelFormat where
  | rgba8888
  | rgbx8888
  | bgra8888
  | rgb888
  | rgb565
  | rgba1010102
  | nv12
  | nv21
  | yuv420P010
  | yuv420Ubwc
deriving DecidableEq, Repr

namespace PixelFormat

/-- Every layout, in the order of their declaration. -/
def all : List PixelFormat :=
  [rgba8888, rgbx8888, bgra8888, rgb888, rgb565, rgba1010102, nv12, nv21, yuv420P010, yuv420Ubwc]

/-- The name of a layout in settings. -/
def name : PixelFormat → String
  | rgba8888 => "rgba8888"
  | rgbx8888 => "rgbx8888"
  | bgra8888 => "bgra8888"
  | rgb888 => "rgb888"
  | rgb565 => "rgb565"
  | rgba1010102 => "rgba1010102"
  | nv12 => "nv12"
  | nv21 => "nv21"
  | yuv420P010 => "y_cb_cr420_p010"
  | yuv420Ubwc => "y_cb_cr420_ubwc"

/-- The name of a layout in messages. -/
def title : PixelFormat → String
  | rgba8888 => "Rgba8888"
  | rgbx8888 => "Rgbx8888"
  | bgra8888 => "Bgra8888"
  | rgb888 => "Rgb888"
  | rgb565 => "Rgb565"
  | rgba1010102 => "Rgba1010102"
  | nv12 => "Nv12"
  | nv21 => "Nv21"
  | yuv420P010 => "YCbCr420P010"
  | yuv420Ubwc => "YCbCr420Ubwc"

/-- The layout with a name. -/
def ofName (name : String) : Option PixelFormat :=
  all.find? fun f => f.name = name

end PixelFormat

/-- The policies for memory bandwidth. -/
inductive BandwidthMode where
  /-- No policy in particular. -/
  | standard
  /-- Bandwidth is kept back for a camera that runs at the same time. -/
  | camera
  /-- Bandwidth stays within what the hardware can keep up. -/
  | optimal
deriving DecidableEq, Repr

namespace BandwidthMode

/-- Every policy, in the order of their declaration. -/
def all : List BandwidthMode := [standard, camera, optimal]

/-- The name of a policy in settings. -/
def name : BandwidthMode → String
  | standard => "default"
  | camera => "vfe"
  | optimal => "optimal"

/-- The name of a policy in messages. -/
def title : BandwidthMode → String
  | standard => "Default"
  | camera => "Vfe"
  | optimal => "Optimal"

/-- The policy with a name. -/
def ofName (name : String) : Option BandwidthMode :=
  all.find? fun m => m.name = name

end BandwidthMode

/-- The power states of a display. -/
inductive Power where
  | off
  | on
  /-- Low power, with the last frame kept on the panel. -/
  | doze
  /-- Powered, but not scanned out. -/
  | standby
deriving DecidableEq, Repr

namespace Power

/-- Every state, in the order of their declaration. -/
def all : List Power := [off, on, doze, standby]

/-- The name of a state in requests. -/
def name : Power → String
  | off => "off"
  | on => "on"
  | doze => "doze"
  | standby => "standby"

/-- The name of a state in messages. -/
def title : Power → String
  | off => "Off"
  | on => "On"
  | doze => "Doze"
  | standby => "Standby"

/-- The state with a name. -/
def ofName (name : String) : Option Power :=
  all.find? fun p => p.name = name

end Power

end DisplayHub
