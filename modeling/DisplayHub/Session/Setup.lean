import DisplayHub.Session
import DisplayHub.Settings.Loading

/-!
# Setting sessions up

The hub that each kind of session begins with.

A configured hub begins with what its settings file says, and reading that
file is the first thing noted. The other two begin with a description of the
hardware, an allocator and perhaps a stand-in for the vendor extension.

## Main definitions

* `Settings.hub`: The hub that settings ask for.
* `Session.configured`: A session on the settings in a file.
* `Session.recording`, `Session.scripted`: Sessions on a description.
-/

namespace DisplayHub

/-- The hub that settings ask for, among given files and with the library path
    that the environment gives. It is not up yet. -/
def Settings.hub (s : Settings) (storage : Storage) (override : Option String) : Hub :=
  { storage, override, loader := s.extension.loader, hardware := s.hardware.hardware }

namespace Session

/-- A session on the settings in a file. -/
def configured (storage : Storage) (path : String) (override : Option String) :
    Except SettingsFault Session :=
  let loading := Settings.fromFile storage path
  match loading.result with
  | .error fault => .error fault
  | .ok settings =>
    .ok { rig := .configured,
          hub := (settings.hub loading.storage override).noteAll loading.notes }

/-- An allocator with a limit, or with the usual one. -/
def allocatorOf (limit : Option Nat) : Allocator :=
  match limit with
  | some limit => { limit }
  | none => {}

/-- A session on a description that every call goes through on record. -/
def recording (extension : Bool) (resource : Resource) (entries : List Entry)
    (limit : Option Nat) : Session :=
  { rig := .recording
    hub :=
      { loader := .standIn (.ok extension)
        hardware := { resource := .ok resource, listing := .described entries, announced := false }
        allocator := allocatorOf limit } }

/-- A session on stand-ins. -/
def scripted (extension : Except Failure Bool) (resource : Resource) (entries : List Entry)
    (limit : Option Nat) : Session :=
  { rig := .scripted
    hub :=
      { loader := .standIn extension
        hardware := { resource := .ok resource, listing := .scripted entries, announced := false }
        color := { standIn := true }
        allocator := allocatorOf limit } }

end Session

/-- An entry of a stand-in's report: not primary, and named for its kind and
    number. -/
def Entry.scripted (id : Int32) (variant : Variant) (connected : Bool) : Entry :=
  { id, variant, connected, name := variant.displayName (some id) }

end DisplayHub
