import DisplayHub.Journal
import DisplayHub.Settings.Document
import DisplayHub.Storage

/-!
# Loading settings

From a path to settings.

The path may be given, or else the environment may name one; an empty name in
the environment is none. Without a path the defaults hold. With one, the file
has to be there and has to be a settings document in full.

## Main definitions

* `SettingsFault`: Why a file gave no settings.
* `Loading`: What trying to load settings gives and leaves behind.
* `Settings.path?`: The path that is taken, if any.
* `Settings.fromFile`: The settings in a file.
* `Settings.load`: The settings that a program starts with.
-/

namespace DisplayHub

/-- Why a file gave no settings. -/
inductive SettingsFault where
  /-- It cannot be read. -/
  | unreadable (path : String) (fault : OsFault)
  /-- It is no settings document. -/
  | unparsable (path : String) (fault : Json.Fault)
deriving DecidableEq, Repr

/-- The wording of a fault, up to where a reader's own words would follow. -/
def SettingsFault.message : SettingsFault → String
  | unreadable path fault => "failed to read " ++ path ++ ": " ++ fault.message
  | unparsable path _ => "failed to parse " ++ path

/-- What trying to load settings gives and leaves behind. -/
structure Loading where
  result : Except SettingsFault Settings
  /-- The files, after the one with the settings was opened. -/
  storage : Storage
  notes : List Note := []

namespace Settings

/-- The path that is taken: the given one, else the one that the environment
    names. -/
def path? (given environment : Option String) : Option String :=
  given <|> environment.filter fun name => !name.isEmpty

/-- The settings in a file. -/
def fromFile (storage : Storage) (path : String) : Loading :=
  match storage.readText path with
  | (.error fault, storage) => { result := .error (.unreadable path fault), storage }
  | (.ok text, storage) => match ofText text with
    | .error fault => { result := .error (.unparsable path fault), storage }
    | .ok settings =>
      { result := .ok settings, storage, notes := [⟨.debug, "Config: parsed " ++ path⟩] }

/-- The settings that a program starts with. -/
def load (storage : Storage) (path : Option String) : Loading :=
  match path with
  | none =>
    { result := .ok {}, storage
      notes := [⟨.info, "Config: no configuration file given, using defaults"⟩] }
  | some path =>
    let l := fromFile storage path
    match l.result with
    | .ok _ => { l with notes := l.notes ++ [⟨.info, "Config: loaded " ++ path⟩] }
    | .error _ => l

end Settings

end DisplayHub
