import DisplayHub.Journal
import DisplayHub.Settings
import DisplayHub.Storage

/-!
# Extension libraries

Finding the vendor's library, and getting an interface from it.

The library is looked for along a list of candidates: the path that the
environment gives, then the library in each search directory where it
exists, then its bare name for the system's own search. A name with a slash
in it is a path already and stands alone. The first candidate that opens is
taken for good; what may be wrong with it is no reason to look further.

A library that opens has to have both entry points. Creating an interface
gives a status and possibly an interface, and only a status of zero together
with an interface counts.

## Main definitions

* `Library.find?`: The entry point that a name leads to.
* `ExtensionSettings.candidates`: Where the library is looked for.
* `openLibrary`: What opening a path gives.
* `Attempt`, `ExtensionSettings.attempt`: Loading, with all it leaves behind.

## Theorems

* `Library.entryPoint?_of_find?`: A name that leads somewhere is one of the library's.
-/

namespace DisplayHub

/-- The entry point that a name leads to. A name with NUL in it never gets to the
    linker. -/
def Library.find? (library : Library) (name : String) : Option EntryPoint :=
  if Path.holdsNul name then none else library.entryPoint? name

/-- A name that leads somewhere is one of the library's. -/
theorem Library.entryPoint?_of_find? {library : Library} {name : String} {p : EntryPoint}
    (found : library.find? name = some p) : library.entryPoint? name = some p := by
  unfold find? at found
  split at found
  · nomatch found
  · exact found

/-- What opening a path gives. Only a path with a slash is opened as a file,
    since a bare name is looked up where none of ours are. -/
def openLibrary (storage : Storage) (path : String) : Option Library :=
  if Path.isPlain path then none
  else match storage.item? path with
    | .ok (.library library) => some library
    | _ => none

namespace ExtensionSettings

/-- Where the library is looked for, in order. -/
def candidates (s : ExtensionSettings) (storage : Storage) (override : Option String) :
    List String :=
  let first := (override.filter fun path => !path.isEmpty).toList
  if Path.isPlain s.library then
    let found := (s.searchDirs.map fun dir => Path.join dir s.library).filter storage.exists?
    first ++ found ++ [s.library]
  else first ++ [s.library]

/-- The first candidate that opens, with a note for each one before it. -/
def findLibrary (storage : Storage) : List String → Option (String × Library) × List Note
  | [] => (none, [])
  | path :: rest => match openLibrary storage path with
    | some library => (some (path, library), [])
    | none =>
      let (found, notes) := findLibrary storage rest
      (found, ⟨.debug, "DylibExtensionLoader: dlopen " ++ path ++ " failed"⟩ :: notes)

end ExtensionSettings

/-- An interface in an open library. -/
structure OpenInterface where
  path : String
  versionTag : UInt32
  /-- What comes of destroying the interface. -/
  destruction : Destruction
deriving DecidableEq, Repr

/-- What trying to load the extension gives and leaves behind. -/
structure Attempt where
  result : Except Failure (Option OpenInterface)
  notes : List Note
  events : List LibraryEvent

/-- What is said of a name that leads to no entry point: by the linker, or before
    it if there is NUL in the name. -/
def missingSymbol (path name : String) : String :=
  if Path.holdsNul name then "could not create a C string from bytes with trailing null"
  else path ++ ": undefined symbol: " ++ name

/-- The attempt ends because a name is missing, and the library is closed. -/
def Attempt.lacking (path name : String) (notes : List Note) : Attempt :=
  let reason := missingSymbol path name
  { result := .error (.undefined ("symbol " ++ name ++ ": " ++ reason))
    notes := notes ++ [⟨.error, "Unable to load symbols from " ++ path ++ ", error = " ++ reason⟩]
    events := [.load, .unload] }

namespace ExtensionSettings

/-- Creates an interface in an open library. -/
def createIn (s : ExtensionSettings) (path : String) (creator destroyer : EntryPoint)
    (notes : List Note) : Attempt :=
  let made := creator.create s.versionTag
  if made.status ≠ 0 then
    { result := .error (.ofStatus made.status)
      notes := notes ++ [⟨.error, "Unable to create extension interface from " ++ path ++ " ("
        ++ toString made.status.toInt ++ ")"⟩]
      events := [.load, made.seen, .unload] }
  else if !made.given then
    { result := .error (.undefined (s.createSymbol ++ " returned a null interface"))
      notes := notes ++ [⟨.error, "Extension " ++ path ++ " returned a null interface"⟩]
      events := [.load, made.seen, .unload] }
  else
    { result := .ok (some ⟨path, s.versionTag, destroyer.destroy⟩)
      notes := notes ++ [⟨.info, "Loaded extension " ++ path ++ " (version tag "
        ++ Text.hexText s.versionTag.toNat ++ ")"⟩]
      events := [.load, made.seen] }

/-- Tries to load the extension. -/
def attempt (s : ExtensionSettings) (storage : Storage) (override : Option String) : Attempt :=
  match findLibrary storage (s.candidates storage override) with
  | (none, notes) =>
    { result := .ok none
      notes := notes ++ [⟨.warn, "Unable to load " ++ s.library
        ++ ", continuing without extension"⟩]
      events := [] }
  | (some (path, library), notes) => match library.find? s.createSymbol with
    | none => .lacking path s.createSymbol notes
    | some creator => match library.find? s.destroySymbol with
      | none => .lacking path s.destroySymbol notes
      | some destroyer => s.createIn path creator destroyer notes

end ExtensionSettings

end DisplayHub
