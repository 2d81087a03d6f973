import DisplayHub.Text.Path
import DisplayHub.Vendor

/-!
# Storage

The files that the hub can see, as a tree of names.

Everything the hub learns about its machine it learns from files: settings,
connector entries, extension libraries and sockets. The tree holds what
matters of them. A regular file is its text, or nothing if its bytes are no
text; a library is what comes of calling it; a socket is there to be
connected to. A trapped file stands for hardware that goes away: the moment
it is opened, some paths disappear, and its text is still read.

Paths are followed the way an operating system does it, one name after the
other, so that the fault reported is that of the first name that cannot be
followed. A path that does not start at the root starts in the working
directory, which is always there, and so is every directory above it.

## Main definitions

* `Item`: What can stand under a name.
* `Storage`: The tree, as items by the names that lead to them.
* `Storage.follow`: Where a path leads.
* `Storage.readText`: The text of a file, and the tree after opening it.
* `OsFault`: Why the operating system refuses, and its wording.

## Theorems

* `Storage.stands_of_item`, `Storage.mem_of_item`: Where an item is from.
-/

namespace DisplayHub

/-- Why the operating system refuses something. -/
inductive OsFault where
  | notFound
  | notDirectory
  | isDirectory
  | nameTooLong
  | noDevice
  | connectionRefused
  | notText
  | nulInName
  | nulInAddress
  | addressTooLong
deriving DecidableEq, Repr

/-- The wording of the operating system. -/
def OsFault.message : OsFault → String
  | notFound => "No such file or directory (os error 2)"
  | notDirectory => "Not a directory (os error 20)"
  | isDirectory => "Is a directory (os error 21)"
  | nameTooLong => "File name too long (os error 36)"
  | noDevice => "No such device or address (os error 6)"
  | connectionRefused => "Connection refused (os error 111)"
  | notText => "stream did not contain valid UTF-8"
  | nulInName => "file name contained an unexpected NUL byte"
  | nulInAddress => "paths must not contain interior null bytes"
  | addressTooLong => "path must be shorter than SUN_LEN"

/-- What can stand under a name. -/
inductive Item where
  | directory
  /-- A regular file with its text, or without one if its bytes are none. -/
  | file (text : Option String)
  /-- A socket that somebody listens on. -/
  | listener
  /-- An extension library. -/
  | library (library : Library)
  /-- A file that makes paths disappear when it is opened. -/
  | trap (text : String) (removes : List String)

/-- Whether there is a directory can be told, though two libraries cannot be
    compared. -/
instance (found : Option Item) : Decidable (found = some .directory) :=
  match found with
  | some .directory => .isTrue rfl
  | none => .isFalse nofun
  | some (.file _) => .isFalse nofun
  | some .listener => .isFalse nofun
  | some (.library _) => .isFalse nofun
  | some (.trap _ _) => .isFalse nofun

/-- A regular file with the given bytes. -/
def Item.ofBytes (bytes : List UInt8) : Item :=
  .file (String.fromUTF8? ⟨bytes.toArray⟩)

/-- The files that can be seen: what stands under each row of names from the
    root. -/
structure Storage where
  items : List (List String × Item) := []
  /-- The directory in which a path starts that does not start at the root. -/
  workingDir : List String := []

namespace Storage

/-- What stands under a row of names, if anything does. -/
def at? (s : Storage) (row : List String) : Option Item :=
  if row.isPrefixOf s.workingDir then some .directory else s.items.lookup row

/-- The row of names in which a path starts. -/
def start (s : Storage) (path : String) : List String :=
  if Path.isRooted path then [] else s.workingDir

/-- The row of names that a path spells, whether or not anything is there. -/
def spell (s : Storage) (path : String) : List String :=
  (Path.components path).foldl
    (fun row name =>
      if name = "." then row else if name = ".." then row.dropLast else row ++ [name])
    (s.start path)

/-- Puts one item under a row of names, in place of what stood there. -/
def set (s : Storage) (row : List String) (item : Item) : Storage :=
  { s with items := s.items.filter (·.1 ≠ row) ++ [(row, item)] }

/-- Puts a directory under a row of names, unless there is something. -/
def ensure (s : Storage) (row : List String) : Storage :=
  if (s.at? row).isSome then s else s.set row .directory

/-- Puts an item under a path, with the directories that lead to it. -/
def put (s : Storage) (path : String) (item : Item) : Storage :=
  let row := s.spell path
  let parents := (List.range row.length).map fun n => row.take n
  (parents.foldl ensure s).set row item

/-- Puts items, each under its path. -/
def putAll (s : Storage) (layout : List (String × Item)) : Storage :=
  layout.foldl (fun s item => s.put item.1 item.2) s

/-- Takes away what stands under a path, with everything below it. -/
def remove (s : Storage) (path : String) : Storage :=
  let row := s.spell path
  { s with items := s.items.filter fun item => !row.isPrefixOf item.1 }

/-- The row of names one name further. Only a directory leads further. -/
def enter (s : Storage) (row : List String) (name : String) : Except OsFault (List String) :=
  if s.at? row ≠ some .directory then .error .notDirectory
  else if name = "." then .ok row
  else if name = ".." then .ok row.dropLast
  else if 255 < name.utf8ByteSize then .error .nameTooLong
  else if (s.at? (row ++ [name])).isSome then .ok (row ++ [name])
  else .error .notFound

/-- Follows names from a row of them. -/
def enterAll (s : Storage) : List String → List String → Except OsFault (List String)
  | row, [] => .ok row
  | row, name :: rest => do
    let row ← s.enter row name
    s.enterAll row rest

/-- Where a path leads. A path that ends with a slash leads to a directory or
    nowhere. -/
def follow (s : Storage) (path : String) : Except OsFault (List String) := do
  if Path.holdsNul path then .error .nulInName
  else if path.isEmpty then .error .notFound
  else if 4096 ≤ path.utf8ByteSize then .error .nameTooLong
  else
    let row ← s.enterAll (s.start path) (Path.components path)
    if Path.endsOpen path ∧ s.at? row ≠ some .directory then .error .notDirectory
    else return row

/-- What stands under a path. -/
def item? (s : Storage) (path : String) : Except OsFault Item := do
  match s.at? (← s.follow path) with
  | some item => return item
  | none => .error .notFound

/-- A path leads to what stands where it leads. -/
theorem stands_of_item {s : Storage} {path : String} {item : Item}
    (found : s.item? path = .ok item) :
    ∃ row, s.follow path = .ok row ∧ s.at? row = some item := by
  unfold item? at found
  cases followed : s.follow path with
  | error f =>
      rw [followed] at found
      nomatch found
  | ok row =>
      rw [followed] at found
      dsimp only [bind, Except.bind] at found
      cases there : s.at? row with
      | none =>
          rw [there] at found
          nomatch found
      | some other =>
          rw [there] at found
          exact ⟨row, rfl, there.trans (congrArg some (Except.ok.inj found))⟩

/-- What is no directory is there for itself, and not because of the working
    directory. -/
theorem mem_of_item {s : Storage} {path : String} {item : Item}
    (found : s.item? path = .ok item) (other : item ≠ .directory) :
    ∃ row, (row, item) ∈ s.items := by
  obtain ⟨row, -, there⟩ := stands_of_item found
  unfold at? at there
  split at there
  · exact absurd (Option.some.inj there).symm other
  · obtain ⟨before, after, whole, -⟩ := List.lookup_eq_some_iff.mp there
    exact ⟨row, by simp [whole]⟩

/-- Whether there is anything under a path. -/
def exists? (s : Storage) (path : String) : Bool :=
  match s.item? path with
  | .ok _ => true
  | .error _ => false

/-- Whether a path leads to a directory. -/
def isDirectory (s : Storage) (path : String) : Bool :=
  match s.item? path with
  | .ok .directory => true
  | _ => false

/-- The text of a file, and the tree after opening it. -/
def readText (s : Storage) (path : String) : Except OsFault String × Storage :=
  match s.item? path with
  | .error f => (.error f, s)
  | .ok .directory => (.error .isDirectory, s)
  | .ok .listener => (.error .noDevice, s)
  | .ok (.library _) => (.error .notText, s)
  | .ok (.file none) => (.error .notText, s)
  | .ok (.file (some text)) => (.ok text, s)
  | .ok (.trap text removes) => (.ok text, removes.foldl remove s)

/-- The last name of a row that stands directly in a directory. -/
def childName (directory row : List String) : Option String :=
  if row.dropLast = directory then row.getLast? else none

/-- The names in a directory. -/
def list (s : Storage) (path : String) : Except OsFault (List String) := do
  let directory ← s.follow path
  if s.at? directory ≠ some .directory then .error .notDirectory
  else return s.items.filterMap fun item => childName directory item.1

end Storage

end DisplayHub
