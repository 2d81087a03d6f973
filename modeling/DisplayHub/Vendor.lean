/-!
# Vendor libraries

What a vendor's library is to those who load it.

Nothing is known of such a library but what comes of calling it. It may have
any names, and behind each of them any function, which may answer as it likes.
A function does not know what it is taken for: the same one can be called to
create an interface or to destroy one, and each call leaves its trace in what
the library sees of its own life. So an entry point is all that can come of
calling it, and a library is the entry points that its names lead to.

A library answers the same each time it is loaded. One that does not is taken
for a file that is replaced in between.

## Main definitions

* `LibraryEvent`: What a library sees of its own life.
* `EntryPoint`: What comes of calling a function of a library.
* `EntryPoint.IsCreator`, `EntryPoint.IsDestroyer`: A function that is of the kind
  that it is taken for.
* `Library`: The entry points by their names.
-/

namespace DisplayHub

/-- What an extension library sees of its own life. -/
inductive LibraryEvent where
  | load
  | create (versionTag : UInt32)
  /-- It was asked to destroy its interface, and answered with a status. -/
  | destroy (status : Int32)
  | unload
deriving DecidableEq, Repr

/-- What comes of calling a function to create an interface. -/
structure Creation where
  /-- What the library sees of the call. -/
  seen : LibraryEvent
  status : Int32
  /-- Whether there is an interface. -/
  given : Bool
deriving DecidableEq, Repr

/-- What comes of calling a function to destroy an interface. -/
structure Destruction where
  /-- What the library sees of the call. -/
  seen : LibraryEvent
  status : Int32
deriving DecidableEq, Repr

/-- What comes of calling a function of a library. -/
structure EntryPoint where
  /-- Called to create an interface of a version. -/
  create : UInt32 → Creation
  /-- Called to destroy an interface. -/
  destroy : Destruction

namespace EntryPoint

/-- Whoever calls the function to create an interface does ask for one. -/
def IsCreator (p : EntryPoint) : Prop :=
  ∀ tag, (p.create tag).seen = .create tag

/-- Whoever calls the function to destroy an interface does have it destroyed, as
    far as the status says. -/
def IsDestroyer (p : EntryPoint) : Prop :=
  p.destroy.seen = .destroy p.destroy.status

/-- A function that creates interfaces, and answers a version with a status and
    perhaps an interface. It is not made to destroy any. -/
def creator (answer : UInt32 → Int32 × Bool) : EntryPoint where
  create tag := ⟨.create tag, (answer tag).1, (answer tag).2⟩
  destroy := ⟨.create 0, 0⟩

/-- A function that destroys interfaces, and answers with a status. It is not
    made to create any. -/
def destroyer (status : Int32) : EntryPoint where
  create _ := ⟨.destroy status, status, false⟩
  destroy := ⟨.destroy status, status⟩

theorem isCreator_creator (answer : UInt32 → Int32 × Bool) : (creator answer).IsCreator :=
  fun _ => rfl

theorem isDestroyer_destroyer (status : Int32) : (destroyer status).IsDestroyer :=
  rfl

end EntryPoint

/-- A vendor's library: the entry points that its names lead to. -/
structure Library where
  entryPoint? : String → Option EntryPoint

end DisplayHub
