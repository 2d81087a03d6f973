import DisplayHub.Display
import DisplayHub.Resource
import DisplayHub.Settings

/-!
# Replies

What a step of a session answers.

A step may give a value, or find that there is nothing to do it on, or stop
as the operation behind it stopped. Steps on a display show the display as
well, whatever came of them.

## Main definitions

* `Reply`: The values.
* `Trouble`: Why there is no value.
* `Detail`, `Display.detail?`: What a display shows beyond what all show.
* `Outcome`: The answer of a step.
-/

namespace DisplayHub

/-- The values that steps give. -/
inductive Reply where
  | nothing
  | flag (b : Bool)
  | number (n : Nat)
  /-- A display, and the slot that it was just put into, if it was. -/
  | display (d : Display) (slot : Option Nat)
  | entry (e : Entry)
  | entries (l : List Entry)
  | interface (i : Interface)
  | resource (r : Resource)
  /-- A token, with its place among those granted in the session. -/
  | token (place token : Nat)
  /-- A vendor interface: its version, and whether there is nothing behind it. -/
  | extension (versionTag : UInt32) (hollow : Bool)
  /-- A buffer, with its place among those handed out. -/
  | buffer (place : Nat) (b : Buffer)
  /-- How many rounds of work went wrong. -/
  | errors (n : Nat)

/-- Why there is no value. -/
inductive Trouble where
  /-- The slot is empty or was never filled. -/
  | noSlot
  /-- No such token was granted. -/
  | noToken
  /-- Nobody is there to be asked. -/
  | noProvider
  /-- The buffer was given back or never made. -/
  | noBuffer
  /-- The operation stopped. -/
  | stop (s : Stop)
deriving DecidableEq, Repr

/-- What a display shows beyond what all displays show. -/
inductive Detail where
  | primary (b : Bool)
  | connector (name : String)
  | resolution (width height : Nat)
  | initialized (b : Bool)
deriving DecidableEq, Repr

/-- What a display shows to an owner who knows what it is. -/
def Display.detail? (d : Display) : Option Detail :=
  match d.body with
  | .bare _ => some (.initialized d.initialized)
  | .builtIn primary => if d.concrete then some (.primary primary) else none
  | .pluggable connector => if d.concrete then some (.connector connector) else none
  | .offscreen _ =>
    if d.concrete then some (.resolution Display.resolution.1 Display.resolution.2) else none

/-- The answer of a step. -/
structure Outcome where
  result : Except Trouble Reply
  /-- The display that the step was on, if it is shown. -/
  shown : Option Display := none

namespace Outcome

/-- The answer of a step that has nothing to say. -/
def done : Outcome := ⟨.ok .nothing, none⟩

/-- The answer of a step that has a value. -/
def value (r : Reply) : Outcome := ⟨.ok r, none⟩

/-- The answer of a step without a value. -/
def trouble (t : Trouble) : Outcome := ⟨.error t, none⟩

/-- The answer that an operation's result makes. -/
def ofResult {α : Type} (reply : α → Reply) : Except Stop α → Outcome
  | .ok a => value (reply a)
  | .error s => trouble (.stop s)

end Outcome

end DisplayHub
