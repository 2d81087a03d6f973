import DisplayHub.Allocator
import DisplayHub.Journal
import DisplayHub.Topology

/-!
# Displays

A display as its owner holds it.

What all kinds share is the number they are bound to, the composition token
they hold and their power state. Each kind adds something of its own: a panel
remembers whether it is the primary one, an external display the name of its
connector, an off-screen one the buffer it is composed into. A bare display
has the shared part only.

A display keeps its name. It is written down when the display is made, and
once more, beside the number, when the number becomes known. A display is
initialized exactly while it holds a token.

## Main definitions

* `Body`: What is particular to a kind.
* `Display`: A display.
* `Display.bind`: The display once its number is known.
* `Display.choose`: The entry that a display drives.
* `Display.NameAgrees`: The name of a display goes with its kind and number.

## Theorems

* `Display.nameAgrees_fresh`, `Display.NameAgrees.bind`: The name agrees when a
  display is made, and still does when its number becomes known.
-/

namespace DisplayHub

/-- What is particular to a kind of display. -/
inductive Body where
  /-- Nothing but the kind. -/
  | bare (variant : Variant)
  | builtIn (primary : Bool)
  /-- The connector's name is empty while nothing is driven. -/
  | pluggable (connector : String)
  | offscreen (writeback : Option Buffer)
deriving DecidableEq, Repr

namespace Body

/-- The kind of display. -/
def variant : Body → Variant
  | bare v => v
  | builtIn _ => .builtIn
  | pluggable _ => .pluggable
  | offscreen _ => .offscreen

/-- What a display of a kind begins with. -/
def fresh : Variant → Body
  | .builtIn => builtIn false
  | .pluggable => pluggable ""
  | .offscreen => offscreen none

theorem variant_fresh (v : Variant) : (fresh v).variant = v := by
  cases v <;> rfl

end Body

/-- A display. -/
structure Display where
  body : Body
  /-- The number that the display is bound to, once it is known. -/
  id : Option Int32
  name : String
  handler : Handler
  /-- Which of the hub's providers the display holds, if it holds one. -/
  provider : Option Nat
  token : Option Nat := none
  power : Power := .off
  /-- Whether the owner knows more of the display than every kind shows. -/
  concrete : Bool := false
  /-- A failure that stands in for everything that leaving service would do. -/
  stuck : Option Failure := none
deriving DecidableEq, Repr

namespace Display

/-- The width and the height of an off-screen display. -/
def resolution : Nat × Nat := (640, 480)

/-- The bytes of an off-screen display's buffer, four for each pixel. -/
def writebackSize : Nat := resolution.1 * resolution.2 * 4

/-- The kind of a display. -/
def variant (d : Display) : Variant := d.body.variant

/-- Whether a display holds composition resources. -/
def initialized (d : Display) : Bool := d.token.isSome

/-- The display bound to a number, with the name that goes with it. One that is
    bound already stays so. -/
def bind (d : Display) (id : Int32) : Display :=
  { d with
    id := some (d.id.getD id)
    name := match d.id with
      | none => d.variant.displayName (some id)
      | some _ => d.name }

/-- A display of a kind before anything was claimed for it. -/
def fresh (variant : Variant) (id : Option Int32) (handler : Handler) (provider : Option Nat) :
    Display :=
  { body := .fresh variant, id, name := variant.displayName id, handler, provider }

/-- The name of a display is the one that goes with its kind and its number. -/
def NameAgrees (d : Display) : Prop :=
  d.name = d.variant.displayName d.id

theorem nameAgrees_fresh (v : Variant) (id : Option Int32) (handler : Handler)
    (provider : Option Nat) : (fresh v id handler provider).NameAgrees :=
  congrArg (Variant.displayName · id) (Body.variant_fresh v).symm

/-- Whatever a display is bound to, its name still agrees afterwards. -/
theorem NameAgrees.bind {d : Display} (agrees : d.NameAgrees) (id : Int32) :
    (d.bind id).NameAgrees := by
  unfold NameAgrees Display.bind at *
  -- a display without a number is renamed, and any other one keeps both
  cases number : d.id with
  | none => rfl
  | some k =>
    rw [number] at agrees
    exact agrees

/-- The buffer that a display is composed into. -/
def writeback? (d : Display) : Option Buffer :=
  match d.body with
  | .offscreen buffer => buffer
  | _ => none

/-- Whether an entry is of a kind, and connected if that is asked for. -/
def suits (variant : Variant) (connected : Bool) (e : Entry) : Bool :=
  e.variant = variant && (!connected || e.connected)

/-- The entry that a display without a number drives: the first primary one
    that suits, or else the first one that suits. -/
def chooseUnbound (variant : Variant) (connected : Bool) (t : Topology) : Except Failure Entry :=
  let primary := t.entries.find? fun e => suits variant connected e && e.primary
  match primary <|> t.entries.find? (suits variant connected) with
  | some e => .ok e
  | none => .error (.hardware ("no " ++ variant.word ++ " display reported"))

/-- The entry that a display bound to a number drives. It has to be there, be
    of the display's kind, and be connected if that is asked for. -/
def chooseBound (variant : Variant) (connected : Bool) (id : Int32) (t : Topology) :
    Except Failure Entry :=
  match t.find? id with
  | none =>
    .error (.hardware ("display " ++ toString id.toInt ++ " is not reported by hardware"))
  | some e =>
    if e.variant ≠ variant then
      .error (.hardware ("display " ++ toString id.toInt ++ " is " ++ e.variant.word
        ++ " hardware, not " ++ variant.word))
    else if connected && !e.connected then
      .error (.hardware ("display " ++ toString e.id.toInt ++ " (" ++ e.name
        ++ ") is not connected"))
    else .ok e

/-- The entry that a display drives. -/
def choose (d : Display) (connected : Bool) (t : Topology) : Except Failure Entry :=
  match d.id with
  | some id => chooseBound d.variant connected id t
  | none => chooseUnbound d.variant connected t

end Display

end DisplayHub
