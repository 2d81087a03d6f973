import DisplayHub.Extension
import DisplayHub.Resource

/-!
# The compositor

Dealing out composition hardware among displays.

Between start and stop the compositor holds the resource description and
grants a token to each display that may use the hardware. Three rules bound
what is granted: no number of a display is driven twice, no kind has more
displays than the hardware supports, and displays with a panel need a mixer
each. Off-screen displays need none.

Stopping revokes every token at once. Tokens are numbered on through the
compositor's whole life, so one from before a stop names nothing afterwards.

## Main definitions

* `Compositor`: The state, with the displays that are active.
* `Refusal`: Why the compositor does not do something.
* `Compositor.start`, `Compositor.stop`: Taking up work and leaving it.
* `Compositor.register`, `Compositor.unregister`: Granting and returning.
-/

namespace DisplayHub

/-- A display that may use composition hardware. -/
structure Active where
  token : Nat
  variant : Variant
  id : Option Int32
deriving DecidableEq, Repr

/-- What the compositor holds between start and stop. -/
structure Setup where
  resource : Resource
  extension : Option Extension
deriving DecidableEq, Repr

/-- The compositor's state. -/
structure Compositor where
  setup : Option Setup := none
  mode : BandwidthMode := .standard
  active : List Active := []
  nextToken : Nat := 0
deriving DecidableEq, Repr

/-- Why the compositor does not do something. -/
inductive Refusal where
  | notStarted
  | startedTwice
  | noMixers
  /-- A display with this number is active already. -/
  | driven (id : Int32)
  /-- As many displays of a kind are active as the hardware supports. -/
  | kindFull (variant : Variant) (limit : Nat)
  /-- Every mixer drives a panel. -/
  | mixersFull (mixers : Nat)
  /-- There is no budget to stay within. -/
  | noBudget
deriving DecidableEq, Repr

namespace Refusal

/-- The failure that a refusal is to the caller. -/
def failure : Refusal → Failure
  | notStarted => .notInitialized
  | startedTwice => .parameters
  | noMixers => .resources
  | driven _ => .resources
  | kindFull _ _ => .resources
  | mixersFull _ => .resources
  | noBudget => .notSupported

/-- What is said about a refusal, if anything is. -/
def warning? : Refusal → Option String
  | notStarted => none
  | startedTwice => some "ResourceCompManager: init called twice"
  | noMixers => some "ResourceCompManager: hardware reports no layer mixers"
  | driven id => some ("ResourceCompManager: display id " ++ idText (some id)
      ++ " is already driven")
  | kindFull variant limit => some ("ResourceCompManager: " ++ variant.word ++ " limit of "
      ++ toString limit ++ " reached")
  | mixersFull mixers => some ("ResourceCompManager: all " ++ toString mixers
      ++ " mixers in use")
  | noBudget => none

end Refusal

namespace Compositor

/-- A token as messages print it. -/
def tokenText (token : Nat) : String :=
  "CompRegistration(" ++ toString token ++ ")"

/-- Takes up work. Hardware without mixers has nothing to deal out. -/
def start (c : Compositor) (resource : Resource) (extension : Option Extension) :
    Except Refusal Compositor :=
  if c.setup.isSome then .error .startedTwice
  else if resource.mixers = 0 then .error .noMixers
  else .ok { c with setup := some ⟨resource, extension⟩, mode := .standard }

/-- Leaves work. Every token is revoked. -/
def stop (c : Compositor) : Compositor :=
  { c with setup := none, active := [] }

/-- The vendor interface that the compositor holds. -/
def extension? (c : Compositor) : Option Extension :=
  c.setup.bind (·.extension)

/-- Chooses a policy for bandwidth. Staying within a budget needs one. -/
def setMode (c : Compositor) (mode : BandwidthMode) : Except Refusal Compositor :=
  match c.setup with
  | none => .error .notStarted
  | some setup =>
    if mode = .optimal ∧ setup.resource.maxBandwidth = 0 then .error .noBudget
    else .ok { c with mode }

/-- Whether layers of a layout can be rotated. -/
def rotates (c : Compositor) (format : PixelFormat) : Bool :=
  match c.setup with
  | none => false
  | some setup => setup.resource.rotates format

/-- How many displays of a kind are active. -/
def countOf (c : Compositor) (variant : Variant) : Nat :=
  c.active.countP fun a => a.variant = variant

/-- How many active displays use a mixer. -/
def onMixers (c : Compositor) : Nat :=
  c.active.countP fun a => a.variant ≠ .offscreen

/-- Whether a display with a number is active. -/
def drives (c : Compositor) (id : Int32) : Bool :=
  c.active.any fun a => a.id = some id

/-- The first rule that one more display would break. -/
def refusal? (c : Compositor) (variant : Variant) (id : Option Int32) : Option Refusal :=
  match c.setup with
  | none => some .notStarted
  | some setup => match id.filter c.drives with
    | some id => some (.driven id)
    | none =>
      let limit := setup.resource.limit variant
      let mixers := setup.resource.mixers.toNat
      if limit ≤ c.countOf variant then some (.kindFull variant limit)
      else if variant ≠ .offscreen ∧ mixers ≤ c.onMixers then some (.mixersFull mixers)
      else none

/-- The state with one more display, under the next token. -/
def grant (c : Compositor) (variant : Variant) (id : Option Int32) : Compositor :=
  { c with
    active := c.active ++ [⟨c.nextToken, variant, id⟩]
    nextToken := c.nextToken + 1 }

/-- Grants a token to a display, if no rule is broken. -/
def register (c : Compositor) (variant : Variant) (id : Option Int32) :
    Except Refusal (Nat × Compositor) :=
  match c.refusal? variant id with
  | some r => .error r
  | none => .ok (c.nextToken, c.grant variant id)

/-- Whether a token is granted. -/
def knows (c : Compositor) (token : Nat) : Bool :=
  c.active.any fun a => a.token = token

/-- Takes a token back. One that is not granted changes nothing. -/
def unregister (c : Compositor) (token : Nat) : Compositor :=
  { c with active := c.active.filter fun a => a.token ≠ token }

end Compositor

end DisplayHub
