import DisplayHub.Proofs.Lifecycle
import Mathlib.Logic.Relation

/-!
# The Ledger

Everything that can happen to displays and to what they hold, as entries of
one kind.

The operations of the hub are many, and most of what they do does not matter
to those who hold displays. A `Ledger` shows what does: the displays, what is
dealt out, and two numbers that no state remembers, which are how far tokens
had been numbered when the compositor last stopped and how many buffers were
forgotten. A `Move` is one entry. Every operation is a sequence of entries
(`Hub.LedgerMoves`), so whatever each entry upholds, everything upholds.

The displays stand in no order, since a slot that is filled again stays in its
place and a display that comes and goes within one operation has no slot at
all. `Move.reorder` brings the one that is concerned to the front.

## Main definitions

* `Ledger`: Who holds what.
* `Ledger.Move`, `Ledger.Moves`: One entry, and any number of them.
* `Display.SameHolding`: Two displays that are the same to the ledger.
* `Display.forgets`: When a display forgets its buffer.
* `Hub.LedgerMoves`: What happened is in the ledger.

## Theorems

* `Ledger.Moves.upholds`: What one entry upholds, any number of them does.
* `Serve.BringUpOutcome.ledgerMoves`, `Serve.ledgerMoves_takeDown`,
  `Serve.ledgerMoves_setPower`: What is done with displays is in the ledger.
* `Act.BootstrapHoldings.ledgerMoves`, `Act.CreateOutcome.ledgerMoves`,
  `Act.ledgerMoves_decommission`, `Act.ledgerMoves_setBandwidth`: So is what the hub
  does.
-/

namespace DisplayHub

/-- Who holds what. -/
@[ext]
structure Ledger where
  displays : List Display
  stock : Stock
  /-- The first of the tokens that were granted since the compositor last
      stopped. -/
  floor : Nat
  /-- The buffers that no display can return any more. -/
  lost : Nat

namespace Display

/-- Two displays that differ in nothing that the ledger is about. -/
structure SameHolding (d e : Display) : Prop where
  token : e.token = d.token
  variant : e.variant = d.variant
  id : e.id = d.id
  writeback : e.writeback? = d.writeback?

/-- Whether a display forgets its buffer between two states of the hub. It does
    when another one is handed out to it. -/
def forgets (d : Display) (h h' : Hub) : Bool :=
  d.writeback?.isSome && decide (h'.allocator.nextId ≠ h.allocator.nextId)

end Display

namespace Ledger

/-- One entry in the ledger. -/
inductive Move : Ledger → Ledger → Prop where
  /-- The order in which displays are held does not matter. -/
  | reorder {l l' : List Display} {s : Stock} {f n : Nat} (same : l.Perm l') :
      Move ⟨l, s, f, n⟩ ⟨l', s, f, n⟩
  /-- Somebody gets a display that holds nothing. -/
  | make {l : List Display} {s : Stock} {f n : Nat} {d : Display} (idle : d.token = none)
      (empty : d.writeback? = none) : Move ⟨l, s, f, n⟩ ⟨d :: l, s, f, n⟩
  /-- Something else about a display changes. -/
  | touch {l : List Display} {s : Stock} {f n : Nat} {d e : Display} (alike : d.SameHolding e) :
      Move ⟨d :: l, s, f, n⟩ ⟨e :: l, s, f, n⟩
  /-- A display is brought into service, with whatever comes of it. -/
  | bringUp {l : List Display} {f n : Nat} {d e : Display} {h h' : Hub} {r : Except Stop Unit}
      (raised : Serve.BringUpOutcome d h r e h') :
      Move ⟨d :: l, h.stock, f, n⟩ ⟨e :: l, h'.stock, f, n + (d.forgets h h').toNat⟩
  /-- A display leaves service. -/
  | takeDown {l : List Display} {s : Stock} {f n : Nat} {d : Display} :
      Move ⟨d :: l, s, f, n⟩
        ⟨d.shelved :: l, s.dealing (d.release s.compositor) (d.vacate s.allocator), f, n⟩
  /-- A display is let go. -/
  | drop {l : List Display} {s : Stock} {f n : Nat} {d : Display} :
      Move ⟨d :: l, s, f, n⟩
        ⟨l, s.dealing (d.release s.compositor) (d.vacate s.allocator), f, n⟩
  /-- The compositor starts, and something stops the hub from coming up. -/
  | start {l : List Display} {s : Stock} {f n : Nat} {resource : Resource}
      {extension : Option Extension} {c : Compositor}
      (started : s.compositor.start resource extension = .ok c) :
      Move ⟨l, s, f, n⟩ ⟨l, s.dealing c s.allocator, f, n⟩
  /-- The hub comes up. -/
  | rise {l : List Display} {s : Stock} {f n : Nat} {resource : Resource}
      {extension : Option Extension} {c : Compositor}
      (started : s.compositor.start resource extension = .ok c) :
      Move ⟨l, s, f, n⟩ ⟨l, s.broughtUp c resource, f, n⟩
  /-- A policy for bandwidth is chosen. -/
  | setMode {l : List Display} {s : Stock} {f n : Nat} {mode : BandwidthMode} {c : Compositor}
      (chosen : s.compositor.setMode mode = .ok c) :
      Move ⟨l, s, f, n⟩ ⟨l, s.dealing c s.allocator, f, n⟩
  /-- The hub goes down, and every token is revoked. -/
  | stop {l : List Display} {s : Stock} {f n : Nat} :
      Move ⟨l, s, f, n⟩ ⟨l, s.takenDown, s.compositor.nextToken, n⟩

/-- Any number of entries. -/
abbrev Moves : Ledger → Ledger → Prop :=
  Relation.ReflTransGen Move

/-- What one entry upholds, any number of them does. -/
theorem Moves.upholds {P : Ledger → Prop} (kept : ∀ {a b}, Move a b → P a → P b)
    {a b : Ledger} (moves : Moves a b) (before : P a) : P b := by
  -- the last entry is made where the others have upheld it
  induction moves with
  | refl => exact before
  | tail _ move ih => exact kept move ih

end Ledger

namespace Hub

/-- The ledger of a hub. -/
def ledger (displays : List Display) (floor lost : Nat) (h : Hub) : Ledger :=
  ⟨displays, h.stock, floor, lost⟩

/-- What happened between two states of the hub is in the ledger, whatever else
    is written there, and every slot is as it was. -/
structure LedgerMoves (h : Hub) (l : List Display) (h' : Hub) (l' : List Display) : Prop where
  slots : h'.slots = h.slots
  moves : ∀ f n, Ledger.Moves (h.ledger l f n) (h'.ledger l' f n)

variable {h h' h'' : Hub} {l l' l'' : List Display}

theorem LedgerMoves.trans (first : LedgerMoves h l h' l') (rest : LedgerMoves h' l' h'' l'') :
    LedgerMoves h l h'' l'' :=
  ⟨rest.slots.trans first.slots, fun f n => (first.moves f n).trans (rest.moves f n)⟩

/-- One entry is enough for what comes to certain holdings. -/
theorem ledgerMoves_of_move {s : Stock} (dealt : h'.holdings = (s, h.slots))
    (move : ∀ f n, Ledger.Move (h.ledger l f n) ⟨l', s, f, n⟩) : LedgerMoves h l h' l' := by
  refine ⟨congrArg Prod.snd dealt, fun f n => Relation.ReflTransGen.single ?_⟩
  have stock : h'.stock = s := congrArg Prod.fst dealt
  have entry := move f n
  rw [← stock] at entry
  exact entry

/-- No entry is needed for what keeps the holdings. -/
theorem ledgerMoves_of_same (same : h'.holdings = h.holdings) (l : List Display) :
    LedgerMoves h l h' l := by
  refine ⟨congrArg Prod.snd same, fun f n => ?_⟩
  have stock : h'.stock = h.stock := congrArg Prod.fst same
  unfold ledger
  rw [stock]

/-- A display that is let go is out of the ledger. -/
theorem ledgerMoves_drop (d : Display) (h : Hub) (l : List Display) :
    LedgerMoves h (d :: l) (d.drop h) l :=
  ledgerMoves_of_move (holdings_of_ground (d.ground_drop h)) fun _ _ => Ledger.Move.drop

end Hub

namespace Serve

variable {d e : Display} {h h' : Hub} {r : Except Stop Unit}

/-- A display that comes into service, or does not, stays in its slot. -/
theorem BringUpOutcome.slots (raised : BringUpOutcome d h r e h') : h'.slots = h.slots := by
  obtain ⟨_, _, dealt, -⟩ := raised.dealt
  exact congrArg Prod.snd (Hub.holdings_of_ground dealt)

/-- A display without a buffer has none to forget. -/
theorem BringUpOutcome.ledgerMoves (raised : BringUpOutcome d h r e h')
    (empty : d.writeback? = none) (l : List Display) : Hub.LedgerMoves h (d :: l) h' (e :: l) := by
  have kept : d.forgets h h' = false := by
    unfold Display.forgets
    rw [empty]
    rfl
  refine ⟨raised.slots, fun f n => Relation.ReflTransGen.single ?_⟩
  have move := Ledger.Move.bringUp (l := l) (f := f) (n := n) raised
  rw [kept] at move
  exact move

/-- Leaving service is in the ledger. -/
theorem ledgerMoves_takeDown (run : takeDown (d, h) = (r, e, h')) (l : List Display) :
    Hub.LedgerMoves h (d :: l) h' (e :: l) := by
  rcases takeDown_cases run with ⟨f, rfl, rfl, same⟩ | ⟨rfl, -, rfl, dealt⟩
  · exact Hub.ledgerMoves_of_same (Hub.holdings_of_same same) _
  · exact Hub.ledgerMoves_of_move (Hub.holdings_of_ground dealt) fun _ _ => Ledger.Move.takeDown

/-- A change of power is no more than a touch. -/
theorem ledgerMoves_setPower {power : Power} (run : setPower power (d, h) = (r, e, h'))
    (l : List Display) : Hub.LedgerMoves h (d :: l) h' (e :: l) := by
  have same := keeps_setPower power (d, h)
  rw [run] at same
  -- all but the power is the same, and the ledger does not show the power
  have stays := congrArg Prod.fst same
  have token := congrArg Display.token stays
  have variant := congrArg Display.variant stays
  have id := congrArg Display.id stays
  have writeback := congrArg Display.writeback? stays
  have alike : d.SameHolding e := ⟨token, variant, id, writeback⟩
  exact Hub.ledgerMoves_of_move (Hub.holdings_of_same (congrArg Prod.snd same)) fun _ _ =>
    Ledger.Move.touch alike

end Serve

namespace Act

variable {h h' : Hub}

/-- Bringing the hub up enters at most that the compositor started. -/
theorem BootstrapHoldings.ledgerMoves {r : Except Stop Unit} (risen : BootstrapHoldings h r h')
    (l : List Display) : Hub.LedgerMoves h l h' l := by
  cases risen with
  | refused stop _ same => exact Hub.ledgerMoves_of_same same l
  | stopped stop resource extension c _ started dealt =>
      exact Hub.ledgerMoves_of_move dealt fun _ _ => Ledger.Move.start started
  | up resource extension c _ started dealt =>
      exact Hub.ledgerMoves_of_move dealt fun _ _ => Ledger.Move.rise started

/-- Choosing a policy enters at most that one was chosen. -/
theorem ledgerMoves_setBandwidth (mode : BandwidthMode) (h : Hub) (l : List Display) :
    Hub.LedgerMoves h l (setBandwidth mode h).2 l := by
  rcases ending : setBandwidth mode h with ⟨r, h'⟩
  rcases setBandwidth_cases ending with same | ⟨c, chosen, dealt⟩
  · exact Hub.ledgerMoves_of_same same l
  · exact Hub.ledgerMoves_of_move dealt fun _ _ => Ledger.Move.setMode chosen

/-- Destroying a display enters that it is let go. -/
theorem ledgerMoves_decommission (d : Display) (h : Hub) (l : List Display) :
    Hub.LedgerMoves h (d :: l) (decommission d h).2 l :=
  Hub.ledgerMoves_of_move (Hub.holdings_of_ground (ground_decommission d h)) fun _ _ =>
    Ledger.Move.drop

/-- The displays that are held once an attempt to create one is over. -/
def joining (l : List Display) : Except Stop Display → List Display
  | .ok d => d :: l
  | .error _ => l

/-- Creating a display enters that somebody gets it, that it is brought into
    service, and perhaps that it is let go again. -/
theorem CreateOutcome.ledgerMoves {r : Except Stop Display} (created : CreateOutcome h r h')
    (l : List Display) : Hub.LedgerMoves h l h' (joining l r) := by
  cases created with
  | refused stop _ same => exact Hub.ledgerMoves_of_same (Hub.holdings_of_same same) l
  | tried v id handler provider _ _ run =>
      let d : Display := .fresh v id handler provider
      have empty : d.writeback? = none := by cases v <;> rfl
      have made : Hub.LedgerMoves h l h (d :: l) :=
        Hub.ledgerMoves_of_move rfl fun _ _ => Ledger.Move.make rfl empty
      rcases commission_cases run with ⟨e, g, raised, rfl, same⟩ | ⟨stop, e, g, raised, rfl, same⟩
      · exact made.trans ((raised.ledgerMoves empty l).trans
          (Hub.ledgerMoves_of_same (Hub.holdings_of_same same) _))
      · -- what could not be brought into service is let go as it then is
        exact made.trans ((raised.ledgerMoves empty l).trans ((Hub.ledgerMoves_drop e g l).trans
          (Hub.ledgerMoves_of_same (Hub.holdings_of_same same) _)))

end Act

end DisplayHub
