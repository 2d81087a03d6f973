import DisplayHub.Proofs.Ledger
import DisplayHub.Session.Setup

/-!
# Runs of a Session

Every step that somebody can take with a hub and its displays is in the
ledger, and so is every sequence of steps.

The steps that are meant are the `ordinary` ones. Those that go to the
compositor behind the hub's back are left out, and so are those that take only
a part of what a display does to come into service or to leave it.

Three of the ordinary steps are not `inLedger`. Going down is where the ledger
moves its floor. Bringing a display that somebody holds into service is where
it may note a lost buffer, since the display can hold one from before. A fault
that is set changes no holdings, but what is upheld may depend on it.

A step finds its display in a slot and puts it back there. The lemmas on slots
say what that is for the displays as a whole: one is taken out of them, the
others stay, and what became of it joins them again.

## Main definitions

* `Hub.LiveLedgerMoves`: What happened is in the ledger of all who hold displays.
* `Step.ordinary`, `Step.inLedger`: The steps that are meant, and the simple ones.
* `Session.after`: The session after a sequence of steps.
* `Session.floorAfter`: How far tokens had been numbered when the compositor
  last stopped.
* `Session.lostAfter`: How many buffers were forgotten.
* `Hub.Fresh`: A hub that nobody has used.

## Theorems

* `Hub.live_of_display?`: A display in a slot and the others.
* `Session.ledgerMoves_workAll`: Rounds of work.
* `Session.moves_step`: Every ordinary step is in the ledger.
* `Session.upholds_after`: What every entry upholds, every run does.
* `Session.fresh_recording`, `Session.fresh_scripted`,
  `Session.fresh_configured`: Every session begins with a fresh hub.
-/

namespace DisplayHub

open Ledger

namespace Hub

variable {h h' : Hub} {slot : Nat} {d e : Display}

/-! ### Slots -/

theorem inside_of_display? (held : h.display? slot = some d) : slot < h.slots.length :=
  (List.getElem?_eq_some_iff.mp (Option.join_eq_some_iff.mp held)).1

theorem display?_setSlot (h : Hub) (slot place : Nat) (d : Option Display) :
    (h.setSlot slot d).display? place =
      if place = slot ∧ slot < h.slots.length then d else h.display? place := by
  unfold display? setSlot
  dsimp only
  rw [List.getElem?_set]
  by_cases same : slot = place
  · subst same
    by_cases inside : slot < h.slots.length
    · simp [inside]
    · simp [inside]
  · rw [if_neg same, if_neg fun both => same both.1.symm]

theorem display?_addSlot (h : Hub) (place : Nat) (d : Display) :
    (h.addSlot d).display? place =
      if place = h.slots.length then some d else h.display? place := by
  unfold display? addSlot
  dsimp only
  by_cases last : place = h.slots.length
  · subst last
    simp
  · rw [if_neg last]
    by_cases inside : place < h.slots.length
    · rw [List.getElem?_append_left inside]
    · have beyond : h.slots.length + 1 ≤ place := by omega
      rw [List.getElem?_eq_none (by simpa using beyond),
        List.getElem?_eq_none (Nat.le_of_not_lt inside)]

/-- The displays in slots of which one is set. -/
theorem filterMap_set {slots : List (Option Display)} (inside : slot < slots.length)
    (e : Option Display) : ((slots.set slot e).filterMap id).Perm
      (e.toList ++ ((slots.take slot).filterMap id ++ (slots.drop (slot + 1)).filterMap id)) := by
  rw [List.set_eq_take_append_cons_drop, if_pos inside, List.filterMap_append]
  cases e with
  | none => exact List.Perm.refl _
  | some d => exact List.perm_middle

/-- A display in a slot is one of those that are held, and whatever takes its
    place, the others stay. -/
theorem live_of_display? (held : h.display? slot = some d) : ∃ rest, h.live.Perm (d :: rest) ∧
    ∀ (u : Hub) (e : Option Display), u.slots = h.slots →
      (u.setSlot slot e).live.Perm (e.toList ++ rest) := by
  have found := Option.join_eq_some_iff.mp held
  obtain ⟨inside, there⟩ := List.getElem?_eq_some_iff.mp found
  -- the others are those before the slot and those behind it
  refine ⟨(h.slots.take slot).filterMap id ++ (h.slots.drop (slot + 1)).filterMap id, ?_,
    fun u e same => ?_⟩
  · have stays : h.slots.set slot (some d) = h.slots := by
      rw [← there, List.set_getElem_self]
    have split := filterMap_set inside (some d)
    rw [stays] at split
    exact split
  · unfold setSlot live
    dsimp only
    rw [same]
    exact filterMap_set inside e

/-- Emptying an empty slot, or one that there is not, changes no display. -/
theorem live_setSlot_none (empty : h.display? slot = none) :
    (h.setSlot slot none).live = h.live := by
  have same : h.slots.set slot none = h.slots := by
    by_cases inside : slot < h.slots.length
    · unfold display? at empty
      rw [List.getElem?_eq_getElem inside] at empty
      have vacant : h.slots[slot] = none := empty
      rw [← vacant, List.set_getElem_self]
    · exact List.set_eq_of_length_le (Nat.le_of_not_lt inside)
  unfold setSlot live
  dsimp only
  rw [same]

/-- What happened between two states of the hub is in the ledger of all who hold
    displays. -/
def LiveLedgerMoves (h h' : Hub) : Prop :=
  ∀ f n, Moves (h.ledger h.live f n) (h'.ledger h'.live f n)

theorem liveLedgerMoves_of_ledgerMoves (ledgerMoves : LedgerMoves h h.live h' h.live) :
    h.LiveLedgerMoves h' := by
  intro f n
  have live : h'.live = h.live := congrArg (List.filterMap id) ledgerMoves.slots
  rw [live]
  exact ledgerMoves.moves f n

theorem liveLedgerMoves_of_same (same : h'.holdings = h.holdings) : h.LiveLedgerMoves h' :=
  liveLedgerMoves_of_ledgerMoves (ledgerMoves_of_same same h.live)

theorem liveLedgerMoves_setSlot_none (empty : h.display? slot = none) :
    h.LiveLedgerMoves (h.setSlot slot none) := by
  intro f n
  rw [live_setSlot_none empty]
  exact Relation.ReflTransGen.refl

/-- A display in a slot is replaced by what became of it. -/
theorem moves_serve (held : h.display? slot = some d) (slots : h'.slots = h.slots)
    {f n f' n' : Nat} (moves : ∀ l, Moves (h.ledger (d :: l) f n) (h'.ledger (e :: l) f' n')) :
    Moves (h.ledger h.live f n)
      ((h'.setSlot slot (some e)).ledger (h'.setSlot slot (some e)).live f' n') := by
  obtain ⟨rest, before, after⟩ := live_of_display? held
  -- the display is taken to the front, served there, and taken back
  have first : Moves (h.ledger h.live f n) (h.ledger (d :: rest) f n) :=
    Relation.ReflTransGen.single (Move.reorder before)
  have last : Move (h'.ledger (e :: rest) f' n')
      ((h'.setSlot slot (some e)).ledger (h'.setSlot slot (some e)).live f' n') :=
    Move.reorder (after h' (some e) slots).symm
  exact (first.trans (moves rest)).tail last

/-- A display is taken out of its slot and let go. -/
theorem liveLedgerMoves_of_give (held : h.display? slot = some d)
    (ledgerMoves : ∀ l, LedgerMoves (h.setSlot slot none) (d :: l) h' l) :
    h.LiveLedgerMoves h' := by
  intro f n
  obtain ⟨rest, before, after⟩ := live_of_display? held
  have first : Moves (h.ledger h.live f n) ((h.setSlot slot none).ledger (d :: rest) f n) :=
    Relation.ReflTransGen.single (Move.reorder before)
  have live : h'.live = (h.setSlot slot none).live :=
    congrArg (List.filterMap id) (ledgerMoves rest).slots
  rw [live]
  exact (first.trans ((ledgerMoves rest).moves f n)).tail (Move.reorder (after h none rfl).symm)

/-- A display is put into a new slot. -/
theorem liveLedgerMoves_of_add (ledgerMoves : LedgerMoves h h.live h' (d :: h.live)) :
    h.LiveLedgerMoves (h'.addSlot d) := by
  intro f n
  have live : (h'.addSlot d).live = h.live ++ [d] := by
    unfold addSlot live
    dsimp only
    rw [ledgerMoves.slots, List.filterMap_append]
    rfl
  rw [live]
  exact (ledgerMoves.moves f n).tail (Move.reorder (List.perm_append_singleton d h.live).symm)

end Hub

namespace Session

/-! ### Rounds of work -/

/-- A round of work leaves every display where it is. -/
theorem ledgerMoves_workRound (id : Int32) (h : Hub) (l : List Display) :
    Hub.LedgerMoves h l (workRound id h).2 l := by
  rcases ending : workRound id h with ⟨r, u⟩
  unfold workRound at ending
  rcases bind_cases ending with ⟨d, h₁, made, rest⟩ | ⟨stop, refused, -⟩
  · have created := (Act.created_createById made).ledgerMoves l
    refine created.trans ?_
    -- the display of the round is in no slot, so it joins the ledger by itself
    rcases bind_cases rest with ⟨_, h₂, refreshed, last⟩ | ⟨stop, stopped, -⟩
    · rcases Act.onStop_cases refreshed with ⟨_, refreshed, -⟩ | ⟨_, _, -, ⟨⟩, -⟩
      have same := Act.holds_refresh h₁
      rw [refreshed] at same
      have destroyed := Act.ledgerMoves_decommission d h₂ l
      change Act.decommission d h₂ = (r, u) at last
      rw [last] at destroyed
      exact (Hub.ledgerMoves_of_same same _).trans destroyed
    · rcases Act.onStop_cases stopped with ⟨_, -, ⟨⟩⟩ | ⟨_, h₂, refreshed, -, rfl⟩
      have same := Act.holds_refresh h₁
      rw [refreshed] at same
      exact (Hub.ledgerMoves_of_same same _).trans (Hub.ledgerMoves_drop d h₂ l)
  · exact (Act.created_createById refused).ledgerMoves l

theorem ledgerMoves_workRounds (id : Int32) (rounds : Nat) (h : Hub) (l : List Display) :
    Hub.LedgerMoves h l (workRounds id rounds h).2 l := by
  induction rounds generalizing h with
  | zero => exact Hub.ledgerMoves_of_same rfl l
  | succ rounds ih =>
      have first := ledgerMoves_workRound id h l
      unfold workRounds
      rcases ending : workRound id h with ⟨r, u⟩
      rw [ending] at first
      have rest := ih u
      cases r with
      | ok _ => exact first.trans rest
      | error _ => exact first.trans rest

theorem ledgerMoves_workAll (rounds : Nat) (ids : List Int32) (h : Hub) (l : List Display) :
    Hub.LedgerMoves h l (workAll rounds ids h).2 l := by
  -- every display starts from what the rounds on those before it left
  induction ids generalizing h with
  | nil => exact Hub.ledgerMoves_of_same rfl l
  | cons id ids ih => exact (ledgerMoves_workRounds id rounds h l).trans (ih _)

/-! ### Steps -/

/-- The ledger of a session. -/
def ledger (s : Session) (floor lost : Nat) : Ledger :=
  s.hub.ledger s.hub.live floor lost

/-- An extension that is only tried out leaves nothing behind but notes. -/
theorem keeps_tryExtension : Keeps Hub.ground tryExtension :=
  Act.keeps_loadExtension.bind fun e => (keeps_modify (Hub.ground_letGo? e)).bind fun _ =>
    keeps_pure _

theorem liveLedgerMoves_keepCreated {s : Session} {act : Act Display}
    (created : ∀ {r h'}, act s.hub = (r, h') → Act.CreateOutcome s.hub r h') :
    s.hub.LiveLedgerMoves (s.keepCreated act).2.hub := by
  rcases ending : act s.hub with ⟨r, u⟩
  have ledgerMoves := (created ending).ledgerMoves s.hub.live
  unfold keepCreated run
  rw [ending]
  cases r with
  | ok d => exact Hub.liveLedgerMoves_of_add ledgerMoves
  | error stop => exact Hub.liveLedgerMoves_of_ledgerMoves ledgerMoves

theorem liveLedgerMoves_destroySlot (s : Session) (slot : Option Nat) :
    s.hub.LiveLedgerMoves (s.destroySlot slot).2.hub := by
  cases slot with
  | none => exact Hub.liveLedgerMoves_of_same rfl
  | some slot =>
      change s.hub.LiveLedgerMoves (Act.destroy (s.hub.display? slot) (s.hub.setSlot slot none)).2
      cases held : s.hub.display? slot with
      | none => exact Hub.liveLedgerMoves_setSlot_none held
      | some d => exact Hub.liveLedgerMoves_of_give held (Act.ledgerMoves_decommission d _)

/-- What is done with a display in a slot is done to the one in its place. -/
theorem hub_serve {α : Type} {s : Session} {slot : Nat} {d e : Display} {h' : Hub}
    {act : Serve α} {r : Except Stop α} (held : s.hub.display? slot = some d)
    (run : act (d, s.hub) = (r, e, h')) (reply : α → Reply) (shows : Bool) :
    (s.serve slot act reply shows).2.hub = h'.setSlot slot (some e) := by
  unfold serve withDisplay
  rw [held]
  dsimp only
  rw [run]

/-- Where there is no display, nothing is done. -/
theorem serve_vacant {α : Type} {s : Session} {slot : Nat} (empty : s.hub.display? slot = none)
    (act : Serve α) (reply : α → Reply) (shows : Bool) :
    (s.serve slot act reply shows).2 = s := by
  unfold serve withDisplay
  rw [empty]

theorem liveLedgerMoves_serve {α : Type} {s : Session} {slot : Nat} {act : Serve α}
    {reply : α → Reply} {shows : Bool} (ledgerMoves : ∀ {d r e h'}, act (d, s.hub) = (r, e, h') →
      ∀ l, Hub.LedgerMoves s.hub (d :: l) h' (e :: l)) :
    s.hub.LiveLedgerMoves (s.serve slot act reply shows).2.hub := by
  cases held : s.hub.display? slot with
  | none =>
      rw [serve_vacant held]
      exact Hub.liveLedgerMoves_of_same rfl
  | some d =>
      rcases ending : act (d, s.hub) with ⟨r, e, h'⟩
      rw [hub_serve held ending]
      have served := ledgerMoves ending
      exact fun f n => Hub.moves_serve held (served []).slots fun l => (served l).moves f n

end Session

/-- A step of somebody who leaves the compositor and the tokens to the hub and
    its displays. -/
def Step.ordinary : Step → Bool
  | makeBare _ _ | resolve _ _ | register _ | unregister _ => false
  | takeUp _ _ | leave | chooseMode _ | canRotate _ | grant _ _ | revoke _ => false
  | brighten _ | darken => false
  | _ => true

/-- An ordinary step that takes nothing down, makes nothing fail and brings no
    display into service that was there before. -/
def Step.inLedger : Step → Bool
  | teardown | bringUp _ | setFault _ _ => false
  | step => step.ordinary

namespace Session

/-- Such a step is in the ledger, whatever else is written there. -/
theorem liveLedgerMoves_step (s : Session) {step : Step} (inLedger : step.inLedger = true) :
    s.hub.LiveLedgerMoves (s.step step).2.hub := by
  -- what only asks leaves no entry, and what is done with a display is one entry of it
  cases step with
  | bootstrap =>
      exact Hub.liveLedgerMoves_of_ledgerMoves ((Act.bootstrapHoldings_bootstrap rfl).ledgerMoves _)
  | teardown => nomatch inLedger
  | create v handler => exact liveLedgerMoves_keepCreated Act.created_create
  | createByCode code handler => exact liveLedgerMoves_keepCreated Act.created_createByCode
  | createById id handler => exact liveLedgerMoves_keepCreated Act.created_createById
  | destroy slot => exact liveLedgerMoves_destroySlot s slot
  | setBandwidth mode =>
      exact Hub.liveLedgerMoves_of_ledgerMoves (Act.ledgerMoves_setBandwidth mode s.hub _)
  | limit v => exact Hub.liveLedgerMoves_of_same (Act.holds_of_keeps (Act.keeps_limit v) s.hub)
  | firstInterface =>
      exact Hub.liveLedgerMoves_of_same (Act.holds_of_keeps Act.keeps_firstInterface s.hub)
  | rotates format =>
      exact Hub.liveLedgerMoves_of_same (Act.holds_of_keeps (Act.keeps_rotates format) s.hub)
  | refresh => exact Hub.liveLedgerMoves_of_same (Act.holds_refresh s.hub)
  | cachedTopology => exact Hub.liveLedgerMoves_of_same rfl
  | cachedResource => exact Hub.liveLedgerMoves_of_same rfl
  | inspect slot =>
      change s.hub.LiveLedgerMoves (s.withDisplay slot fun d => (_, s)).2.hub
      unfold withDisplay
      cases s.hub.display? slot with
      | none => exact Hub.liveLedgerMoves_of_same rfl
      | some d => exact Hub.liveLedgerMoves_of_same rfl
  | drop slot =>
      change s.hub.LiveLedgerMoves (s.withDisplay slot fun d => s.change _).2.hub
      unfold withDisplay
      cases held : s.hub.display? slot with
      | none => exact Hub.liveLedgerMoves_of_same rfl
      | some d => exact Hub.liveLedgerMoves_of_give held (Hub.ledgerMoves_drop d _)
  | bringUp slot => nomatch inLedger
  | takeDown slot => exact liveLedgerMoves_serve Serve.ledgerMoves_takeDown
  | setPower slot power => exact liveLedgerMoves_serve Serve.ledgerMoves_setPower
  | stick slot f =>
      refine liveLedgerMoves_serve fun run l => ?_
      obtain ⟨rfl, rfl, rfl⟩ := Serve.ended run
      exact Hub.ledgerMoves_of_move rfl fun _ _ => Move.touch ⟨rfl, rfl, rfl, rfl⟩
  | resolve slot connected => nomatch inLedger
  | register slot => nomatch inLedger
  | unregister slot => nomatch inLedger
  | make v id concrete =>
      refine Hub.liveLedgerMoves_of_add (Hub.ledgerMoves_of_move rfl fun _ _ => Move.make rfl ?_)
      cases v <;> rfl
  | makeBare v id => nomatch inLedger
  | takeUp resource extension => nomatch inLedger
  | leave => nomatch inLedger
  | chooseMode mode => nomatch inLedger
  | canRotate format => nomatch inLedger
  | grant v id => nomatch inLedger
  | revoke place => nomatch inLedger
  | brighten resource => nomatch inLedger
  | darken => nomatch inLedger
  | setDisplays entries => exact Hub.liveLedgerMoves_of_same rfl
  | setResource resource => exact Hub.liveLedgerMoves_of_same rfl
  | setExtension outcome => exact Hub.liveLedgerMoves_of_same rfl
  | setFault call stop => nomatch inLedger
  | changeFiles removes layout => exact Hub.liveLedgerMoves_of_same rfl
  | pipeIgnored => exact Hub.liveLedgerMoves_of_same rfl
  | restorePipe => exact Hub.liveLedgerMoves_of_same rfl
  | wasCalled name => exact Hub.liveLedgerMoves_of_same rfl
  | strikeCalls => exact Hub.liveLedgerMoves_of_same rfl
  | loadExtension => exact Hub.liveLedgerMoves_of_same (Act.holds_of_keeps keeps_tryExtension s.hub)
  | work ids rounds =>
      exact Hub.liveLedgerMoves_of_ledgerMoves (ledgerMoves_workAll rounds ids s.hub _)

/-! ### Runs -/

/-- The session after a sequence of steps. -/
def after (s : Session) (steps : List Step) : Session :=
  steps.foldl (fun s step => (s.step step).2) s

/-- The first of the tokens granted since the compositor last stopped, once a
    step was taken. -/
def floorStep (s : Session) (floor : Nat) : Step → Nat
  | .teardown => s.hub.compositor.nextToken
  | _ => floor

/-- The same after a sequence of steps. A token below it was granted before
    the hub was last taken down. -/
def floorAfter (s : Session) (floor : Nat) : List Step → Nat
  | [] => floor
  | step :: rest => (s.step step).2.floorAfter (s.floorStep floor step) rest

/-- Whether a step makes a display forget its buffer. Only one that brings a
    display into service can. -/
def forgets (s : Session) : Step → Bool
  | .bringUp slot => match s.hub.display? slot with
    | some d => d.forgets s.hub (s.step (.bringUp slot)).2.hub
    | none => false
  | _ => false

theorem forgets_bringUp {s : Session} {slot : Nat} {d e : Display} {r : Except Stop Unit}
    {h' : Hub} (held : s.hub.display? slot = some d)
    (run : Serve.bringUp (d, s.hub) = (r, e, h')) :
    s.forgets (.bringUp slot) = d.forgets s.hub h' := by
  have served : (s.step (.bringUp slot)).2.hub = h'.setSlot slot (some e) :=
    hub_serve held run _ _
  simp only [forgets, held, served]
  rfl

/-- How many buffers are forgotten in a sequence of steps, on top of those that
    were before. -/
def lostAfter (s : Session) (lost : Nat) : List Step → Nat
  | [] => lost
  | step :: rest => (s.step step).2.lostAfter (lost + (s.forgets step).toNat) rest

/-- Every ordinary step is in the ledger, unless it makes something fail. -/
theorem moves_step (s : Session) {step : Step} (ordinary : step.ordinary = true)
    (calm : ∀ call stop, step ≠ .setFault call stop) (f n : Nat) :
    Moves (s.ledger f n)
      ((s.step step).2.ledger (s.floorStep f step) (n + (s.forgets step).toNat)) := by
  by_cases inLedger : step.inLedger = true
  · -- a step in the ledger moves no floor and forgets no buffer
    have floor : s.floorStep f step = f := by
      cases step <;> first | rfl | nomatch inLedger
    have lost : s.forgets step = false := by
      cases step <;> first | rfl | nomatch inLedger
    rw [floor, lost]
    exact liveLedgerMoves_step s inLedger f n
  · cases step with
    | teardown =>
        -- all tokens are taken back at once, whoever holds one
        have down := Hub.holdings_teardown s.hub
        have stock : s.hub.teardown.stock = s.hub.stock.takenDown := congrArg Prod.fst down
        have live : s.hub.teardown.live = s.hub.live :=
          congrArg (fun held => held.2.filterMap id) down
        change Moves _ ⟨s.hub.teardown.live, s.hub.teardown.stock, s.hub.compositor.nextToken, n⟩
        rw [stock, live]
        exact Relation.ReflTransGen.single Move.stop
    | bringUp slot =>
        cases held : s.hub.display? slot with
        | none =>
            have lost : s.forgets (.bringUp slot) = false := by
              simp only [forgets, held]
            have stays : (s.step (.bringUp slot)).2 = s := serve_vacant held _ _ _
            rw [lost, stays]
            exact Relation.ReflTransGen.refl
        | some d =>
            -- the one step that can forget a buffer, and the entry says whether it did
            rcases ending : Serve.bringUp (d, s.hub) with ⟨r, e, h'⟩
            have raised := Serve.bringUpOutcome_bringUp ending
            have served : (s.step (.bringUp slot)).2.hub = h'.setSlot slot (some e) :=
              hub_serve held ending _ _
            unfold ledger
            rw [forgets_bringUp held ending, served]
            exact Hub.moves_serve held raised.slots fun l =>
              Relation.ReflTransGen.single (Move.bringUp raised)
    | setFault call stop => exact absurd rfl (calm call stop)
    | _ => exact absurd ordinary inLedger

/-- A fault that is set changes nothing else. In a scripted session it may be
    set by a description that cannot be had. -/
theorem ledger_setFault (s : Session) (call : Call) (stop : Option Stop) (f n : Nat) :
    (s.setFault call stop).2.ledger f n = s.ledger f n ∨
      (s.setFault call stop).2.ledger f n = { s.ledger f n with
        stock.faults := fun c => if c = call then stop else s.hub.faults c } := by
  unfold setFault
  split
  · exact Or.inl rfl
  · exact Or.inr rfl

section Upholding

variable {P : Ledger → Prop} (allowed : Step → Prop) (kept : ∀ {a b}, Move a b → P a → P b)
  (faults : ∀ {a : Ledger} {call stop}, allowed (.setFault call stop) → P a →
    P { a with stock.faults := fun c => if c = call then stop else a.stock.faults c })
  {s : Session} {f n : Nat}

include kept faults

/-- What an entry in the ledger upholds, and a fault that is set, every step does. -/
theorem upholds_step {step : Step} (before : P (s.ledger f n)) (ordinary : step.ordinary = true)
    (allowing : allowed step) : P ((s.step step).2.ledger (s.floorStep f step)
      (n + (s.forgets step).toNat)) := by
  by_cases fault : ∃ call stop, step = .setFault call stop
  · obtain ⟨call, stop, rfl⟩ := fault
    change P ((s.setFault call stop).2.ledger f n)
    rcases ledger_setFault s call stop f n with same | set
    · rw [same]
      exact before
    · rw [set]
      exact faults allowing before
  · have calm (call : Call) (stop : Option Stop) : step ≠ .setFault call stop :=
      fun same => fault ⟨call, stop, same⟩
    exact (moves_step s ordinary calm f n).upholds kept before

/-- And so does a whole run. -/
theorem upholds_after {steps : List Step} (before : P (s.ledger f n))
    (ordinary : ∀ step ∈ steps, step.ordinary = true)
    (allowing : ∀ step ∈ steps, allowed step) :
    P ((s.after steps).ledger (s.floorAfter f steps) (s.lostAfter n steps)) := by
  -- the first step starts the rest from another session, floor and loss
  induction steps generalizing s f n with
  | nil => exact before
  | cons step rest ih =>
      have one := upholds_step allowed kept faults before (ordinary step List.mem_cons_self)
        (allowing step List.mem_cons_self)
      exact ih one (fun step later => ordinary step (List.mem_cons_of_mem _ later))
        fun step later => allowing step (List.mem_cons_of_mem _ later)

end Upholding

end Session

/-! ### The beginning -/

/-- A hub that nobody has used. -/
structure Hub.Fresh (h : Hub) : Prop where
  compositor : h.compositor = {}
  core : h.core = {}
  slots : h.slots = []
  outstanding : h.allocator.outstanding = 0

namespace Session

theorem fresh_recording (extension : Bool) (resource : Resource) (entries : List Entry)
    (limit : Option Nat) : (recording extension resource entries limit).hub.Fresh :=
  ⟨rfl, rfl, rfl, by cases limit <;> rfl⟩

theorem fresh_scripted (extension : Except Failure Bool) (resource : Resource)
    (entries : List Entry) (limit : Option Nat) :
    (scripted extension resource entries limit).hub.Fresh :=
  ⟨rfl, rfl, rfl, by cases limit <;> rfl⟩

theorem fresh_configured {storage : Storage} {path : String} {override : Option String}
    {s : Session} (loaded : configured storage path override = .ok s) : s.hub.Fresh := by
  unfold configured at loaded
  dsimp only at loaded
  split at loaded
  · nomatch loaded
  · obtain rfl := Except.ok.inj loaded
    exact ⟨rfl, rfl, rfl, rfl⟩

/-- A session on hardware of which one panel is reported. -/
def bench : Session :=
  recording false {} [.scripted 0 .builtIn true] none

/-- Nobody holds anything of a hub that nobody has used. -/
theorem ledger_of_fresh {s : Session} (fresh : s.hub.Fresh) : s.ledger 0 0 =
    ⟨[], ⟨{}, s.hub.allocator, false, none, s.hub.faults⟩, 0, 0⟩ := by
  unfold ledger Hub.ledger Hub.stock Hub.live Hub.initialized
  rw [fresh.compositor, fresh.core, fresh.slots]
  rfl

end Session

end DisplayHub
