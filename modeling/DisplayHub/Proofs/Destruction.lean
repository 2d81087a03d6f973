import DisplayHub.Proofs.Leftover
import DisplayHub.Proofs.Ordering
import DisplayHub.Proofs.Writeback

/-!
# Destroying Displays

What it leaves behind when a display is destroyed.

A display returns what it holds in two places, when it leaves service and when it is
let go, and it is destroyed by doing the one and then the other. If leaving service
fails, all is returned at the end. If it succeeds, the display holds nothing any more
by then. That nothing is returned twice is therefore not a matter of order: a place
that returns something takes it from the display, and a display that has nothing
returns nothing. The count of buffers cannot show this by itself, since one that runs
down to nothing stays there. The allocator also notes every buffer that it takes back,
though, and its notes are compared one by one (`Hub.handled_decommission`).

The note is another one if nothing was outstanding. This does not happen to a display
that holds a buffer, whatever was done before: `Ledger.Counted` is the part of
`Ledger.Stored` that holds even after a collaborator brought the program down half
way, when it is no longer true that whoever holds a buffer is in service.

A display whose token is from before the hub went down returns it like any other.
Nothing is active under it, and no other display has it, so nobody loses anything.

## Main definitions

* `Hub.handled`: What the allocator noted of buffers.
* `Display.receipts`: What it notes when a display returns its buffer.
* `Hub.DestroysSlot`: What comes of destroying a display.

## Theorems

* `Ledger.Counted.move`: No entry in the ledger miscounts the buffers.
* `Hub.handled_decommission`: A buffer is taken back once.
* `Session.destroysSlot_after`: Destroying, after every run.
-/

namespace DisplayHub

/-! ### The count -/

namespace Ledger.Counted

variable {l l' : List Display} {s s' : Stock} {f n n' : Nat} {d e : Display}

/-- Where the display that is replaced holds a buffer as before, nothing else may have
    been handed out. -/
theorem keep {h h' : Hub} (before : Counted ⟨d :: l, h.stock, f, n⟩)
    (allocator : h'.allocator = h.allocator) (stores : e.stores = d.stores) :
    Counted ⟨e :: l, h'.stock, f, n + (d.forgets h h').toNat⟩ := by
  rw [Display.forgets_of_kept allocator]
  refine before.replace ?_
  change h'.allocator.outstanding + _ + _ = h.allocator.outstanding + _ + _
  rw [allocator, stores]
  rfl

/-- A display that is handed a buffer forgets the one that it had. -/
theorem equip {h h' : Hub} (before : Counted ⟨d :: l, h.stock, f, n⟩)
    (issued : h'.allocator = h.allocator.issue) (stores : e.stores = true) :
    Counted ⟨e :: l, h'.stock, f, n + (d.forgets h h').toNat⟩ := by
  have next : h'.allocator.nextId = h.allocator.nextId + 1 := by
    rw [issued]
    rfl
  rw [Display.forgets_of_issued next]
  refine before.replace ?_
  rw [stores]
  change h'.allocator.outstanding + _ + _ = h.allocator.outstanding + 1 + _
  rw [issued]
  change h.allocator.outstanding + 1 + d.stores.toNat + n = _
  omega

/-- Whatever comes of bringing a display into service, the buffers are counted. -/
theorem raise {h h' : Hub} {r : Except Stop Unit} (before : Counted ⟨d :: l, h.stock, f, n⟩)
    (raised : Serve.BringUpOutcome d h r e h') :
    Counted ⟨e :: l, h'.stock, f, n + (d.forgets h h').toNat⟩ := by
  cases raised with
  | bare => exact before.keep rfl rfl
  | missed _ _ same => exact before.keep (Hub.allocator_of_ground same) rfl
  | unregistered _ _ _ _ same => exact before.keep (Hub.allocator_of_ground same) rfl
  | served entry _ panel resting _ dealt =>
      refine before.keep (Hub.allocator_of_ground dealt) ?_
      have same : (d.body.served entry).variant = d.variant := Body.variant_served entry d.body
      rw [Display.stores_of_panel panel]
      refine Display.stores_of_panel ?_
      change (d.body.served entry).variant ≠ .offscreen
      rw [same]
      exact panel
  | wasted _ b _ kind dealt =>
      -- the buffer that was handed out is back, and the one before is lost
      have allocator := Hub.allocator_of_ground dealt
      have issued : h'.allocator.nextId = h.allocator.nextId + 1 := by
        rw [allocator]
        rfl
      rw [Display.forgets_of_issued issued]
      refine before.replace ?_
      change h'.allocator.outstanding + d.stores.toNat + n =
        h.allocator.outstanding + 0 + (n + d.stores.toNat)
      rw [allocator]
      change h.allocator.outstanding + d.stores.toNat + n = _
      omega
  | abandoned b _ kind _ _ dealt => exact before.equip (Hub.allocator_of_ground dealt) rfl
  | composed b _ kind resting _ dealt => exact before.equip (Hub.allocator_of_ground dealt) rfl

/-- No entry in the ledger miscounts the buffers. -/
theorem move {a b : Ledger} (move : a.Move b) (before : a.Counted) : b.Counted := by
  cases move with
  | reorder same => exact before.perm same
  | make _ empty => exact before.cons (Display.stores_of_empty empty)
  | touch alike =>
      refine before.replace ?_
      rw [show Display.stores _ = Display.stores _ from congrArg Option.isSome alike.writeback]
  | bringUp raised => exact before.raise raised
  | @takeDown _ _ _ _ d =>
      have empty : d.shelved.writeback? = none := by
        unfold Display.shelved
        cases d.body <;> rfl
      exact (before.drop _).cons (Display.stores_of_empty empty)
  | drop => exact before.drop _
  -- what is done with the compositor alone counts no buffers
  | start _ => exact before
  | rise _ => exact before
  | setMode _ => exact before
  | stop => exact before

end Ledger.Counted

namespace Session

theorem counted_step {s : Session} {f n : Nat} {step : Step} (counted : (s.ledger f n).Counted)
    (ordinary : step.ordinary = true) : ((s.step step).2.ledger (s.floorStep f step)
      (n + (s.forgets step).toNat)).Counted :=
  upholds_step (fun _ => True) Ledger.Counted.move (fun _ counted => counted) counted ordinary
    trivial

/-- Whatever was done, what is outstanding is what displays hold and what was
    forgotten. -/
theorem counted_after {s : Session} (fresh : s.hub.Fresh) {steps : List Step}
    (ordinary : ∀ step ∈ steps, step.ordinary = true) :
    ((s.after steps).ledger (s.floorAfter 0 steps) (s.lostAfter 0 steps)).Counted := by
  have before : (s.ledger 0 0).Counted := by
    rw [ledger_of_fresh fresh]
    exact fresh.outstanding
  exact upholds_after (fun _ => True) Ledger.Counted.move (fun _ counted => counted) before
    ordinary fun _ _ => trivial

end Session

namespace Hub

variable {h : Hub} {slot : Nat} {d : Display}

/-- A buffer that a display in a slot holds is counted. -/
theorem outstanding_of_held {f n : Nat} (counted : (h.ledger h.live f n).Counted)
    (held : h.display? slot = some d) (stores : d.stores = true) :
    0 < h.allocator.outstanding := by
  have one : 0 < h.live.countP Display.stores :=
    List.countP_pos_iff.mpr ⟨d, mem_live_iff.mpr ⟨slot, held⟩, stores⟩
  have total : h.allocator.outstanding = h.live.countP Display.stores + n := counted
  omega

/-! ### The allocator's notes -/

/-- What the allocator noted of the buffers that it handed out and took back. Nobody
    else writes notes of this weight, but for the search for connectors. -/
def handled (h : Hub) : List Note :=
  h.journal.notes.filter fun n => n.level = .trace

theorem handled_add (h : Hub) (r : Record) :
    handled { h with journal := h.journal.add r } =
      h.handled ++ r.note?.toList.filter fun n => n.level = .trace := by
  have added : (h.journal.add r).notes = h.journal.notes ++ r.note?.toList := by
    unfold Journal.notes Journal.add
    rw [Array.toList_push, List.filterMap_append]
    cases r <;> rfl
  unfold handled
  rw [added, List.filter_append]

theorem handled_note {level : Level} (other : level ≠ .trace) (text : String) (h : Hub) :
    (h.note level text).handled = h.handled := by
  refine (h.handled_add _).trans ?_
  rw [Record.note?, Option.toList_some, List.filter_cons_of_neg (by simpa using other)]
  exact List.append_nil _

theorem handled_recordCall (call : Call) (h : Hub) :
    (h.recordCall call).handled = h.handled :=
  (h.handled_add _).trans (List.append_nil _)

theorem handled_noteAll (notes : List Note) (h : Hub) : (h.noteAll notes).handled =
    h.handled ++ notes.filter fun n => n.level = .trace := by
  have added : (h.journal.addAll (notes.map .note)).notes = h.journal.notes ++ notes := by
    have all : (notes.map Record.note).filterMap Record.note? = notes := by
      simp [List.filterMap_map, Function.comp_def, Record.note?]
    unfold Journal.notes Journal.addAll
    rw [Array.toList_appendList, List.filterMap_append, all]
  unfold handled noteAll
  dsimp only
  rw [added, List.filter_append]

end Hub

namespace Display

variable {d e : Display} {h g : Hub}

/-- What the allocator notes when a display returns its buffer, if it has one. -/
def receipts (d : Display) (a : Allocator) : List Note :=
  match d.writeback? with
  | none => []
  | some buffer => (a.freeNotes buffer).filter fun n => n.level = .trace

theorem receipts_of_empty (empty : d.writeback? = none) (a : Allocator) : d.receipts a = [] := by
  unfold receipts
  rw [empty]

/-- As long as something is outstanding, a buffer that is returned is noted by its
    number. -/
theorem receipts_of_outstanding {a : Allocator} (some_out : d.stores = true → 0 < a.outstanding) :
    d.receipts a = d.writeback?.toList.map fun buffer =>
      ⟨.trace, "HeapBufferAllocator: freed buffer " ++ toString buffer.id⟩ := by
  unfold receipts
  unfold stores at some_out
  cases held : d.writeback? with
  | none => rfl
  | some buffer =>
      rw [held] at some_out
      have out : ¬ a.outstanding = 0 := Nat.pos_iff_ne_zero.mp (some_out rfl)
      dsimp only
      unfold Allocator.freeNotes
      rw [if_neg out]
      rfl

theorem handled_returnToken (d : Display) (h : Hub) : (d.returnToken h).2.handled = h.handled := by
  unfold returnToken
  cases d.token with
  | none => rfl
  | some token =>
      refine (Hub.handled_note (by decide) _ _).trans
        (Eq.trans ?_ (h.handled_recordCall .unregister))
      change ((h.recordCall .unregister).revoke token).handled = _
      unfold Hub.revoke
      dsimp only
      split
      · rfl
      · exact Hub.handled_note (by decide) _ _

theorem handled_returnWriteback (d : Display) (h : Hub) :
    (d.returnWriteback h).2.handled = h.handled ++ d.receipts h.allocator := by
  unfold returnWriteback receipts
  cases d.writeback? with
  | none => exact (List.append_nil _).symm
  | some buffer =>
      have other : Level.debug ≠ .trace := by decide
      refine (Hub.handled_noteAll _ _).trans (congrArg (· ++ _) ?_)
      exact Hub.handled_note other _ h

/-- An off-screen display that returned its buffer has none to return. -/
theorem handled_returnWriteback_once {b : Option Buffer} (kind : d.body = .offscreen b) (h : Hub) :
    (d.returnWriteback h).2.handled ++
      (d.returnWriteback h).1.receipts (d.returnWriteback h).2.allocator =
        h.handled ++ d.receipts h.allocator := by
  have empty : (d.returnWriteback h).1.writeback? = none := by
    rw [returnWriteback_fst kind]
    rfl
  rw [receipts_of_empty empty, List.append_nil, handled_returnWriteback]

/-- A display that is let go has its buffer noted, if it has one still. -/
theorem handled_drop (d : Display) (h : Hub) :
    (d.drop h).handled = h.handled ++ d.receipts h.allocator := by
  rw [← handled_returnWriteback]
  unfold drop
  dsimp only
  rw [handled_returnToken]
  split
  · exact Hub.handled_note (by decide) _ _
  · rfl

end Display

namespace Serve

variable {d e : Display} {h g : Hub} {r : Except Stop Unit}

/-- A display that retires has no buffer noted, since it keeps it. -/
theorem handled_retire (d : Display) (h : Hub) : (retire (d, h)).2.2.handled = h.handled := by
  by_cases inService : d.initialized = true
  · let off : Display := { d with power := .off }
    have ran : (retire (d, h)).2.2 =
        (off.returnToken h).2.note .info ("Display " ++ d.name ++ ": deinitialized") := by
      unfold retire
      change ((ite ((!d.initialized) = true) (fail .notInitialized >>= _) _ : Serve Unit)
        (d, h)).2.2 = _
      rw [inService]
      rfl
    rw [ran, Hub.handled_note (by decide)]
    exact off.handled_returnToken h
  · rw [retire_idle (Bool.not_eq_true _ ▸ inService)]

/-- What leaving service has noted of a buffer, and what letting go of the display has
    noted of it afterwards, is one note together. -/
theorem handled_takeDown (run : takeDown (d, h) = (r, e, g)) :
    g.handled ++ e.receipts g.allocator = h.handled ++ d.receipts h.allocator := by
  unfold takeDown at run
  rw [display_bind] at run
  dsimp only at run
  cases free : d.stuck with
  | some f =>
      rw [free] at run
      obtain ⟨-, rfl, rfl⟩ := ended run
      rfl
  | none =>
      rw [free] at run
      dsimp only at run
      by_cases inService : d.initialized = true
      · obtain ⟨u, retired, dealt⟩ := retire_apply inService h
        have inLedger : u.handled = h.handled := by
          have same := handled_retire d h
          rw [retired] at same
          exact same
        have allocator : u.allocator = h.allocator := Hub.allocator_of_ground dealt
        rw [bind_apply, retired] at run
        dsimp only at run
        -- only an off-screen display has a buffer to return on the way
        rcases d with ⟨body, id, handler, provider, token, power, concrete, stuck⟩
        cases body with
        | bare v =>
            obtain ⟨-, rfl, rfl⟩ := ended run
            rw [inLedger]
            rfl
        | builtIn primary =>
            obtain ⟨-, rfl, rfl⟩ := ended run
            rw [inLedger]
            rfl
        | pluggable connector =>
            obtain ⟨-, rfl, rfl⟩ := ended run
            rw [inLedger]
            rfl
        | offscreen b =>
            obtain ⟨-, rfl, rfl⟩ := ended run
            refine (Display.handled_returnWriteback_once rfl u).trans ?_
            rw [inLedger, allocator]
            rfl
      · rw [Bool.not_eq_true] at inService
        rw [bind_apply, retire_idle inService] at run
        obtain ⟨-, rfl, rfl⟩ := ended run
        rfl

end Serve

/-- A buffer that a display holds is noted once when the display is destroyed, whether
    it returns it on leaving service or afterwards. -/
theorem Hub.handled_decommission (d : Display) (h : Hub) :
    (Act.decommission d h).2.handled = h.handled ++ d.receipts h.allocator := by
  unfold Act.decommission
  rcases ending : Serve.takeDown (d, h) with ⟨(f | _) | _, e, g⟩
  -- however it ended, what it did not take back is taken back afterwards
  all_goals rw [← Serve.handled_takeDown ending, ← e.handled_drop g]
  · exact Hub.handled_note (by decide) _ _
  · exact Hub.handled_note (by decide) _ _

/-- What comes of destroying the display in a slot: the answer, and the hub. -/
structure Hub.DestroysSlot (h : Hub) (slot : Nat) (d : Display) (r : Except Stop Unit) (u : Hub) :
    Prop where
  /-- Whoever destroys it is answered what leaving service comes to. -/
  answer : r = (Serve.takeDown (d, h)).1
  /-- It is active no more, and whatever has another token stays. -/
  revoked : ∀ token, d.token = some token → u.compositor.knows token = false
  active : u.compositor.active = h.compositor.active.filter fun a => d.token ≠ some a.token
  /-- Its token was its own, so every other display is active as it was. -/
  others : ∀ place e a, place ≠ slot → h.display? place = some e → e.token = some a.token →
    (a ∈ u.compositor.active ↔ a ∈ h.compositor.active)
  /-- Its buffer is off the allocator's count, -/
  counted : u.allocator.outstanding + d.stores.toNat = h.allocator.outstanding
  /-- and was taken back once. -/
  noted : u.handled = h.handled ++ d.writeback?.toList.map fun buffer =>
    ⟨.trace, "HeapBufferAllocator: freed buffer " ++ toString buffer.id⟩
  /-- What the hub knows is as it was, and so is everything else but the journal. -/
  core : u.core = h.core
  rest : u.unlogged = { (h.setSlot slot none).unlogged with
    compositor := { h.compositor with active := u.compositor.active }
    allocator := { h.allocator with outstanding := u.allocator.outstanding } }

namespace Hub

variable {h u : Hub} {slot floor lost : Nat} {d : Display}

/-- A token that was returned is not known. -/
theorem knows_release {token : Nat} {c : Compositor} (held : d.token = some token) :
    (d.release c).knows token = false := by
  unfold Display.release
  rw [held]
  refine List.any_eq_false.mpr fun a among => ?_
  simpa using List.of_mem_filter among

theorem active_release (d : Display) (c : Compositor) :
    (d.release c) = { c with active := c.active.filter fun a => d.token ≠ some a.token } := by
  unfold Display.release
  cases d.token with
  | none => simp
  | some token =>
      have same (a : Active) : decide (a.token ≠ token) = decide (some token ≠ some a.token) := by
        simp [eq_comm]
      dsimp only
      unfold Compositor.unregister
      simp only [same]

/-- A display in a slot is destroyed, whatever the hub and the display are like, if tokens
    are held by one display each and every buffer is counted. -/
theorem destroysSlot_of_held (held : h.display? slot = some d)
    (distinct : (h.live.filterMap Display.token).Nodup)
    (counted : (h.ledger h.live floor lost).Counted) :
    h.DestroysSlot slot d (Act.destroy (some d) (h.setSlot slot none)).1
      (Act.destroy (some d) (h.setSlot slot none)).2 := by
  have left := Act.unlogged_destroy d (h.setSlot slot none)
  have compositor : (Act.destroy (some d) (h.setSlot slot none)).2.compositor =
      d.release h.compositor := congrArg Hub.compositor left
  have allocator : (Act.destroy (some d) (h.setSlot slot none)).2.allocator =
      d.vacate h.allocator := congrArg Hub.allocator left
  have some_out := outstanding_of_held counted held
  have core := congrArg Hub.core left
  refine ⟨?_, ?_, ?_, ?_, ?_, ?_, core, ?_⟩
  · rw [Act.destroy_answer, Serve.takeDown_answer]
  · intro token taken
    rw [compositor]
    exact knows_release taken
  · rw [compositor, active_release]
  · intro place e a other there theirs
    -- no two displays hold the same token, so this one is not taken back
    have own : d.token ≠ some a.token := fun same =>
      other (slot_unique distinct there held theirs same)
    rw [compositor, active_release, List.mem_filter]
    exact and_iff_left (decide_eq_true own)
  · rw [allocator]
    unfold Display.vacate
    unfold Display.stores at some_out ⊢
    cases buffer : d.writeback? with
    | none => rfl
    | some b =>
        rw [buffer] at some_out
        exact Nat.sub_add_cancel (some_out rfl)
  · rw [← Display.receipts_of_outstanding some_out]
    exact handled_decommission d (h.setSlot slot none)
  · have rest : d.vacate h.allocator =
        { h.allocator with outstanding := (d.vacate h.allocator).outstanding } := by
      unfold Display.vacate
      cases d.writeback? <;> rfl
    have work : d.release h.compositor =
        { h.compositor with active := (d.release h.compositor).active } := by
      rw [active_release]
    rw [left, compositor, allocator, ← rest, ← work]
    rfl

end Hub

namespace Session

/-- Whatever was done before, the display in a slot can be destroyed. It answers as it
    would to being taken out of service, and in every case it leaves nothing behind
    and takes nothing along that is not its own. -/
theorem destroysSlot_after {s : Session} (fresh : s.hub.Fresh) {steps : List Step}
    (ordinary : ∀ step ∈ steps, step.ordinary = true) {slot : Nat} {d : Display}
    (held : (s.after steps).hub.display? slot = some d) :
    ∃ r u, (s.after steps).step (.destroy (some slot)) =
        (.ofResult (fun _ => .nothing) r, { s.after steps with hub := u }) ∧
      (s.after steps).hub.DestroysSlot slot d r u := by
  refine ⟨_, _, ?_, Hub.destroysSlot_of_held held (accounted_after fresh ordinary).distinct
    (counted_after fresh ordinary)⟩
  have found : (some slot).bind (s.after steps).hub.display? = some d := held
  change (s.after steps).destroySlot (some slot) = _
  unfold destroySlot
  rw [found]
  rfl

/-- An off-screen display is held while the hub goes down, and made to fail. -/
def stuckHandle : List Step :=
  [.bootstrap, .create .offscreen (some .record), .teardown, .stick 0 .memory]

/-- It fails to leave service, and is gone with its buffer all the same. -/
theorem destroysSlot_after_stuck : bench.hub.Fresh ∧ (∀ step ∈ stuckHandle, step.ordinary = true) ∧
    ∃ d, (bench.after stuckHandle).hub.display? 0 = some d ∧ d.initialized = true ∧
      d.stores = true ∧ ∃ r u, (bench.after stuckHandle).hub.DestroysSlot 0 d r u ∧
        r = .error (.failure .memory) ∧ u.allocator.outstanding = 0 := by
  have fresh : bench.hub.Fresh := fresh_recording _ _ _ _
  have ordinary : ∀ step ∈ stuckHandle, step.ordinary = true := by decide
  have held : ∃ d, (bench.after stuckHandle).hub.display? 0 = some d ∧ d.initialized = true ∧
      d.stores = true ∧ d.stuck = some .memory := ⟨_, rfl, rfl, rfl, rfl⟩
  obtain ⟨d, held, serves, stores, stuck⟩ := held
  refine ⟨fresh, ordinary, d, held, serves, stores, ?_⟩
  obtain ⟨r, u, -, destroysSlot⟩ := destroysSlot_after fresh ordinary held
  refine ⟨r, u, destroysSlot, ?_, ?_⟩
  · rw [destroysSlot.answer, Serve.takeDown_answer]
    unfold Display.destroyAnswer
    rw [stuck]
  · have counted := destroysSlot.counted
    rw [stores] at counted
    have before : (bench.after stuckHandle).hub.allocator.outstanding = 1 := rfl
    rw [before, Bool.toNat_true] at counted
    omega

end Session

end DisplayHub
