import DisplayHub.Proofs.Capacity
import DisplayHub.Proofs.Registration
import DisplayHub.Proofs.Reset
import Mathlib.Data.Nat.Nth

/-!
# Leftover Displays

What displays from before the hub went down can do to a hub that is up again.

Going down revokes every token, but a display that somebody holds keeps the one
it had. It takes itself for a display in service, so it can be switched, taken
down, destroyed and dropped, and each of these may return the token. Tokens are
numbered on through the compositor's whole life (`Hub.issued_rising`), so this
one names nothing any more, and returning it changes nothing (`Hub.OnlySlotChanges`).

That nobody else can tell is about two runs, with different things done to the
displays that are left over. They are not compared with each other. Both are
compared with a third session that never had these displays
(`Session.SameWithout`): there, the steps on them are not taken, and all others are
taken in the slots that the displays are in there. That every other step goes
alike in both sessions was shown for sessions that are images (`Session.SameUpTo`),
and a step on a display that is left over leaves images behind without being
taken on the other side.

One thing has to be left out. Once it was taken down, a display can be brought
into service again, and then it holds a token that counts. A run that does this
goes another way if it did not take the display down before
(`Session.changed_by_reinit`).

## Main definitions

* `Step.slot?`, `Step.avoids`: Which display a step is about.
* `Hub.SlotsKept`: The other displays stay in their slots.
* `Hub.OnlySlotChanges`: What is done with a display shows nowhere else.
* `Session.OldTokensOnly`: Displays whose tokens count no more.
* `Session.answersApartFrom`: What everybody else is answered.
* `Session.SameWithout`: The image of a session that never had some displays.
* `Session.SameApartFrom`: Two sequences of steps that go the same way.

## Theorems

* `Session.slotsKept_step`: A step moves no display but its own.
* `Session.onlySlotChanges_of_gone`, `Session.onlySlotChanges_takeDown`,
  `Session.onlySlotChanges_setPower`: What is done with such a display deals
  nothing out.
* `Session.onlySlotChanges_step`: Where a token counts no more, a step shows nowhere else.
* `Session.OldTokensOnly.step`: Old tokens stay the only ones.
* `Session.SameWithout.run`: A run goes as it does without the displays.
* `Session.sameApartFrom_after`: Tokens are issued once, and what is left over
  disturbs nobody.
-/

namespace DisplayHub

/-! ### Steps and slots -/

namespace Step

/-- The slot of the display that a step is about. -/
def slot? : Step → Option Nat
  | destroy slot => slot
  | inspect slot | drop slot | bringUp slot | takeDown slot | setPower slot _ | stick slot _ => slot
  | resolve slot _ | register slot | unregister slot => slot
  | _ => none

/-- Whether a step is about none of some displays. -/
def avoids (slots : List Nat) (step : Step) : Bool :=
  step.slot?.all fun slot => slot ∉ slots

/-- A step that is moved to another slot and back is the same. -/
theorem reseat_reseat {place seat : Nat → Nat} {step : Step}
    (back : ∀ slot, step.slot? = some slot → seat (place slot) = slot) :
    (step.reseat place).reseat seat = step := by
  cases step with
  | destroy slot =>
      cases slot with
      | none => rfl
      | some slot => exact congrArg (fun n => destroy (some n)) (back slot rfl)
  | inspect slot => exact congrArg inspect (back slot rfl)
  | drop slot => exact congrArg drop (back slot rfl)
  | bringUp slot => exact congrArg bringUp (back slot rfl)
  | takeDown slot => exact congrArg takeDown (back slot rfl)
  | setPower slot power => exact congrArg (setPower · power) (back slot rfl)
  | stick slot failure => exact congrArg (stick · failure) (back slot rfl)
  | resolve slot connected => exact congrArg (resolve · connected) (back slot rfl)
  | register slot => exact congrArg register (back slot rfl)
  | unregister slot => exact congrArg unregister (back slot rfl)
  | _ => rfl

theorem about_of_not_avoids {slots : List Nat} {step : Step}
    (touches : ¬ step.avoids slots = true) : ∃ slot, step.slot? = some slot ∧ slot ∈ slots := by
  unfold avoids at touches
  cases about : step.slot? with
  | none => simp [about] at touches
  | some slot => exact ⟨slot, rfl, by simpa [about] using touches⟩

theorem plain_reseat (seat : Nat → Nat) (step : Step) : (step.reseat seat).plain = step.plain := by
  cases step <;> rfl

theorem ordinary_of_plain {step : Step} (plain : step.plain = true) : step.ordinary = true := by
  cases step <;> first | rfl | nomatch plain

end Step

namespace Hub

/-- The displays stay in their slots, but for one, and new ones get new slots. -/
structure SlotsKept (slot? : Option Nat) (h h' : Hub) : Prop where
  longer : h.slots.length ≤ h'.slots.length
  others : ∀ i, slot? ≠ some i → i < h.slots.length → h'.display? i = h.display? i

variable {slot? : Option Nat} {h h' u : Hub}

theorem slotsKept_of_slots (same : h'.slots = h.slots) : SlotsKept slot? h h' where
  longer := Nat.le_of_eq (congrArg List.length same.symm)
  others i _ _ := by
    unfold display?
    rw [same]

theorem SlotsKept.trans_slots (slotsKept : SlotsKept slot? h h') (same : u.slots = h'.slots) :
    SlotsKept slot? h u where
  longer := by
    rw [same]
    exact slotsKept.longer
  others i other inside := by
    rw [← slotsKept.others i other inside]
    unfold display?
    rw [same]

theorem slotsKept_setSlot (slot : Nat) (d : Option Display) (h : Hub) :
    SlotsKept (some slot) h (h.setSlot slot d) where
  longer := Nat.le_of_eq List.length_set.symm
  others i other _ := by
    rw [display?_setSlot, if_neg fun both => other (congrArg some both.1.symm)]

theorem slotsKept_addSlot (d : Display) (h : Hub) : SlotsKept slot? h (h.addSlot d) where
  longer := by
    unfold addSlot
    rw [List.length_append]
    exact Nat.le_add_right _ _
  others i _ inside := by
    rw [display?_addSlot, if_neg (Nat.ne_of_lt inside)]

end Hub

namespace Session

variable {s : Session}

theorem slotsKept_keepCreated {act : Act Display} (keeps : Keeps Hub.slots act) (s : Session) :
    s.hub.SlotsKept none (s.keepCreated act).2.hub := by
  have slots := keeps s.hub
  unfold keepCreated run
  rcases ending : act s.hub with ⟨_ | d, h'⟩
  all_goals rw [ending] at slots
  · exact Hub.slotsKept_of_slots slots
  · have same : Hub.SlotsKept none s.hub h' := Hub.slotsKept_of_slots slots
    have added : Hub.SlotsKept none h' (h'.addSlot d) := Hub.slotsKept_addSlot d h'
    exact ⟨Nat.le_trans same.longer added.longer, fun i other inside =>
      (added.others i other (Nat.lt_of_lt_of_le inside same.longer)).trans
        (same.others i other inside)⟩

theorem slotsKept_serve {α : Type} {act : Serve α} (keeps : Keeps (Hub.hubView Hub.slots) act)
    (s : Session) (slot : Nat) (reply : α → Reply) (shows : Bool) :
    s.hub.SlotsKept (some slot) (s.serve slot act reply shows).2.hub := by
  cases held : s.hub.display? slot with
  | none =>
      rw [serve_vacant held]
      exact Hub.slotsKept_of_slots rfl
  | some d =>
      have slots := keeps (d, s.hub)
      rcases ending : act (d, s.hub) with ⟨r, e, h'⟩
      rw [ending] at slots
      rw [hub_serve held ending]
      refine (Hub.slotsKept_setSlot slot (some e) s.hub).trans_slots ?_
      exact congrArg (·.set slot (some e)) slots

/-- An ordinary step moves no display but the one it is about. -/
theorem slotsKept_step (s : Session) {step : Step} (ordinary : step.ordinary = true) :
    s.hub.SlotsKept step.slot? (s.step step).2.hub := by
  have ignores := Hub.ignoresService_slots
  -- a step is about one slot at most, and writes in no other one
  cases step with
  | create v handler => exact slotsKept_keepCreated (ignores.create v handler) s
  | createByCode code handler => exact slotsKept_keepCreated (ignores.createByCode code handler) s
  | createById id handler => exact slotsKept_keepCreated (ignores.createById id handler) s
  | destroy slot =>
      cases slot with
      | none => exact Hub.slotsKept_of_slots rfl
      | some slot =>
          exact (Hub.slotsKept_setSlot slot none s.hub).trans_slots
            (ignores.destroy (s.hub.display? slot) _)
  | drop slot =>
      change s.hub.SlotsKept _ (s.withDisplay slot fun d => s.change _).2.hub
      unfold withDisplay
      cases s.hub.display? slot with
      | none => exact Hub.slotsKept_of_slots rfl
      | some d => exact (Hub.slotsKept_setSlot slot none s.hub).trans_slots (ignores.drop d _)
  | bringUp slot => exact slotsKept_serve ignores.bringUp s slot _ _
  | takeDown slot => exact slotsKept_serve ignores.takeDown s slot _ _
  | setPower slot power =>
      exact slotsKept_serve (ignores.setPower (fun _ _ _ => rfl) power) s slot _ _
  | stick slot f => exact slotsKept_serve (Hub.keeps_change _) s slot _ _
  | make v id concrete => exact Hub.slotsKept_addSlot _ s.hub
  | _ => first | exact Hub.slotsKept_of_slots (Hub.slots_step s rfl) | nomatch ordinary

end Session

/-! ### Displays whose tokens count no more -/

namespace Display

/-- A display whose token is not granted has nothing to return to the compositor. -/
theorem release_of_unknown {d : Display} {c : Compositor}
    (unknown : ∀ token, d.token = some token → c.knows token = false) : d.release c = c := by
  unfold release
  cases held : d.token with
  | none => rfl
  | some token =>
      refine Compositor.unregister_unknown fun a active => ?_
      exact of_decide_eq_false
        (Bool.eq_false_iff.mpr (List.any_eq_false.mp (unknown token held) a active))

theorem limit_vacate (d : Display) (a : Allocator) : (d.vacate a).limit = a.limit := by
  unfold vacate
  cases d.writeback? <;> rfl

end Display

namespace Hub

variable {h h' u : Hub} {slot : Nat} {d e : Display}

/-- The files are read for reports alone. -/
theorem ignoresDealing_storage : IgnoresDealing storage :=
  ⟨fun _ _ _ => rfl, fun _ _ => rfl, fun _ _ => rfl, fun _ _ => rfl, fun _ _ _ => rfl⟩

/-- Where no report was asked for and nothing was granted, everything looks the
    same. -/
theorem observed_of_ground {a : Allocator} (dealt : u.ground = h.dealing h.compositor a)
    (limit : a.limit = h.allocator.limit) (storage : u.storage = h.storage) :
    u.observed = h.observed := by
  have shown : u.observed = { u.ground.observed with storage := u.storage } := rfl
  rw [shown, dealt, storage]
  unfold observed
  rw [← limit]
  rfl

/-- A hub where nothing happened but to the display in one slot, which kept its
    token or lost it. -/
structure OnlySlotChanges (slot : Nat) (h h' : Hub) : Prop where
  observed : h'.observed = h.observed
  compositor : h'.compositor = h.compositor
  length : h'.slots.length = h.slots.length
  others : ∀ i, i ≠ slot → h'.display? i = h.display? i
  own : ∀ e token, h'.display? slot = some e → e.token = some token →
    ∃ d, h.display? slot = some d ∧ d.token = some token

theorem OnlySlotChanges.rfl : OnlySlotChanges slot h h where
  observed := Eq.refl _
  compositor := Eq.refl _
  length := Eq.refl _
  others _ _ := Eq.refl _
  own e _ there held := ⟨e, there, held⟩

/-- What becomes of the display in a slot, where it gets no token. -/
theorem onlySlotChanges_of_set {x : Option Display} (held : h.display? slot = some d)
    (observed : h'.observed = h.observed) (compositor : h'.compositor = h.compositor)
    (slots : h'.slots = h.slots.set slot x)
    (own : ∀ e token, x = some e → e.token = some token → d.token = some token) :
    OnlySlotChanges slot h h' := by
  have shown (i : Nat) : h'.display? i = (h.setSlot slot x).display? i := by
    unfold display?
    rw [slots]
    rfl
  refine ⟨observed, compositor, slots ▸ List.length_set, fun i other => ?_, fun e token there => ?_⟩
  · rw [shown, display?_setSlot, if_neg fun both => other both.1]
  · rw [shown, display?_setSlot, if_pos ⟨rfl, inside_of_display? held⟩] at there
    exact fun taken => ⟨d, held, own e token there taken⟩

/-- What two hubs have in common with a third. -/
theorem Resembles.of_common {h u w : Hub} (one : h.Resembles w) (other : u.Resembles w) :
    h.Resembles u where
  initialized := one.initialized.trans other.initialized.symm
  topology := one.topology.trans other.topology.symm
  resource := one.resource.trans other.resource.symm
  extension := one.extension.trans other.extension.symm
  color := one.color.trans other.color.symm
  work := one.work.trans other.work.symm
  active := one.active.trans other.active.symm

end Hub

namespace Session

variable {s : Session} {slot : Nat}

/-- What is done with the display in a slot and deals nothing out. -/
theorem onlySlotChanges_serve {act : Serve Unit}
    (served : ∀ {d r e h'}, s.hub.display? slot = some d →
      act (d, s.hub) = (r, e, h') → h'.observed = s.hub.observed ∧
      h'.compositor = s.hub.compositor ∧
        h'.slots = s.hub.slots ∧ ∀ token, e.token = some token → d.token = some token)
    (reply : Unit → Reply) (shows : Bool) :
    s.hub.OnlySlotChanges slot (s.serve slot act reply shows).2.hub := by
  cases held : s.hub.display? slot with
  | none =>
      rw [serve_vacant held]
      exact .rfl
  | some d =>
      rcases ending : act (d, s.hub) with ⟨r, e, h'⟩
      obtain ⟨observed, compositor, slots, own⟩ := served held ending
      rw [hub_serve held ending]
      refine Hub.onlySlotChanges_of_set held observed compositor
        (congrArg (·.set slot (some e)) slots) ?_
      rintro e' token ⟨⟩
      exact own token

/-- Letting go of a display whose token is not granted returns its buffer at most. -/
theorem onlySlotChanges_of_gone {d : Display} {h' : Hub} (held : s.hub.display? slot = some d)
    (stale : ∀ token, d.token = some token → s.hub.compositor.knows token = false)
    (dealt : h'.ground = (s.hub.setSlot slot none).dealing (d.release s.hub.compositor)
      (d.vacate s.hub.allocator))
    (read : h'.storage = s.hub.storage) (slots : h'.slots = s.hub.slots.set slot none) :
    s.hub.OnlySlotChanges slot h' := by
  rw [Display.release_of_unknown stale] at dealt
  have compositor : h'.compositor = s.hub.compositor := Hub.compositor_of_ground dealt
  have observed : h'.observed = (s.hub.setSlot slot none).observed :=
    Hub.observed_of_ground dealt (d.limit_vacate _) read
  exact Hub.onlySlotChanges_of_set held observed compositor slots fun e token there => nomatch there

/-- Nor does taking it down return more. -/
theorem onlySlotChanges_takeDown
    (stale : ∀ d token, s.hub.display? slot = some d → d.token = some token →
      s.hub.compositor.knows token = false) (reply : Unit → Reply) (shows : Bool) :
    s.hub.OnlySlotChanges slot (s.serve slot Serve.takeDown reply shows).2.hub := by
  refine onlySlotChanges_serve (fun {d r e h'} held run => ?_) reply shows
  have read := Hub.ignoresDealing_storage.takeDown (d, s.hub)
  have slots := Hub.ignoresService_slots.takeDown (d, s.hub)
  rw [run] at read slots
  rcases Serve.takeDown_cases run with ⟨f, -, rfl, same⟩ | ⟨-, -, rfl, dealt⟩
  · have untouched : h'.ground = s.hub.dealing s.hub.compositor s.hub.allocator := same
    exact ⟨Hub.observed_of_ground untouched rfl read, Hub.compositor_of_ground untouched, slots,
      fun token same => same⟩
  · rw [Display.release_of_unknown fun token => stale d token held] at dealt
    exact ⟨Hub.observed_of_ground dealt (d.limit_vacate _) read, Hub.compositor_of_ground dealt,
      slots, fun token none => nomatch none⟩

/-- Switching a display deals nothing out, whatever token it has. -/
theorem onlySlotChanges_setPower (s : Session) (slot : Nat) (power : Power) (reply : Unit → Reply)
    (shows : Bool) : s.hub.OnlySlotChanges slot
    (s.serve slot (Serve.setPower power) reply shows).2.hub := by
  refine onlySlotChanges_serve (fun {d r e h'} held run => ?_) reply shows
  have read := Hub.ignoresDealing_storage.setPower (fun _ _ _ => rfl) power (d, s.hub)
  have slots := Hub.ignoresService_slots.setPower (fun _ _ _ => rfl) power (d, s.hub)
  have kept := Serve.keeps_setPower power (d, s.hub)
  rw [run] at read slots kept
  obtain ⟨display, ground⟩ := Prod.mk.inj kept
  have untouched : h'.ground = s.hub.dealing s.hub.compositor s.hub.allocator := ground
  have token : e.token = d.token := by
    -- nothing but the power of the display can differ
    have tokens := congrArg Display.token display
    exact tokens
  refine ⟨Hub.observed_of_ground untouched rfl read, Hub.compositor_of_ground untouched, slots, ?_⟩
  intro held same
  rw [← token]
  exact same

/-- A step on a display whose token is not granted is seen nowhere else, unless
    it brings the display into service. -/
theorem onlySlotChanges_step {step : Step} (plain : step.plain = true)
    (about : step.slot? = some slot) (calm : step ≠ .bringUp slot)
    (stale : ∀ d token, s.hub.display? slot = some d → d.token = some token →
      s.hub.compositor.knows token = false) : s.hub.OnlySlotChanges slot (s.step step).2.hub := by
  cases step with
  | destroy place =>
      obtain rfl : place = some slot := about
      change s.hub.OnlySlotChanges slot
        (Act.destroy (s.hub.display? slot) (s.hub.setSlot slot none)).2
      cases held : s.hub.display? slot with
      | none =>
          -- nobody is there to be destroyed, and the slot is emptied once more
          refine ⟨rfl, rfl, List.length_set, fun i other => ?_, fun e token there => ?_⟩
          · exact (Hub.display?_setSlot ..).trans (if_neg fun both => other both.1)
          · have vacant : (s.hub.setSlot slot none).display? slot = none := by
              rw [Hub.display?_setSlot, held, ite_self]
            nomatch vacant.symm.trans there
      | some d =>
          exact onlySlotChanges_of_gone held (fun token => stale d token held)
            (Act.ground_decommission d _)
            (Hub.ignoresDealing_storage.destroy (some d) _)
            (Hub.ignoresService_slots.destroy (some d) _)
  | inspect place =>
      obtain rfl : place = slot := Option.some.inj about
      change s.hub.OnlySlotChanges place (s.withDisplay place fun d => (_, s)).2.hub
      unfold withDisplay
      cases s.hub.display? place with
      | none => exact .rfl
      | some d => exact .rfl
  | drop place =>
      obtain rfl : place = slot := Option.some.inj about
      change s.hub.OnlySlotChanges place (s.withDisplay place fun d => s.change _).2.hub
      unfold withDisplay
      cases held : s.hub.display? place with
      | none => exact .rfl
      | some d =>
          exact onlySlotChanges_of_gone held (fun token => stale d token held) (d.ground_drop _)
            (Hub.ignoresDealing_storage.drop d _) (Hub.ignoresService_slots.drop d _)
  | bringUp place => exact absurd (congrArg Step.bringUp (Option.some.inj about)) calm
  | takeDown place =>
      obtain rfl : place = slot := Option.some.inj about
      exact onlySlotChanges_takeDown stale _ _
  | setPower place power =>
      obtain rfl : place = slot := Option.some.inj about
      exact onlySlotChanges_setPower s place power _ _
  | stick place f =>
      obtain rfl : place = slot := Option.some.inj about
      refine onlySlotChanges_serve (fun {d r e h'} held run => ?_) _ _
      obtain ⟨rfl, rfl, rfl⟩ := Serve.ended run
      exact ⟨rfl, rfl, rfl, fun token same => same⟩
  | resolve place connected => nomatch plain
  | register place => nomatch plain
  | unregister place => nomatch plain
  | _ => nomatch about

/-- A step on a display does not change how the hub is set up. -/
theorem rig_step (s : Session) {step : Step} (about : step.slot? = some slot) :
    (s.step step).2.rig = s.rig := by
  have served {α : Type} (place : Nat) (act : Serve α) (reply : α → Reply) (shows : Bool) :
      (s.serve place act reply shows).2.rig = s.rig := by
    unfold serve withDisplay
    cases s.hub.display? place <;> rfl
  cases step with
  | destroy place => rfl
  | inspect place =>
      change (s.withDisplay place fun d => (_, s)).2.rig = s.rig
      unfold withDisplay
      cases s.hub.display? place <;> rfl
  | drop place =>
      change (s.withDisplay place fun d => s.change _).2.rig = s.rig
      unfold withDisplay
      cases s.hub.display? place <;> rfl
  | bringUp place => exact served place _ _ _
  | takeDown place => exact served place _ _ _
  | setPower place power => exact served place _ _ _
  | stick place f => exact served place _ _ _
  | resolve place connected => exact served place _ _ _
  | register place => exact served place _ _ _
  | unregister place => exact served place _ _ _
  | _ => nomatch about

/-! ### Displays from before the floor -/

/-- The displays in some slots hold no tokens but from before a floor, whatever
    becomes of the tokens that count. -/
structure OldTokensOnly (s : Session) (floor : Nat) (slots : List Nat) : Prop where
  /-- The floor may have risen since. -/
  accounts : ∃ f, floor ≤ f ∧ Accounted f s.hub.live s.hub.compositor
  inside : ∀ slot ∈ slots, slot < s.hub.slots.length
  old : ∀ slot ∈ slots, ∀ d token, s.hub.display? slot = some d → d.token = some token →
    token < floor

/-- No ordinary step puts the accounts out of order. -/
theorem accounted_step {f : Nat} {step : Step} (accounts : Accounted f s.hub.live s.hub.compositor)
    (ordinary : step.ordinary = true) : Accounted (s.floorStep f step)
      (s.step step).2.hub.live (s.step step).2.hub.compositor := by
  have before : Accounted (s.ledger f 0).floor (s.ledger f 0).displays
    (s.ledger f 0).stock.compositor := accounts
  exact upholds_step (fun _ => True) Accounted.move (fun _ accounts => accounts) before ordinary
    trivial

theorem accounted_after {s : Session} (fresh : s.hub.Fresh) {steps : List Step}
    (ordinary : ∀ step ∈ steps, step.ordinary = true) :
    Accounted (s.floorAfter 0 steps) (s.after steps).hub.live (s.after steps).hub.compositor := by
  have before : Accounted (s.ledger 0 0).floor (s.ledger 0 0).displays
      (s.ledger 0 0).stock.compositor := by
    rw [ledger_of_fresh fresh]
    exact Accounted.new
  exact upholds_after (fun _ => True) Accounted.move
    (fun _ accounts => accounts) before ordinary fun _ _ => trivial

namespace OldTokensOnly

variable {floor : Nat} {slots : List Nat}

/-- Tokens from before the floor are not granted. -/
theorem stale (oldTokens : s.OldTokensOnly floor slots) {slot token : Nat} {d : Display}
    (among : slot ∈ slots) (held : s.hub.display? slot = some d) (taken : d.token = some token) :
    s.hub.compositor.knows token = false := by
  obtain ⟨f, risen, accounts⟩ := oldTokens.accounts
  exact (Hub.matched_of_accounted accounts).stale held taken
    (Nat.lt_of_lt_of_le (oldTokens.old slot among d token held taken) risen)

/-- As long as none of the displays is brought into service again, they hold old tokens
    only. -/
theorem step (oldTokens : s.OldTokensOnly floor slots) {step : Step} (plain : step.plain = true)
    (calm : ∀ slot ∈ slots, step ≠ .bringUp slot) : (s.step step).2.OldTokensOnly floor slots := by
  have ordinary := Step.ordinary_of_plain plain
  have slotsKept := s.slotsKept_step ordinary
  refine ⟨?_, fun slot among =>
    Nat.lt_of_lt_of_le (oldTokens.inside slot among) slotsKept.longer, ?_⟩
  · obtain ⟨f, risen, accounts⟩ := oldTokens.accounts
    refine ⟨s.floorStep f step, ?_, accounted_step accounts ordinary⟩
    cases step with
    | teardown => exact Nat.le_trans risen accounts.reached
    | _ => exact risen
  · intro slot among d token held taken
    by_cases about : step.slot? = some slot
    · have onlySlot := s.onlySlotChanges_step plain about (calm slot among) fun d token held =>
        oldTokens.stale among held
      obtain ⟨before, there, same⟩ := onlySlot.own d token held taken
      exact oldTokens.old slot among before token there same
    · rw [slotsKept.others slot about (oldTokens.inside slot among)] at held
      exact oldTokens.old slot among d token held taken

end OldTokensOnly

/-! ### Without these displays -/

/-- What a sequence of steps answers, where the steps on some displays are not
    listened to. -/
def answersApartFrom (slots : List Nat) (s : Session) : List Step → List Outcome
  | [] => []
  | step :: rest =>
    if step.avoids slots then (s.step step).1 :: (s.step step).2.answersApartFrom slots rest
    else (s.step step).2.answersApartFrom slots rest

/-- A session is the image of one that never had some of its displays. -/
structure SameWithout (slots : List Nat) (place seat : Nat → Nat) (s t : Session) : Prop where
  slotsKept : Function.Injective seat
  /-- A display that both have is in the slot that its place stands for. -/
  back : ∀ slot, slot ∉ slots → seat (place slot) = slot
  away : ∀ i, seat i ∉ slots
  images : s.SameUpTo id True seat t

/-- There always is such a session. -/
theorem exists_sameWithout {slots : List Nat} (inside : ∀ slot ∈ slots, slot < s.hub.slots.length) :
    ∃ place seat t, SameWithout slots place seat s t := by
  let p : Nat → Prop := fun slot => slot ∉ slots
  let count := Nat.count p s.hub.slots.length
  have infinite : (Set.ofPred p).Infinite := slots.finite_toSet.infinite_compl
  have back (slot : Nat) (apart : slot ∉ slots) : Nat.nth p (Nat.count p slot) = slot :=
    Nat.nth_count (p := p) apart
  -- behind the last slot there is nothing to leave out
  have ahead (i : Nat) : s.hub.slots.length + i = Nat.nth p (count + i) := by
    have behind (i : Nat) : s.hub.slots.length + i ∉ slots := fun among => by
      have := inside _ among
      omega
    have counted : Nat.count p (s.hub.slots.length + i) = count + i := by
      rw [Nat.count_add]
      congr 1
      exact Nat.count_of_forall fun i _ => behind i
    rw [← counted, back _ (behind i)]
  let seated := (List.range count).map fun i => s.hub.display? (Nat.nth p i)
  refine ⟨Nat.count p, Nat.nth p, { s with hub := { s.hub with slots := seated } },
    Nat.nth_injective infinite, back, Nat.nth_mem_of_infinite infinite, rfl,
    ⟨rfl, rfl, ?_, fun _ => rfl, fun _ => rfl⟩, fun i => ?_, fun i => ?_⟩
  · exact (List.map_id' _).symm
  · rw [ahead]
    congr 2
    exact (List.length_map ..).trans List.length_range |>.symm
  · have same : Hub.display? { s.hub with slots := seated } i = s.hub.display? (Nat.nth p i) := by
      change (seated[i]?).join = _
      by_cases early : i < count
      · rw [List.getElem?_map, List.getElem?_range early]
        rfl
      · -- both are behind the last slot
        have late : Nat.nth p i = s.hub.slots.length + (i - count) := by
          rw [ahead, Nat.add_sub_of_le (Nat.le_of_not_lt early)]
        have none_there : seated[i]? = none := by
          refine List.getElem?_eq_none ?_
          rw [List.length_map, List.length_range]
          exact Nat.le_of_not_lt early
        rw [none_there, late]
        unfold Hub.display?
        rw [List.getElem?_eq_none (Nat.le_add_right _ _)]
    rw [same]
    cases s.hub.display? (Nat.nth p i) with
    | none => exact Option.Rel.none
    | some d => exact Option.Rel.some ⟨rfl, Option.map_id'.symm⟩

namespace SameWithout

variable {slots : List Nat} {place seat : Nat → Nat} {t : Session}

/-- A step on another display is taken in both sessions. -/
theorem take (sameWithout : SameWithout slots place seat s t) {step : Step}
    (plain : step.plain = true) (avoids : step.avoids slots = true) :
    (s.step step).1.Matches seat (t.step (step.reseat place)).1 ∧
      SameWithout slots place seat (s.step step).2 (t.step (step.reseat place)).2 := by
  have moved : (step.reseat place).reseat seat = step := by
    refine Step.reseat_reseat fun slot about => sameWithout.back slot ?_
    unfold Step.avoids at avoids
    rw [about] at avoids
    exact of_decide_eq_true avoids
  have agree := sameWithout.images.step Function.injective_id sameWithout.slotsKept
    ((step.plain_reseat place).trans plain)
  rw [moved] at agree
  exact ⟨agree.1, sameWithout.slotsKept, sameWithout.back, sameWithout.away, agree.2⟩

/-- A step on one of the displays is taken in one session alone. -/
theorem skip (sameWithout : SameWithout slots place seat s t) {slot : Nat} (among : slot ∈ slots)
    {s' : Session} (rig : s'.rig = s.rig) (onlySlot : s.hub.OnlySlotChanges slot s'.hub) :
    SameWithout slots place seat s' t where
  slotsKept := sameWithout.slotsKept
  back := sameWithout.back
  away := sameWithout.away
  images := by
    refine ⟨rig.trans sameWithout.images.rig,
      sameWithout.images.hub.of_same onlySlot.observed onlySlot.compositor rfl rfl, fun i => ?_,
      fun i => ?_⟩
    · rw [onlySlot.length]
      exact sameWithout.images.ahead i
    · rw [onlySlot.others (seat i) fun same => sameWithout.away i (same ▸ among)]
      exact sameWithout.images.seated i

/-- What the other displays and the hub answer does not depend on the displays that hold
    old tokens. -/
theorem run (sameWithout : SameWithout slots place seat s t) {floor : Nat}
    (oldTokens : s.OldTokensOnly floor slots)
    {steps : List Step} (plain : ∀ step ∈ steps, step.plain = true)
    (calm : ∀ slot ∈ slots, Step.bringUp slot ∉ steps) :
    List.Forall₂ (Outcome.Matches seat) (s.answersApartFrom slots steps)
        (t.answers ((steps.filter (Step.avoids slots)).map (Step.reseat place))) ∧
      SameWithout slots place seat (s.after steps)
        (t.after ((steps.filter (Step.avoids slots)).map (Step.reseat place))) := by
  induction steps generalizing s t with
  | nil => exact ⟨List.Forall₂.nil, sameWithout⟩
  | cons step rest ih =>
      have first : step.plain = true := plain step List.mem_cons_self
      have calmly (slot : Nat) (among : slot ∈ slots) : step ≠ .bringUp slot := by
        rintro rfl
        exact calm slot among List.mem_cons_self
      have still := oldTokens.step first calmly
      have later := fun step among => plain step (List.mem_cons_of_mem _ among)
      have quietly := fun slot among there => calm slot among (List.mem_cons_of_mem _ there)
      unfold answersApartFrom
      -- a step on one of these displays is taken on one side only
      by_cases avoids : step.avoids slots = true
      · obtain ⟨same, after⟩ := sameWithout.take first avoids
        obtain ⟨answers, last⟩ := ih after still later quietly
        rw [if_pos avoids, List.filter_cons_of_pos avoids]
        exact ⟨List.Forall₂.cons same answers, last⟩
      · rw [if_neg avoids, List.filter_cons_of_neg avoids]
        obtain ⟨slot, about, among⟩ := Step.about_of_not_avoids avoids
        have onlySlot := s.onlySlotChanges_step first about (calmly slot among) fun d token held =>
          oldTokens.stale among held
        exact ih (sameWithout.skip among (s.rig_step about) onlySlot) still later quietly

end SameWithout

theorem map_erased_of_matches {seat : Nat → Nat} {l m : List Outcome}
    (same : List.Forall₂ (Outcome.Matches seat) l m) :
    l.map Outcome.erased = m.map fun o => (o.reseat seat).erased := by
  induction same with
  | nil => rfl
  | cons first _ rest => exact congrArg₂ List.cons first rest

/-- Two sequences of steps on one session that go the same way, as far as one can
    see without some of the displays. -/
structure SameApartFrom (s : Session) (slots : List Nat) (steps others : List Step) : Prop where
  answers : (s.answersApartFrom slots steps).map Outcome.erased =
    (s.answersApartFrom slots others).map Outcome.erased
  resembles : (s.after steps).hub.Resembles (s.after others).hub
  active : (s.after steps).hub.compositor.active = (s.after others).hub.compositor.active
  next : (s.after steps).hub.compositor.nextToken = (s.after others).hub.compositor.nextToken
  mode : (s.after steps).hub.compositor.mode = (s.after others).hub.compositor.mode
  seated : ∀ slot, slot ∉ slots →
    ((s.after steps).hub.display? slot).map (fun d => (d.erased, d.token)) =
      ((s.after others).hub.display? slot).map fun d => (d.erased, d.token)

/-- Two sequences of steps that differ in steps on displays from before the floor
    go the same way. -/
theorem sameApartFrom_of_oldTokens {slots : List Nat} {floor : Nat}
    (oldTokens : s.OldTokensOnly floor slots)
    {steps others : List Step} (plain : ∀ step ∈ steps ++ others, step.plain = true)
    (calm : ∀ slot ∈ slots, Step.bringUp slot ∉ steps ++ others)
    (same : steps.filter (Step.avoids slots) = others.filter (Step.avoids slots)) :
    s.SameApartFrom slots steps others := by
  obtain ⟨place, seat, t, sameWithout⟩ := exists_sameWithout oldTokens.inside
  obtain ⟨one, left⟩ :=
    sameWithout.run oldTokens (fun step among => plain step (List.mem_append_left _ among))
    fun slot among there => calm slot among (List.mem_append_left _ there)
  obtain ⟨other, right⟩ := sameWithout.run oldTokens
    (fun step among => plain step (List.mem_append_right _ among))
    fun slot among there => calm slot among (List.mem_append_right _ there)
  -- both go the way of the session without the displays
  rw [same] at one left
  have shown {s t : Session} (sameWithout : SameWithout slots place seat s t) (slot : Nat)
      (apart : slot ∉ slots) : (s.hub.display? slot).map (fun d => (d.erased, d.token)) =
        (t.hub.display? (place slot)).map fun d => (d.erased, d.token) := by
    have seated := sameWithout.images.seated (place slot)
    rw [sameWithout.back slot apart] at seated
    generalize s.hub.display? slot = d at seated ⊢
    generalize t.hub.display? (place slot) = e at seated ⊢
    cases seated with
    | none => rfl
    | some displays =>
        exact congrArg some (Prod.ext displays.erased (displays.token.trans Option.map_id'))
  exact {
    answers := (map_erased_of_matches one).trans (map_erased_of_matches other).symm
    resembles := left.images.hub.resembles.of_common right.images.hub.resembles
    active := left.images.hub.compositor.active.trans right.images.hub.compositor.active.symm
    next := (left.images.hub.compositor.next 0).trans (right.images.hub.compositor.next 0).symm
    mode := (left.images.hub.compositor.mode (Or.inr trivial)).trans
      (right.images.hub.compositor.mode (Or.inr trivial)).symm
    seated := fun slot apart => (shown left slot apart).trans (shown right slot apart).symm }

/-- No token is issued twice, whatever is demanded of a compositor. And whatever is
    done with displays whose tokens are from before the hub last went down, short
    of bringing them into service again, nobody else can tell. -/
theorem sameApartFrom_after {s : Session} (fresh : s.hub.Fresh) {earlier steps others : List Step}
    {slots : List Nat} (ordinary : ∀ step ∈ earlier, step.ordinary = true)
    (left : ∀ slot ∈ slots, ∃ d token, (s.after earlier).hub.display? slot = some d ∧
      d.token = some token ∧ token < s.floorAfter 0 earlier)
    (plain : ∀ step ∈ steps ++ others, step.plain = true)
    (calm : ∀ slot ∈ slots, Step.bringUp slot ∉ steps ++ others)
    (same : steps.filter (Step.avoids slots) = others.filter (Step.avoids slots)) :
    (∀ (h : Hub) (demands : List Demand), ({ h with compositor := {} }.issued demands).Nodup) ∧
      (s.after earlier).SameApartFrom slots steps others := by
  have oldTokens : (s.after earlier).OldTokensOnly (s.floorAfter 0 earlier) slots := by
    refine ⟨⟨_, Nat.le_refl _, accounted_after fresh ordinary⟩, fun slot among => ?_, ?_⟩
    · obtain ⟨d, token, held, -, -⟩ := left slot among
      exact Hub.inside_of_display? held
    · intro slot among d token held taken
      obtain ⟨e, granted, there, had, old⟩ := left slot among
      obtain rfl := Option.some.inj (there.symm.trans held)
      obtain rfl := Option.some.inj (had.symm.trans taken)
      exact old
  refine ⟨fun h demands => ?_, sameApartFrom_of_oldTokens oldTokens plain calm same⟩
  exact (Hub.issued_rising demands _).1.imp Nat.ne_of_lt

/-- The hub goes down while somebody holds a display. -/
def leftoverHandle : List Step :=
  [.bootstrap, .createById 0 (some .record), .teardown]

theorem left_leftoverHandle : ∀ slot ∈ [0], ∃ d token,
    (bench.after leftoverHandle).hub.display? slot = some d ∧ d.token = some token ∧
      token < bench.floorAfter 0 leftoverHandle := by
  intro slot among
  obtain rfl := List.mem_singleton.mp among
  exact ⟨_, 0, rfl, rfl, Nat.zero_lt_one⟩

/-- The display is created again. -/
def secondRun : List Step :=
  [.bootstrap, .createById 0 (some .record), .setPower 1 .on, .refresh]

/-- On the way, the one that is left over is switched, and let go in the end. -/
def leftoverUsed : List Step :=
  [.bootstrap, .setPower 0 .on, .createById 0 (some .record), .takeDown 0, .setPower 1 .on,
    .destroy (some 0), .refresh]

theorem sameApartFrom_after_leftover : bench.hub.Fresh ∧
    (∀ step ∈ leftoverHandle, step.ordinary = true) ∧
    (∀ slot ∈ [0], ∃ d token, (bench.after leftoverHandle).hub.display? slot = some d ∧
      d.token = some token ∧ token < bench.floorAfter 0 leftoverHandle) ∧
    (∀ step ∈ leftoverUsed ++ secondRun, step.plain = true) ∧
    (∀ slot ∈ [0], Step.bringUp slot ∉ leftoverUsed ++ secondRun) ∧
    leftoverUsed.filter (Step.avoids [0]) = secondRun.filter (Step.avoids [0]) ∧
    (∀ (h : Hub) (demands : List Demand), ({ h with compositor := {} }.issued demands).Nodup) ∧
    (bench.after leftoverHandle).SameApartFrom [0] leftoverUsed secondRun := by
  have fresh : bench.hub.Fresh := fresh_recording _ _ _ _
  have ordinary : ∀ step ∈ leftoverHandle, step.ordinary = true := by decide
  have plain : ∀ step ∈ leftoverUsed ++ secondRun, step.plain = true := by decide
  have calm : ∀ slot ∈ [0], Step.bringUp slot ∉ leftoverUsed ++ secondRun := by
    simp [leftoverUsed, secondRun]
  exact ⟨fresh, ordinary, left_leftoverHandle, plain, calm, rfl,
    sameApartFrom_after fresh ordinary left_leftoverHandle plain calm rfl⟩

/-- The display that is left over is to come into service, and then another one is
    created for its number. -/
def leftoverReinit : List Step :=
  [.bringUp 0, .createById 0 (some .record)]

/-- It cannot, as long as it takes itself for one that is in service. Where it is
    taken down before, it comes into service once more, and the other one finds the
    number driven. -/
theorem changed_by_reinit : bench.hub.Fresh ∧
    (∀ step ∈ leftoverHandle, step.ordinary = true) ∧
    (∀ slot ∈ [0], ∃ d token, (bench.after leftoverHandle).hub.display? slot = some d ∧
      d.token = some token ∧ token < bench.floorAfter 0 leftoverHandle) ∧
    (∀ step ∈ .bootstrap :: .takeDown 0 :: leftoverReinit, step.plain = true) ∧
    ¬ (bench.after leftoverHandle).SameApartFrom [0] (.bootstrap :: .takeDown 0 :: leftoverReinit)
      (.bootstrap :: leftoverReinit) := by
  refine ⟨fresh_recording _ _ _ _, by decide, left_leftoverHandle, by decide,
    fun sameApartFrom => ?_⟩
  have answered := congrArg (List.map fun o => o.result.isOk) sameApartFrom.answers
  -- the display is created in one run and refused in the other
  exact absurd answered (by decide +kernel)

end Session

end DisplayHub
