import DisplayHub.Proofs.Creation
import DisplayHub.Proofs.BootstrapState

/-!
# What Handlers Are Told

Changes of power, and nothing else.

A handler may call the hub back, so it must not be told anything from inside an
operation of the hub. What has to be shown is mostly an absence: of all that can
be done with a hub and its displays, one thing alone tells handlers anything,
and that is to set the power of a display. It says so only where the power
changes, first what it is now and then, of a display that is switched on, that a
frame is needed (`Display.notices`).

How much of this is written down depends on the handler (`Handler.writes`). Of
one that writes notes there is no delivery, so for it `records_setPower` counts,
which has all records of a change of power.

What handlers were told ignores service, and it ignores coming up and going
down as well. No run of steps needs more than that, so the law of notices
(`heard_after`) holds from any session and over every step.

The power of a display is silent where it is lost: a display that leaves service
is off, and its handler hears nothing of it. So the power is told by what was set
since the display came into service (`Session.lastSet`), which is read off the
answers alone, and by whether it is in service still.

## Main definitions

* `Display.notices`, `Handler.writes`: What a display has to say, and what its
  handler makes of it.
* `Hub.heard`: What handlers were told.
* `Session.told`, `Session.toldAfter`: What they are told in a step, and in a run.
* `Display.PowerIs`, `Session.ShowsPower`: A display has the power it was last set to.
* `Session.lastSet`, `Session.lastSetAfter`: The power that the display in a slot
  was last set to.

## Theorems

* `Serve.setPower_apply`: A change of power.
* `Session.records_setPower`: All that a change of power leaves behind.
* `Session.heard_step`, `Session.heard_after`: What handlers are told.
* `Serve.BringUpOutcome.powerIs`, `Serve.powerIs_takeDown`, `Serve.powerIs_setPower`: What
  becomes of the power of a display.
* `Session.showsPower_step`, `Session.showsPower_after`: The power of the display in a slot.
* `Session.notified_after`: Both, over any run.
-/

namespace DisplayHub

/-- What a display has to say when it is set to a power. -/
def Display.notices (d : Display) (power : Power) : List Notice :=
  if d.initialized ∧ d.power ≠ power then
    .stateChanged d.variant d.id power ::
      if power = .on then [.refresh d.variant d.id] else []
  else []

/-- What a handler leaves behind of a notice, where the hub has displays of the
    given numbers. -/
def Handler.writes (handler : Handler) (ids : List Int32) (notice : Notice) : List Record :=
  match handler, notice with
  | .record, _ => [.delivery ⟨.record, notice⟩]
  | .reenter, _ => [.delivery ⟨.reenter, notice⟩, .delivery ⟨.reenter, .topology ids⟩]
  | .refreshOnly, .refresh _ _ => [.delivery ⟨.refreshOnly, notice⟩]
  | .refreshOnly, _ => []
  | .announce, .stateChanged v id power =>
    [.note ⟨.info, v.word ++ " display " ++ idText id ++ " is now " ++ power.title⟩]
  | .announce, .refresh v id =>
    [.note ⟨.info, "refresh requested by " ++ v.word ++ " display " ++ idText id⟩]
  | .announce, .topology _ => []

namespace Hub

/-- What handlers were told. -/
def heard (h : Hub) : List Delivery :=
  h.journal.deliveries

/-- All that was left behind. -/
def left (h : Hub) : List Record :=
  h.journal.records.toList

/-- A handler is told several things, one after the other. -/
def tellAll (handler : Handler) (notices : List Notice) (h : Hub) : Hub :=
  notices.foldl (fun h notice => h.tell handler notice) h

theorem left_note (level : Level) (text : String) (h : Hub) :
    (h.note level text).left = h.left ++ [.note ⟨level, text⟩] :=
  Array.toList_push

theorem left_tell (handler : Handler) (notice : Notice) (h : Hub) :
    (h.tell handler notice).left = h.left ++ handler.writes h.core.topology.ids notice := by
  have delivered (handler : Handler) (notice : Notice) (h : Hub) :
      (h.deliver handler notice).left = h.left ++ [.delivery ⟨handler, notice⟩] :=
    Array.toList_push
  cases handler with
  | record => exact delivered _ _ h
  | reenter =>
      change ((h.deliver .reenter notice).deliver .reenter (.topology h.core.topology.ids)).left = _
      rw [delivered, delivered, List.append_assoc]
      rfl
  | refreshOnly =>
      cases notice with
      | refresh v id => exact delivered _ _ h
      | stateChanged v id power => exact (List.append_nil _).symm
      | topology ids => exact (List.append_nil _).symm
  | announce =>
      cases notice with
      | refresh v id => exact left_note _ _ h
      | stateChanged v id power => exact left_note _ _ h
      | topology ids => exact (List.append_nil _).symm

theorem core_tell (handler : Handler) (notice : Notice) (h : Hub) :
    (h.tell handler notice).core = h.core :=
  Hub.told_of_ground core (ground_tell handler notice h) rfl rfl

theorem left_tellAll (handler : Handler) (notices : List Notice) (h : Hub) :
    (h.tellAll handler notices).left =
      h.left ++ notices.flatMap (handler.writes h.core.topology.ids) := by
  -- a notice changes no report, so all of them find the same one
  induction notices generalizing h with
  | nil => exact (List.append_nil _).symm
  | cons notice rest ih =>
      change ((h.tell handler notice).tellAll handler rest).left = _
      rw [ih, left_tell, core_tell, List.flatMap_cons, List.append_assoc]

theorem slots_tellAll (handler : Handler) (notices : List Notice) (h : Hub) :
    (h.tellAll handler notices).slots = h.slots := by
  induction notices generalizing h with
  | nil => rfl
  | cons notice rest ih =>
      have one := congrArg slots (ground_tell handler notice h)
      exact (ih (h.tell handler notice)).trans one

end Hub

/-! ### A change of power -/

/-- What a display leaves behind of being set to a power. -/
def Display.powering (d : Display) (ids : List Int32) (power : Power) : List Record :=
  if d.initialized ∧ d.power ≠ power then
    .note ⟨.debug, "Display " ++ d.name ++ ": " ++ d.power.title ++ " -> " ++ power.title⟩ ::
      (d.notices power).flatMap (d.handler.writes ids)
  else []

namespace Serve

variable {d : Display} {power : Power}

/-- A display that is not in service has no power to set. -/
theorem setPower_idle (idle : d.initialized = false) (power : Power) (h : Hub) :
    setPower power (d, h) = (.error (.failure .notInitialized), d, h) := by
  change (ite ((!d.initialized) = true) (fail .notInitialized >>= _) _ : Serve Unit) (d, h) = _
  rw [idle]
  rfl

/-- One that is gets the power, and its handler is told where it is another
    one. -/
theorem setPower_apply (inService : d.initialized = true) (power : Power) (h : Hub) :
    ∃ g, setPower power (d, h) = (.ok (), { d with power }, g) ∧ g.slots = h.slots ∧
      g.left = h.left ++ d.powering h.core.topology.ids power := by
  have runs : ¬ (!d.initialized) = true := by simp [inService]
  by_cases same : d.power = power
  · refine ⟨h, ?_, rfl, ?_⟩
    · change (ite ((!d.initialized) = true) (fail .notInitialized >>= _)
        (ite (d.power = power) (pure ()) _) : Serve Unit) (d, h) = _
      rw [if_neg runs, if_pos same, ← same]
      rfl
    · unfold Display.powering
      rw [if_neg fun both => both.2 same, List.append_nil]
  · have changes : d.initialized = true ∧ d.power ≠ power := ⟨inService, same⟩
    let noted := h.note .debug
      ("Display " ++ d.name ++ ": " ++ d.power.title ++ " -> " ++ power.title)
    refine ⟨noted.tellAll d.handler (d.notices power), ?_, ?_, ?_⟩
    · change (ite ((!d.initialized) = true) (fail .notInitialized >>= _)
        (ite (d.power = power) (pure ()) _) : Serve Unit) (d, h) = _
      unfold Display.notices
      rw [if_neg runs, if_neg same, if_pos changes]
      -- only a display that is switched on has a second thing to say
      by_cases on : power = .on
      · rw [if_pos on, if_pos on]
        rfl
      · rw [if_neg on, if_neg on]
        rfl
    · exact Hub.slots_tellAll d.handler (d.notices power) noted
    · unfold Display.powering
      rw [Hub.left_tellAll, Hub.left_note, if_pos changes, List.append_assoc]
      rfl

end Serve

namespace Hub

/-! ### Who is told -/

theorem heard_of_left {h h' : Hub} {records : List Record} (added : h'.left = h.left ++ records) :
    h'.heard = h.heard ++ records.filterMap Record.delivery? := by
  change h'.left.filterMap Record.delivery? = h.left.filterMap Record.delivery? ++ _
  rw [added, List.filterMap_append]

theorem ignoresService_heard : IgnoresService heard :=
  ignoresService_deliveries

/-- Coming up and going down tell nobody anything. -/
theorem ignoresBootstrap_heard : IgnoresBootstrap heard where
  noted := ignoresService_heard.noted
  notedAll := ignoresService_heard.notedAll
  called call h := by
    have added : (h.recordCall call).left = h.left ++ [.call call] := Array.toList_push
    exact (heard_of_left added).trans (List.append_nil _)
  seen events h := by
    have added : (h.recordEvents events).left = h.left ++ events.map .library :=
      Array.toList_appendList
    have silent : (events.map Record.library).filterMap Record.delivery? = [] := by
      simp [List.filterMap_map, Function.comp_def, Record.delivery?]
    rw [heard_of_left added, silent, List.append_nil]
  offered _ _ := rfl
  dealt _ _ := rfl
  lit _ _ := rfl
  piped _ _ := rfl
  issued _ _ := rfl
  provided _ _ := rfl

end Hub

namespace Session

/-- What handlers are told in a step. -/
def told (s : Session) : Step → List Delivery
  | .setPower slot power => match s.hub.display? slot with
    | some d => ((d.notices power).flatMap
        (d.handler.writes s.hub.core.topology.ids)).filterMap Record.delivery?
    | none => []
  | _ => []

/-- What handlers are told in a sequence of steps. -/
def toldAfter (s : Session) : List Step → List Delivery
  | [] => []
  | step :: rest => s.told step ++ (s.step step).2.toldAfter rest

variable {s : Session} {slot : Nat} {d : Display}

/-- All that is left behind when the power of a display is set, whatever its
    handler does with what it is told. -/
theorem records_setPower (held : s.hub.display? slot = some d) (power : Power) :
    (s.step (.setPower slot power)).2.hub.left =
      s.hub.left ++ d.powering s.hub.core.topology.ids power := by
  change (s.serve slot (Serve.setPower power) _ true).2.hub.left = _
  cases inService : d.initialized with
  | false =>
      rw [hub_serve held (Serve.setPower_idle inService power s.hub)]
      unfold Display.powering
      rw [inService, if_neg fun both => Bool.false_ne_true both.1, List.append_nil]
      rfl
  | true =>
      obtain ⟨g, ended, -, left⟩ := Serve.setPower_apply inService power s.hub
      rw [hub_serve held ended]
      exact left

theorem heard_setPower (s : Session) (slot : Nat) (power : Power) :
    (s.step (.setPower slot power)).2.hub.heard = s.hub.heard ++ s.told (.setPower slot power) := by
  unfold told
  dsimp only
  cases held : s.hub.display? slot with
  | none =>
      have stays : (s.step (.setPower slot power)).2 = s := serve_vacant held _ _ _
      rw [stays, List.append_nil]
  | some d =>
      rw [Hub.heard_of_left (records_setPower held power)]
      dsimp only
      unfold Display.powering
      split
      · rfl
      · rename_i silent
        unfold Display.notices
        rw [if_neg silent]
        rfl

/-- Nobody is told anything but what a change of power says. -/
theorem heard_step (s : Session) (step : Step) :
    (s.step step).2.hub.heard = s.hub.heard ++ s.told step := by
  -- the power aside, what is heard ignores all that is left
  by_cases powers : ∃ slot power, step = .setPower slot power
  · obtain ⟨slot, power, rfl⟩ := powers
    exact heard_setPower s slot power
  have untold (slot : Nat) (power : Power) : step ≠ .setPower slot power :=
    fun same => powers ⟨slot, power, same⟩
  have silent : s.told step = [] := by
    cases step <;> first | rfl | exact absurd rfl (untold _ _)
  rw [silent, List.append_nil]
  have ignores := Hub.ignoresService_heard
  have ignoring := Hub.ignoresBootstrap_heard
  by_cases serving : step.serving = true
  · exact ignores.step_untold (fun _ _ _ _ => rfl) (fun _ _ => rfl) s serving untold
  cases ordinary : step.ordinary with
  | false => exact ignoring.step_past ignores (fun _ _ => rfl) s ordinary
  | true =>
      cases step with
      | bootstrap => exact ignoring.bootstrap ignores.queryStatus (fun _ _ => rfl) s.hub
      | teardown => exact ignoring.teardown (fun _ _ => rfl) s.hub
      | loadExtension => exact ignoring.tryExtension s.hub
      | setFault call stop => exact Hub.view_setFault (fun _ _ => rfl) (fun _ _ => rfl) s call stop
      | setDisplays entries => rfl
      | setResource resource => rfl
      | setExtension outcome => rfl
      | changeFiles removes layout => rfl
      | restorePipe => rfl
      | _ => exact absurd ordinary serving

theorem heard_after (s : Session) (steps : List Step) :
    (s.after steps).hub.heard = s.hub.heard ++ s.toldAfter steps := by
  induction steps generalizing s with
  | nil => exact (List.append_nil _).symm
  | cons step rest ih =>
      change ((s.step step).2.after rest).hub.heard = s.hub.heard ++ (s.told step ++ _)
      rw [ih, heard_step, List.append_assoc]

end Session

/-! ### What the power is -/

namespace Body

/-- Whether there is nothing to a display but its kind. -/
def plain : Body → Bool
  | bare _ => true
  | _ => false

theorem plain_fresh (v : Variant) : (fresh v).plain = false := by
  cases v <;> rfl

theorem plain_served (e : Entry) (b : Body) : (b.served e).plain = b.plain := by
  cases b <;> rfl

theorem plain_shelved (b : Body) : b.shelved.plain = b.plain := by
  cases b <;> rfl

end Body

/-- The power of a display is the one it was last set to, and off where it was
    not set or the display is not in service. -/
structure Display.PowerIs (last : Option Power) (d : Display) : Prop where
  /-- A display that is nothing but its kind comes into service without doing
      anything, and no step of a session makes one. -/
  kind : d.body.plain = false
  power : d.power = if d.initialized then last.getD .off else .off

theorem Display.powerIs_fresh (v : Variant) (id : Option Int32) (handler : Handler)
    (provider : Option Nat) (last : Option Power) :
    (Display.fresh v id handler provider).PowerIs last :=
  ⟨Body.plain_fresh v, rfl⟩

section Serving

variable {last : Option Power} {d e : Display} {h h' : Hub}

/-- A display that comes into service is off, and one that does not keeps its
    power. -/
theorem Serve.BringUpOutcome.powerIs {r : Except Stop Unit}
    (raised : Serve.BringUpOutcome d h r e h')
    (powerIs : d.PowerIs last) : e.PowerIs (if r.isOk then none else last) := by
  have off (idle : d.initialized = false) : d.power = .off := by
    rw [powerIs.power, idle]
    rfl
  cases raised with
  | bare v kind =>
      -- it would come into service without a change, and keep its power
      have plain := powerIs.kind
      rw [kind] at plain
      nomatch plain
  | missed stop _ same => exact powerIs
  | unregistered stop n _ kind same => exact ⟨powerIs.kind, powerIs.power⟩
  | served entry _ kind idle free dealt =>
      exact ⟨(Body.plain_served entry d.body).trans powerIs.kind, off idle⟩
  | wasted f b _ kind dealt => exact ⟨rfl, powerIs.power⟩
  | abandoned b _ kind idle fault dealt => exact ⟨rfl, powerIs.power⟩
  | composed b _ kind idle free dealt => exact ⟨rfl, off idle⟩

/-- A display that leaves service is off. -/
theorem Serve.powerIs_takeDown {r : Except Stop Unit}
    (run : Serve.takeDown (d, h) = (r, e, h')) (powerIs : d.PowerIs last) : e.PowerIs last := by
  rcases Serve.takeDown_cases run with ⟨f, -, rfl, -⟩ | ⟨-, -, rfl, -⟩
  · exact powerIs
  · exact ⟨(Body.plain_shelved d.body).trans powerIs.kind, rfl⟩

/-- A display that can be set has the power then. -/
theorem Serve.powerIs_setPower {power : Power} {r : Except Stop Unit}
    (run : Serve.setPower power (d, h) = (r, e, h')) (powerIs : d.PowerIs last) :
    e.PowerIs (if r.isOk then some power else last) := by
  cases inService : d.initialized with
  | false =>
      rw [Serve.setPower_idle inService] at run
      obtain ⟨rfl, rfl, rfl⟩ := Serve.ended run
      exact powerIs
  | true =>
      obtain ⟨g, ended, -, -⟩ := Serve.setPower_apply inService power h
      rw [ended] at run
      obtain ⟨rfl, rfl, rfl⟩ := Serve.ended run
      have still : ({ d with power } : Display).initialized = true := inService
      refine ⟨powerIs.kind, ?_⟩
      rw [still]
      rfl

/-- A display that the hub created was never set. -/
theorem Act.CreateOutcome.powerIs {h h' : Hub} (created : Act.CreateOutcome h (.ok d) h') :
    d.PowerIs none := by
  cases created with
  | tried v id handler provider _ _ run =>
      rcases Act.commission_cases run with ⟨e, g, raised, made, -⟩ | ⟨_, _, _, -, failed, -⟩
      · obtain rfl := Except.ok.inj made
        exact raised.powerIs (Display.powerIs_fresh v id handler provider none)
      · nomatch failed

end Serving

namespace Session

/-- The power that the display in a slot was last set to since it came into
    service, one step later. -/
def lastSet (s : Session) (slot : Nat) (last : Option Power) : Step → Option Power
  | .bringUp place =>
    if place = slot ∧ (s.step (.bringUp place)).1.result.isOk then none else last
  | .setPower place power =>
    if place = slot ∧ (s.step (.setPower place power)).1.result.isOk then some power else last
  | _ => last

/-- The same after a sequence of steps. -/
def lastSetAfter (s : Session) (slot : Nat) (last : Option Power) : List Step → Option Power
  | [] => last
  | step :: rest => (s.step step).2.lastSetAfter slot (s.lastSet slot last step) rest

/-- The display in a slot, if there is one, shows the power it was last set to. -/
structure ShowsPower (s : Session) (slot : Nat) (last : Option Power) : Prop where
  held : ∀ d, s.hub.display? slot = some d → d.PowerIs last
  /-- A display that is yet to come was never set. -/
  unused : s.hub.slots.length ≤ slot → last = none

namespace ShowsPower

variable {s t : Session} {slot : Nat} {last next : Option Power}

/-- What leaves the displays in their slots changes nothing of what they show. -/
theorem of_slots (shows : s.ShowsPower slot last) (same : t.hub.slots = s.hub.slots) :
    t.ShowsPower slot last := by
  refine ⟨fun d there => shows.held d ?_, fun beyond => shows.unused (same ▸ beyond)⟩
  unfold Hub.display? at there ⊢
  rwa [← same]

/-- Nor does emptying a slot. -/
theorem setSlot (shows : s.ShowsPower slot last) (place : Nat)
    (same : t.hub.slots = (s.hub.setSlot place none).slots) : t.ShowsPower slot last := by
  have emptied : ({ s with hub := s.hub.setSlot place none } : Session).ShowsPower slot last := by
    refine ⟨fun d there => shows.held d ?_, fun beyond => shows.unused ?_⟩
    · change (s.hub.setSlot place none).display? slot = some d at there
      rw [Hub.display?_setSlot] at there
      split at there
      · nomatch there
      · exact there
    · exact (List.length_set ▸ beyond : s.hub.slots.length ≤ slot)
  exact emptied.of_slots same

/-- A display in a new slot was never set. -/
theorem addSlot (shows : s.ShowsPower slot last) {h : Hub} {d : Display}
    (same : h.slots = s.hub.slots) (powerIs : d.PowerIs none) :
    ({ s with hub := h.addSlot d } : Session).ShowsPower slot last := by
  have before : ({ s with hub := h } : Session).ShowsPower slot last := shows.of_slots same
  refine ⟨fun e there => ?_, fun beyond => before.unused ?_⟩
  · change (h.addSlot d).display? slot = some e at there
    rw [Hub.display?_addSlot] at there
    by_cases here : slot = h.slots.length
    · rw [if_pos here] at there
      obtain rfl := Option.some.inj there
      rw [before.unused (Nat.le_of_eq here.symm)]
      exact powerIs
    · rw [if_neg here] at there
      exact before.held e there
  · have longer : (h.slots ++ [some d]).length ≤ slot := beyond
    rw [List.length_append] at longer
    exact Nat.le_of_add_right_le longer

/-- What is done with the display in one slot shows in that slot alone, and
    there by its answer. -/
theorem serve {α : Type} (shows : s.ShowsPower slot last) {act : Serve α} {place : Nat}
    (served : ∀ {d r e h'}, act (d, s.hub) = (r, e, h') → h'.slots = s.hub.slots ∧
      (d.PowerIs last → e.PowerIs (if r.isOk then next else last)))
    (reply : α → Reply) (shown : Bool) : (s.serve place act reply shown).2.ShowsPower slot
      (if place = slot ∧ (s.serve place act reply shown).1.result.isOk then next else last) := by
  cases held : s.hub.display? place with
  | none =>
      have answer : (s.serve place act reply shown).1.result.isOk = false := by
        unfold Session.serve withDisplay
        rw [held]
        rfl
      rw [serve_vacant held, answer, if_neg fun both => Bool.false_ne_true both.2]
      exact shows
  | some d =>
      rcases ending : act (d, s.hub) with ⟨r, e, h'⟩
      obtain ⟨slots, powerIs⟩ := served ending
      have answer : (s.serve place act reply shown).1.result.isOk = r.isOk := by
        unfold Session.serve withDisplay
        rw [held]
        dsimp only
        rw [ending]
        cases r <;> rfl
      have hub := hub_serve held ending reply shown
      have inside := Hub.inside_of_display? held
      rw [answer]
      -- a display shows up in its own slot only, so the other slots show what they showed
      refine ⟨fun f there => ?_, fun beyond => ?_⟩
      · rw [hub, Hub.display?_setSlot, slots] at there
        by_cases here : place = slot
        · subst here
          rw [if_pos ⟨rfl, inside⟩] at there
          obtain rfl := Option.some.inj there
          simpa using powerIs (shows.held d held)
        · rw [if_neg fun both => here both.1.symm] at there
          rw [if_neg fun both => here both.1]
          exact (shows.of_slots slots : ({ s with hub := h' } : Session).ShowsPower slot last).held
            f there
      · -- the slot of a display that is served is no slot that is yet to come
        have same : (s.serve place act reply shown).2.hub.slots.length = s.hub.slots.length := by
          rw [hub, ← slots]
          exact List.length_set
        rw [same] at beyond
        rw [if_neg fun both => absurd both.1 (by omega)]
        exact shows.unused beyond

/-- What leaves the power alone shows in no slot. -/
theorem serve_unset {α : Type} (shows : s.ShowsPower slot last) {act : Serve α} {place : Nat}
    (served : ∀ {d r e h'}, act (d, s.hub) = (r, e, h') → h'.slots = s.hub.slots ∧
      (d.PowerIs last → e.PowerIs last))
    (reply : α → Reply) (shown : Bool) :
    (s.serve place act reply shown).2.ShowsPower slot last := by
  have kept : (s.serve place act reply shown).2.ShowsPower slot
      (if place = slot ∧ (s.serve place act reply shown).1.result.isOk then last else last) := by
    refine shows.serve (fun run => ?_) reply shown
    rw [ite_self]
    exact served run
  rwa [ite_self] at kept

theorem keepCreated (shows : s.ShowsPower slot last) {act : Act Display}
    (keeps : Keeps Hub.slots act)
    (powerIs : ∀ {d h'}, act s.hub = (.ok d, h') → d.PowerIs none) :
    (s.keepCreated act).2.ShowsPower slot last := by
  have slots := keeps s.hub
  unfold Session.keepCreated Session.run
  rcases ending : act s.hub with ⟨_ | d, h'⟩
  all_goals rw [ending] at slots
  · exact shows.of_slots slots
  · exact shows.addSlot slots (powerIs ending)

end ShowsPower

variable {s : Session} {slot : Nat} {last : Option Power}

/-- Every ordinary step shows in the display of a slot as it was last set. -/
theorem showsPower_step (shows : s.ShowsPower slot last) {step : Step}
    (ordinary : step.ordinary = true) :
    (s.step step).2.ShowsPower slot (s.lastSet slot last step) := by
  have ignores := Hub.ignoresService_slots
  -- a display is added, taken out or served; everything else leaves them where they are
  cases step with
  | create v handler =>
      exact shows.keepCreated (ignores.create v handler) fun run =>
        (Act.created_create run).powerIs
  | createByCode code handler =>
      exact shows.keepCreated (ignores.createByCode code handler) fun run =>
        (Act.created_createByCode run).powerIs
  | createById id handler =>
      exact shows.keepCreated (ignores.createById id handler) fun run =>
        (Act.created_createById run).powerIs
  | destroy place =>
      cases place with
      | none => exact shows.of_slots (ignores.destroy none s.hub)
      | some place => exact shows.setSlot place (ignores.destroy (s.hub.display? place) _)
  | drop place =>
      change (s.withDisplay place fun d => s.change _).2.ShowsPower slot last
      unfold withDisplay
      cases s.hub.display? place with
      | none => exact shows
      | some d => exact shows.setSlot place (ignores.drop d _)
  | bringUp place =>
      refine shows.serve (fun run => ?_) _ _
      have raised := Serve.bringUpOutcome_bringUp run
      exact ⟨raised.slots, raised.powerIs⟩
  | takeDown place =>
      refine shows.serve_unset (fun {d r e h'} run => ⟨?_, Serve.powerIs_takeDown run⟩) _ _
      have slots := ignores.takeDown (d, s.hub)
      rw [run] at slots
      exact slots
  | setPower place power =>
      refine shows.serve (fun {d r e h'} run => ⟨?_, Serve.powerIs_setPower run⟩) _ _
      have slots := congrArg (fun t : Display × Hub => t.2.slots)
        (Serve.keeps_setPower power (d, s.hub))
      rw [run] at slots
      exact slots
  | stick place f =>
      refine shows.serve_unset (fun run => ?_) _ _
      obtain ⟨rfl, rfl, rfl⟩ := Serve.ended run
      exact ⟨rfl, fun powerIs => ⟨powerIs.kind, powerIs.power⟩⟩
  | make v id concrete => exact shows.addSlot rfl ⟨Body.plain_fresh v, rfl⟩
  | _ => first | exact shows.of_slots (Hub.slots_step s rfl) | nomatch ordinary

theorem showsPower_after (shows : s.ShowsPower slot last) {steps : List Step}
    (ordinary : ∀ step ∈ steps, step.ordinary = true) :
    (s.after steps).ShowsPower slot (s.lastSetAfter slot last steps) := by
  induction steps generalizing s last with
  | nil => exact shows
  | cons step rest ih =>
      exact ih (showsPower_step shows (ordinary step List.mem_cons_self))
        fun step later => ordinary step (List.mem_cons_of_mem _ later)

/-- Handlers are told the changes of power that were asked for of displays in
    service, in their order, and nothing else. And over a run from a fresh hub,
    a display in a slot has the power that it was last set to since it came into
    service, and is off if there is none or it is not in service. -/
theorem notified_after (s : Session) (steps : List Step) :
    (s.after steps).hub.heard = s.hub.heard ++ s.toldAfter steps ∧
    (s.hub.Fresh → (∀ step ∈ steps, step.ordinary = true) → ∀ slot d,
      (s.after steps).hub.display? slot = some d →
      d.power = if d.initialized then (s.lastSetAfter slot none steps).getD .off else .off) := by
  refine ⟨heard_after s steps, fun fresh ordinary slot d held => ?_⟩
  have vacant : s.ShowsPower slot none := by
    refine ⟨fun d there => ?_, fun _ => rfl⟩
    unfold Hub.display? at there
    rw [fresh.slots] at there
    nomatch there
  exact ((showsPower_after vacant ordinary).held d held).power

/-- Two displays are switched on and off. One of them leaves service while it is
    on, and comes back. -/
def powerChanges : List Step :=
  [.bootstrap, .createById 0 (some .record), .create .offscreen (some .reenter),
    .setPower 0 .on, .setPower 1 .doze, .setPower 0 .on, .takeDown 0, .setPower 0 .standby,
    .bringUp 0, .setPower 1 .on]

theorem notified_after_powerChanges : bench.hub.Fresh ∧
    (∀ step ∈ powerChanges, step.ordinary = true) ∧
    bench.toldAfter powerChanges =
      [⟨.record, .stateChanged .builtIn (some 0) .on⟩, ⟨.record, .refresh .builtIn (some 0)⟩,
        ⟨.reenter, .stateChanged .offscreen none .doze⟩, ⟨.reenter, .topology [0]⟩,
        ⟨.reenter, .stateChanged .offscreen none .on⟩, ⟨.reenter, .topology [0]⟩,
        ⟨.reenter, .refresh .offscreen none⟩, ⟨.reenter, .topology [0]⟩] ∧
    (bench.after powerChanges).hub.heard = bench.hub.heard ++ bench.toldAfter powerChanges ∧
    ((bench.after powerChanges).hub.display? 0).map Display.power = some .off ∧
    ((bench.after powerChanges).hub.display? 1).map Display.power = some .on ∧
    ∀ slot d, (bench.after powerChanges).hub.display? slot = some d →
      d.power = if d.initialized then (bench.lastSetAfter slot none powerChanges).getD .off
        else .off := by
  have fresh : bench.hub.Fresh := fresh_recording _ _ _ _
  have ordinary : ∀ step ∈ powerChanges, step.ordinary = true := by decide
  have all := notified_after bench powerChanges
  exact ⟨fresh, ordinary, by decide, all.1, by decide, by decide, all.2 fresh ordinary⟩

end Session

end DisplayHub
