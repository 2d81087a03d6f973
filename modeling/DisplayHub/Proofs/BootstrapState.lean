import DisplayHub.Proofs.Views
import DisplayHub.Proofs.Bootstrap
import DisplayHub.Proofs.Teardown
import DisplayHub.Proofs.Run
import DisplayHub.Session.View

/-!
# The State of Coming Up and Going Down

Coming up and going down, over whole runs.

Most of what is done with a hub serves displays. What decides about coming up
and going down is not touched by that: what the hub knows, what the compositor
was started with, the color service, what collaborators answer, and how many
interfaces and providers came and went. All of it together is the
`BootstrapState` of a hub. It ignores service, and a `Transition` is one way in
which it can change. There are few of them, and only two that take a hub from
down to up and back.

The last report is not part of the state of a hub that is up, where every fresh
report replaces it. A hub that is down has none, so there it counts.

A provider is created on the way up, and released on the same way where that
fails, or else when the hub goes down. So at any time there is one more
provider created than released if the hub is up, and none if it is down. The
statement about a failed way up needs that interfaces have numbers of their
own (`Hub.HeldIssued`), which is kept along the way.

## Main definitions

* `BootstrapState`, `Hub.bootstrapState`: What decides about coming up and going down.
* `BootstrapState.Transition`: One way in which it changes.
* `Step.serving`: The steps that serve displays.
* `Step.direct`: The steps that go to the compositor and the color service.
* `Step.changesSlots`: The steps that are about displays.
* `Step.keepsTopology`: The steps that ask for no report to keep.
* `BootstrapState.ProvidersBalanced`: Providers and interfaces are accounted for.

## Theorems

* `Hub.IgnoresService.step_untold`, `Hub.IgnoresService.step`: A view that ignores
  service over the steps that serve.
* `Hub.IgnoresBootstrap.step_direct`, `Hub.IgnoresBootstrap.step_past`: One that
  ignores coming up as well, over the steps that go past the hub.
* `Hub.slots_step`: Displays stay in their slots.
* `Hub.transition_bootstrap`, `Hub.transition_teardown`, `Session.transition_step`: Every ordinary
  step is a transition.
* `Session.stands_after`: What every transition upholds, every run does.
* `Session.predictable_after`: Coming up, after any run.
-/

namespace DisplayHub

/-- What decides about coming up and going down. -/
structure BootstrapState where
  /-- What the hub knows, of one that is up without the last report. -/
  core : Core
  setup : Option Setup
  color : ColorService
  /-- What the hardware says of itself. -/
  offer : Except Failure Resource
  faults : Call → Option Stop
  /-- The interfaces handed out so far. -/
  extensions : Nat
  /-- The providers created so far. -/
  providers : Nat
  /-- The providers released so far. -/
  dismissed : Nat

namespace Hub

/-- What the hub knows, of one that is up without the last report. -/
def coreButReport (h : Hub) : Core :=
  if h.initialized then { h.core with topology := {} } else h.core

/-- What decides about coming up and going down. -/
def bootstrapState (h : Hub) : BootstrapState where
  core := h.coreButReport
  setup := h.compositor.setup
  color := h.color
  offer := h.hardware.resource
  faults := h.faults
  extensions := h.extensions
  providers := h.providers
  dismissed := h.journal.calls.count .destroyProvider

/-! ### What ignores service -/

/-- All that it shows of the records is how many providers were released. -/
theorem bootstrapState_journal {h : Hub} {j : Journal} {records : List Record}
    (added : j.records.toList = h.journal.records.toList ++ records)
    (other : .call .destroyProvider ∉ records) :
    { h with journal := j }.bootstrapState = h.bootstrapState := by
  have silent : (records.filterMap Record.call?).count .destroyProvider = 0 := by
    rw [List.count_eq_zero, List.mem_filterMap]
    rintro ⟨r, recorded, released⟩
    cases r with
    | call c => exact other (Option.some.inj released ▸ recorded)
    | _ => nomatch released
  have same : j.calls.count .destroyProvider = h.journal.calls.count .destroyProvider := by
    unfold Journal.calls
    rw [added, List.filterMap_append, List.count_append, silent, Nat.add_zero]
  change { h.bootstrapState with dismissed := j.calls.count .destroyProvider } = h.bootstrapState
  rw [same]
  rfl

theorem bootstrapState_note (level : Level) (text : String) (h : Hub) :
    (h.note level text).bootstrapState = h.bootstrapState :=
  bootstrapState_journal Array.toList_push (by simp)

theorem bootstrapState_noteAll (notes : List Note) (h : Hub) :
    (h.noteAll notes).bootstrapState = h.bootstrapState :=
  bootstrapState_journal Array.toList_appendList (by simp)

theorem bootstrapState_recordEvents (events : List LibraryEvent) (h : Hub) :
    (h.recordEvents events).bootstrapState = h.bootstrapState :=
  bootstrapState_journal Array.toList_appendList (by simp)

theorem bootstrapState_deliver (handler : Handler) (notice : Notice) (h : Hub) :
    (h.deliver handler notice).bootstrapState = h.bootstrapState :=
  bootstrapState_journal Array.toList_push (by simp)

theorem bootstrapState_recordCall {call : Call} (h : Hub) (other : call ≠ .destroyProvider) :
    (h.recordCall call).bootstrapState = h.bootstrapState :=
  bootstrapState_journal Array.toList_push (by simp [Ne.symm other])

theorem ignoresService_bootstrapState : IgnoresService bootstrapState where
  noted := bootstrapState_note
  notedAll := bootstrapState_noteAll
  called := bootstrapState_recordCall
  read _ _ := rfl
  counted _ _ := rfl
  dealt c h same := by
    unfold bootstrapState
    rw [same]
    rfl

/-- An interface that is let go is no part of the state. -/
theorem bootstrapState_letGo? (e : Option Extension) (h : Hub) :
    (h.letGo? e).bootstrapState = h.bootstrapState := by
  cases e with
  | none => rfl
  | some e =>
      -- at most it is written down that the interface was destroyed
      unfold letGo? letGo destroyExtension
      dsimp only
      split
      · rfl
      · split
        · exact bootstrapState_recordCall h (by decide)
        · split
          · exact (bootstrapState_note _ _ _).trans (bootstrapState_recordEvents _ h)
          · exact (bootstrapState_note _ _ _).trans (bootstrapState_recordEvents _ h)

/-- The next report replaces the last one of a hub that is up. -/
theorem bootstrapState_remembered (topology : Topology) (h : Hub) (up : h.initialized = true) :
    { h with core := { h.core with topology } }.bootstrapState = h.bootstrapState := by
  have still : { h with core := { h.core with topology } }.initialized = true := up
  unfold bootstrapState coreButReport
  rw [if_pos still, if_pos up]

end Hub

/-! ### Steps that serve -/

/-- The steps that serve displays or ask questions. -/
def Step.serving : Step → Bool
  | bootstrap | teardown | loadExtension => false
  | setDisplays _ | setResource _ | setExtension _ | setFault _ _ => false
  | changeFiles _ _ | restorePipe => false
  | step => step.ordinary

/-- The steps that go to the compositor and the color service directly. -/
def Step.direct : Step → Bool
  | takeUp _ _ | leave | chooseMode _ | canRotate _ | grant _ _ | revoke _ => true
  | brighten _ | darken => true
  | _ => false

/-- The steps that put a display into a slot, take one out, or do something with
    one. -/
def Step.changesSlots : Step → Bool
  | create _ _ | createByCode _ _ | createById _ _ | make _ _ _ | makeBare _ _ => true
  | destroy _ | drop _ | bringUp _ | takeDown _ | setPower _ _ | stick _ _ => true
  | resolve _ _ | register _ | unregister _ => true
  | _ => false

/-- The steps that leave the cached topology to what it is: all but coming up, going
    down, asking again, and rounds of work, which ask again. -/
def Step.keepsTopology : Step → Bool
  | bootstrap | teardown | refresh | work _ _ => false
  | _ => true

namespace Hub.IgnoresService

variable {γ : Type} {view : Hub → γ}

theorem workRound (ignores : IgnoresService view) (remembered : ∀ topology h, h.initialized = true →
    view { h with core := { h.core with topology } } = view h) (id : Int32) :
    Keeps view (Session.workRound id) := by
  refine (ignores.createById id _).bind fun d => Keeps.bind ?_ fun _ => ignores.decommission d
  intro h
  have kept := ignores.refresh remembered h
  unfold Act.onStop
  rcases ending : Act.refresh h with ⟨stop | t, u⟩
  all_goals rw [ending] at kept
  -- where there is no report, the display is let go at once
  · exact (ignores.drop d u).trans kept
  · exact kept

theorem workRounds (ignores : IgnoresService view)
    (remembered : ∀ topology h, h.initialized = true →
    view { h with core := { h.core with topology } } = view h) (id : Int32) (rounds : Nat)
    (h : Hub) : view (Session.workRounds id rounds h).2 = view h := by
  induction rounds generalizing h with
  | zero => rfl
  | succ rounds ih =>
      have first := ignores.workRound remembered id h
      unfold Session.workRounds
      rcases ending : Session.workRound id h with ⟨_ | _, u⟩
      all_goals
        rw [ending] at first
        exact (ih u).trans first

theorem workAll (ignores : IgnoresService view) (remembered : ∀ topology h, h.initialized = true →
    view { h with core := { h.core with topology } } = view h) (rounds : Nat) (ids : List Int32)
    (h : Hub) : view (Session.workAll rounds ids h).2 = view h := by
  induction ids generalizing h with
  | nil => rfl
  | cons id ids ih => exact (ih _).trans (ignores.workRounds remembered id rounds h)

section Slots

variable (seated : ∀ slots h, view { h with slots } = view h) {s : Session}

include seated

theorem serve {α : Type} {slot : Nat} {act : Serve α} (keeps : Keeps (hubView view) act)
    (reply : α → Reply) (shows : Bool) :
    view (s.serve slot act reply shows).2.hub = view s.hub := by
  cases held : s.hub.display? slot with
  | none => rw [Session.serve_vacant held]
  | some d =>
      rcases ending : act (d, s.hub) with ⟨r, e, h'⟩
      have kept := keeps (d, s.hub)
      rw [ending] at kept
      rw [Session.hub_serve held ending]
      exact (seated _ h').trans kept

theorem keepCreated {act : Act Display} (keeps : Keeps view act) :
    view (s.keepCreated act).2.hub = view s.hub := by
  have kept := keeps s.hub
  unfold Session.keepCreated Session.run
  rcases ending : act s.hub with ⟨_ | d, u⟩
  all_goals rw [ending] at kept
  · exact kept
  · exact (seated _ u).trans kept

end Slots

/-- A view that ignores service does not show any step that serves, if no handler is told
    anything. Where a report is kept, it must not show what is remembered. -/
theorem step_untold (ignores : IgnoresService view) {step : Step}
    (remembered : step.keepsTopology = false → ∀ topology h, h.initialized = true →
      view { h with core := { h.core with topology } } = view h)
    (seated : ∀ slots h, view { h with slots } = view h) (s : Session)
    (serving : step.serving = true) (untold : ∀ slot power, step ≠ .setPower slot power) :
    view (s.step step).2.hub = view s.hub := by
  -- what only looks changes nothing, and the rest is done to a display or asked of the hub
  cases step with
  | create v handler => exact keepCreated seated (ignores.create v handler)
  | createByCode code handler => exact keepCreated seated (ignores.createByCode code handler)
  | createById id handler => exact keepCreated seated (ignores.createById id handler)
  | destroy slot =>
      cases slot with
      | none => exact ignores.destroy none s.hub
      | some slot => exact (ignores.destroy (s.hub.display? slot) _).trans (seated _ s.hub)
  | setBandwidth mode => exact ignores.setBandwidth mode s.hub
  | limit v => exact ignores.limit v s.hub
  | firstInterface => exact ignores.firstInterface s.hub
  | rotates format => exact ignores.rotates format s.hub
  | refresh => exact ignores.refresh (remembered rfl) s.hub
  | cachedTopology => rfl
  | cachedResource => rfl
  | inspect slot =>
      change view (s.withDisplay slot fun d => (_, s)).2.hub = _
      unfold Session.withDisplay
      cases s.hub.display? slot <;> rfl
  | drop slot =>
      change view (s.withDisplay slot fun d => s.change _).2.hub = _
      unfold Session.withDisplay
      cases s.hub.display? slot with
      | none => rfl
      | some d => exact (ignores.drop d _).trans (seated _ s.hub)
  | bringUp slot => exact serve seated ignores.bringUp _ _
  | takeDown slot => exact serve seated ignores.takeDown _ _
  | setPower slot power => exact absurd rfl (untold slot power)
  | stick slot f => exact serve seated (keeps_change _) _ _
  | make v id concrete => exact seated _ s.hub
  | pipeIgnored => rfl
  | wasCalled name => rfl
  | strikeCalls => rfl
  | work ids rounds => exact ignores.workAll (remembered rfl) rounds ids s.hub
  | _ => nomatch serving

/-- A view that ignores notices and slots too does not show any step that serves. -/
theorem step (ignores : IgnoresService view) {step : Step}
    (told : ∀ handler notice h, view (h.deliver handler notice) = view h)
    (remembered : step.keepsTopology = false → ∀ topology h, h.initialized = true →
      view { h with core := { h.core with topology } } = view h)
    (seated : ∀ slots h, view { h with slots } = view h) (s : Session)
    (serving : step.serving = true) : view (s.step step).2.hub = view s.hub := by
  by_cases powers : ∃ slot power, step = .setPower slot power
  · obtain ⟨slot, power, rfl⟩ := powers
    exact serve seated (ignores.setPower told power) _ _
  · exact step_untold ignores remembered seated s serving
      fun slot power same => powers ⟨slot, power, same⟩

end Hub.IgnoresService

/-! ### Steps past the hub -/

/-- A token that was granted is remembered by the session, and not by the hub. -/
theorem Session.hub_grant (s : Session) (v : Variant) (id : Option Int32) :
    (s.step (.grant v id)).2.hub = (s.directly (Act.grant v id)).2.hub := by
  simp only [Session.step]
  rcases s.directly (Act.grant v id) with ⟨_ | _, _⟩ <;> rfl

/-- One that is not remembered is not taken back. -/
theorem Session.hub_revoke (s : Session) (place : Nat) :
    (s.step (.revoke place)).2.hub = s.hub ∨ ∃ token,
      (s.step (.revoke place)).2.hub = (s.directly (modify (Hub.revoke token))).2.hub := by
  simp only [Session.step]
  cases s.tokens[place]? with
  | none => exact Or.inl rfl
  | some token => exact Or.inr ⟨token, rfl⟩

namespace Hub

variable {α γ : Type} {view : Hub → γ}

namespace IgnoresBootstrap

variable (ignoring : IgnoresBootstrap view)

include ignoring

/-- An extension that is tried out shows no more than one that is loaded. -/
theorem tryExtension : Keeps view Session.tryExtension :=
  ignoring.loadExtension.bind fun extension =>
    (keeps_modify (ignoring.letGo? extension)).bind fun _ => keeps_pure _

/-- An interface that is not taken up is let go. -/
theorem takeUpWith (resource : Resource) (extension : Bool) :
    Keeps view (Session.takeUpWith resource extension) := by
  cases extension with
  | false => exact ignoring.takeUp resource none
  | true =>
      refine (ignoring.handOut none).bind fun e h => ?_
      have kept := ignoring.takeUp resource (some e) h
      unfold Act.onStop
      rcases ending : Act.takeUp resource (some e) h with ⟨stop | _, u⟩
      all_goals rw [ending] at kept
      · exact (ignoring.letGo e u).trans kept
      · exact kept

/-- Direct work in a scripted session is done apart from the hub, and then the rest
    of the hub is put back. -/
theorem directly {act : Act α} (keeps : Keeps view act) (s : Session) :
    view (s.directly act).2.hub = view s.hub := by
  have apart (compositor : Compositor) (color : ColorService) (h : Hub) :
      view { h with compositor, color } = view h :=
    (ignoring.lit color _).trans (ignoring.dealt compositor h)
  unfold Session.directly
  split
  · exact (apart _ _ _).trans ((keeps _).trans (apart _ _ s.hub))
  · exact keeps s.hub

/-- Direct work shows in no view that ignores service and coming up. -/
theorem step_direct (ignores : IgnoresService view) (s : Session) {step : Step}
    (direct : step.direct = true) : view (s.step step).2.hub = view s.hub := by
  cases step with
  | takeUp resource extension =>
      exact ignoring.directly (ignoring.takeUpWith resource extension) s
  | leave => exact ignoring.directly (keeps_modify ignoring.leave) s
  | chooseMode mode => exact ignoring.directly (ignores.chooseMode mode) s
  | canRotate format =>
      have asked : Keeps view (do return (← get).compositor.rotates format : Act Bool) :=
        fun _ => rfl
      exact ignoring.directly asked s
  | grant v id =>
      rw [s.hub_grant]
      exact ignoring.directly (ignores.grant v id) s
  | revoke place =>
      rcases s.hub_revoke place with same | ⟨token, directly⟩
      · rw [same]
      · rw [directly]
        exact ignoring.directly (keeps_modify (ignores.revoke token)) s
  | brighten resource => exact ignoring.directly (ignoring.brighten resource) s
  | darken => exact ignoring.directly (keeps_modify ignoring.darken) s
  | _ => nomatch direct

/-- Nor does what goes past the hub. -/
theorem step_past (ignores : IgnoresService view)
    (seated : ∀ slots h, view { h with slots } = view h)
    (s : Session) {step : Step} (past : step.ordinary = false) :
    view (s.step step).2.hub = view s.hub := by
  -- a display that is served piece by piece, and then the services themselves
  cases step with
  | makeBare v id => exact seated _ s.hub
  | resolve slot connected => exact IgnoresService.serve seated (ignores.resolve connected) _ _
  | register slot => exact IgnoresService.serve seated ignores.registerBeside _ _
  | unregister slot =>
      exact IgnoresService.serve seated (keeps_modify fun t => ignores.returnToken t.1 t.2) _ _
  | _ => first | exact ignoring.step_direct ignores s rfl | nomatch past

end IgnoresBootstrap

/-- A view that shows neither the hardware nor faults shows no fault that is set. -/
theorem view_setFault (hardware : ∀ hardware h, view { h with hardware } = view h)
    (faults : ∀ faults h, view { h with faults } = view h) (s : Session) (call : Call)
    (stop : Option Stop) : view (s.setFault call stop).2.hub = view s.hub := by
  unfold Session.setFault
  split
  · exact hardware _ s.hub
  · exact faults _ s.hub

/-- A step that is about no display leaves all of them in their slots. -/
theorem slots_step (s : Session) {step : Step} (unseated : step.changesSlots = false) :
    (s.step step).2.hub.slots = s.hub.slots := by
  have ignores := ignoresService_slots
  have ignoring := ignoresBootstrap_slots
  cases step with
  | bootstrap => exact ignoring.bootstrap ignores.queryStatus (fun _ _ => rfl) s.hub
  | teardown => exact ignoring.teardown (fun _ _ => rfl) s.hub
  | loadExtension => exact ignoring.tryExtension s.hub
  | setFault call stop => exact view_setFault (fun _ _ => rfl) (fun _ _ => rfl) s call stop
  | work ids rounds => exact ignores.workAll (fun _ _ _ => rfl) rounds ids s.hub
  | setBandwidth mode => exact ignores.setBandwidth mode s.hub
  | limit v => exact ignores.limit v s.hub
  | firstInterface => exact ignores.firstInterface s.hub
  | rotates format => exact ignores.rotates format s.hub
  | refresh => exact ignores.refresh (fun _ _ _ => rfl) s.hub
  | inspect slot =>
      change (s.withDisplay slot fun d => (_, s)).2.hub.slots = _
      unfold Session.withDisplay
      cases s.hub.display? slot <;> rfl
  | _ => first | rfl | exact ignoring.step_direct ignores s rfl | nomatch unseated

end Hub

/-! ### Turns -/

namespace BootstrapState

/-- One way in which the state changes. -/
inductive Transition (s : BootstrapState) : BootstrapState → Prop where
  | stay : Transition s s
  /-- The hub goes down. -/
  | fall : Transition s { s with
      core := {}
      setup := none
      color := { s.color with active := false }
      dismissed := s.dismissed + s.core.provider.isSome.toNat }
  /-- It cannot come up. -/
  | fail (loads creates : Nat) : Transition s { s with
      extensions := s.extensions + loads
      providers := s.providers + creates
      dismissed := s.dismissed + creates }
  /-- It collapses on the way up. -/
  | collapse (extension : Option Extension) (resource : Resource) (color : ColorService)
      (idle : s.setup = none)
      (reason : s.faults .startColor = some .collapse ∨ s.faults .queryStatus = some .collapse)
      (next : ∀ e, extension = some e → e.serial = s.extensions) :
      Transition s { s with
        setup := some ⟨resource, extension⟩
        color
        extensions := s.extensions + extension.isSome.toNat
        providers := s.providers + 1
        dismissed := s.dismissed + 1 }
  /-- It comes up. -/
  | rise (extension : Option Extension) (resource : Resource) (down : s.core.provider = none)
      (idle : s.setup = none) (offered : s.offer = .ok resource)
      (next : ∀ e, extension = some e → e.serial = s.extensions) :
      Transition s { s with
        core := ⟨extension, some s.providers, some resource, {}⟩
        setup := some ⟨resource, extension⟩
        color := s.color.called (s.faults .startColor) resource
        extensions := s.extensions + extension.isSome.toNat
        providers := s.providers + 1 }
  /-- An extension is tried out. -/
  | probe (loads : Nat) : Transition s { s with extensions := s.extensions + loads }

end BootstrapState

namespace Hub

variable {h h' u : Hub} {a b : Nat} {l : List Record}

/-- The state of a hub on known ground is as recorded. -/
theorem bootstrapState_of_logged (logged : h.Logged a b l h') (ground : h'.ground = u.ground) :
    h'.bootstrapState = { u.bootstrapState with
      extensions := h.extensions + a
      providers := h.providers + b
      dismissed := h.bootstrapState.dismissed + l.count (.call .destroyProvider) } := by
  have core := congrArg Hub.coreButReport ground
  have setup := congrArg (fun v : Hub => v.compositor.setup) ground
  have color := congrArg Hub.color ground
  have offer := congrArg (fun v : Hub => v.hardware.resource) ground
  have faults := congrArg Hub.faults ground
  have dismissed : h'.bootstrapState.dismissed =
      h.bootstrapState.dismissed + l.count (.call .destroyProvider) := by
    change h'.journal.calls.count .destroyProvider = h.journal.calls.count .destroyProvider + _
    rw [count_calls, count_calls, logged.trace, List.count_append]
  change BootstrapState.mk h'.ground.coreButReport h'.ground.compositor.setup h'.ground.color
    h'.ground.hardware.resource h'.ground.faults h'.extensions h'.providers
    h'.bootstrapState.dismissed = _
  rw [ground, logged.extensions, logged.providers, dismissed]
  rfl

theorem count_loading (h : Hub) : h.loading.count (.call .destroyProvider) = 0 := by
  unfold loading
  split
  · simp [List.count_eq_zero]
  · simp

/-- No provider is released on the way up. -/
theorem count_upRecords (h : Hub) : h.upRecords.count (.call .destroyProvider) = 0 := by
  have optionalRecords : h.optionalRecords.count (.call .destroyProvider) = 0 := by
    unfold optionalRecords
    split <;> simp
  unfold upRecords
  rw [List.count_append, count_loading, Nat.zero_add]
  cases h.extensionAnswer with
  | error stop => rfl
  | ok extension =>
      cases h.providerAnswer with
      | error stop => rfl
      | ok _ =>
          cases h.resourceAnswer with
          | error stop => rfl
          | ok resource =>
              dsimp only
              cases h.compositorAnswer resource extension with
              | error stop => rfl
              | ok c => simp [optionalRecords]

theorem count_destroyRecords (e : Extension) :
    e.destroyRecords.count (.call .destroyProvider) = 0 := by
  unfold Extension.destroyRecords
  split <;> simp

/-- What was created is released where the way up ends. -/
theorem count_undoRecords (h : Hub) : h.undoRecords.count (.call .destroyProvider) = h.creates := by
  unfold undoRecords creates grants
  cases h.extensionAnswer with
  | error stop => rfl
  | ok extension =>
      dsimp only
      rw [List.count_append]
      cases h.providerAnswer with
      | error stop => cases extension <;> simp [count_destroyRecords]
      | ok _ => cases extension <;> simp [count_destroyRecords]

theorem loads_of_extensionAnswer {extension : Option Extension}
    (loaded : h.extensionAnswer = .ok extension) : h.loads = extension.isSome.toNat := by
  unfold loads
  rw [loaded]
  cases extension <;> rfl

theorem offer_of_resourceAnswer {resource : Resource}
    (answer : h.resourceAnswer = .ok resource) : h.hardware.resource = .ok resource := by
  unfold resourceAnswer at answer
  revert answer
  cases h.barred .queryResource with
  | error stop => exact nofun
  | ok _ =>
      dsimp only
      cases h.hardware.resource with
      | error f => exact nofun
      | ok resource =>
          rintro ⟨⟩
          rfl

/-- Coming up, or trying to, is a transition. -/
theorem transition_bootstrap (heldIssued : h.HeldIssued) :
    BootstrapState.Transition h.bootstrapState (Act.bootstrap h).2.bootstrapState := by
  cases up : h.initialized with
  | true =>
      rw [Act.bootstrap_of_up up, bootstrapState_note]
      exact BootstrapState.Transition.stay
  | false =>
      have knows : h.coreButReport = h.core := by
        unfold coreButReport
        rw [up, if_neg Bool.false_ne_true]
      have down : h.bootstrapState.core.provider = none := by
        change h.coreButReport.provider = none
        rw [knows]
        simpa [Hub.initialized] using up
      have outcome := bootstrapOutcome_bootstrap heldIssued up
      generalize (Act.bootstrap h).1 = r at outcome
      generalize (Act.bootstrap h).2 = h' at outcome
      -- the ground tells what the hub is afterwards, the records what was counted
      cases outcome with
      | failed stop _ answer onlyLogged =>
          rw [bootstrapState_of_logged onlyLogged.toLogged onlyLogged.ground, List.count_append,
            count_upRecords, count_undoRecords, Nat.zero_add]
          exact BootstrapState.Transition.fail h.loads h.creates
      | collapsed extension resource c color _ answer collapses loaded described started logged
          ground =>
          obtain ⟨idle, -, same⟩ := Compositor.start_eq_ok started
          have stands := bootstrapState_of_logged logged
            (u := { h.dealing c h.allocator with color }) (ground.trans rfl)
          rw [List.count_append, count_upRecords, loads_of_extensionAnswer loaded, same] at stands
          rw [stands]
          exact BootstrapState.Transition.collapse extension resource color idle
            (collapse_of_not collapses) fun e given => serial_of_extensionAnswer (given ▸ loaded)
      | up extension resource c topology _ answer noCollapse loaded described started logged
          ground =>
          obtain ⟨idle, -, same⟩ := Compositor.start_eq_ok started
          have stands := bootstrapState_of_logged logged (u := { h.dealing c h.allocator with
              color := h.lit resource
              core := ⟨extension, some h.providers, some resource, topology⟩ }) (ground.trans rfl)
          rw [count_upRecords, loads_of_extensionAnswer loaded, same] at stands
          rw [stands]
          exact BootstrapState.Transition.rise extension resource down idle
            (offer_of_resourceAnswer described)
            fun e given => serial_of_extensionAnswer (given ▸ loaded)

theorem count_downRecords (h : Hub) :
    h.downRecords.count (.call .destroyProvider) = h.initialized.toNat := by
  have letGoRecords (one other e : Option Extension) :
      (Extension.letGoRecords one other e).count (.call .destroyProvider) = 0 := by
    unfold Extension.letGoRecords
    split
    · rfl
    · split
      · rfl
      · exact count_destroyRecords _
  unfold downRecords
  cases h.initialized <;> simp [letGoRecords, List.count_append]

/-- Going down is one, whether or not the hub is up. -/
theorem transition_teardown (h : Hub) :
    BootstrapState.Transition h.bootstrapState h.teardown.bootstrapState := by
  have stands := bootstrapState_of_logged (logged_teardown h) (u := { h.ground with
    core := {}
    compositor := h.compositor.stop
    color := { h.color with active := false } }) ((ground_teardown h).trans rfl)
  have provider : h.initialized = h.bootstrapState.core.provider.isSome := by
    change h.core.provider.isSome = h.coreButReport.provider.isSome
    unfold coreButReport
    split <;> rfl
  rw [count_downRecords, provider] at stands
  rw [stands]
  exact BootstrapState.Transition.fall

/-- So is trying an extension out. -/
theorem transition_tryExtension (h : Hub) :
    BootstrapState.Transition h.bootstrapState (Session.tryExtension h).2.bootstrapState := by
  obtain ⟨u, loaded, onlyLogged⟩ := Act.loadExtension_onlyLogged h
  have stands := bootstrapState_of_logged onlyLogged.toLogged onlyLogged.ground
  rw [count_loading] at stands
  have ended : (Session.tryExtension h).2.bootstrapState = u.bootstrapState := by
    unfold Session.tryExtension
    rw [bind_apply, loaded]
    cases h.extensionAnswer with
    | error stop => rfl
    | ok extension => exact bootstrapState_letGo? extension u
  rw [ended, stands]
  exact BootstrapState.Transition.probe h.loads

end Hub

namespace BootstrapState

/-- Providers and interfaces are accounted for. -/
structure ProvidersBalanced (s : BootstrapState) : Prop where
  balanced : s.providers = s.dismissed + s.core.provider.isSome.toNat
  known : ∀ e, s.core.extension = some e → e.serial < s.extensions
  dealt : ∀ setup e, s.setup = some setup → setup.extension = some e → e.serial < s.extensions

variable {s t : BootstrapState}

theorem ProvidersBalanced.transition (transition : s.Transition t)
    (providersBalanced : s.ProvidersBalanced) :
    t.ProvidersBalanced := by
  obtain ⟨balanced, known, dealt⟩ := providersBalanced
  cases transition with
  | stay => exact ⟨balanced, known, dealt⟩
  | fall => exact ⟨balanced, nofun, nofun⟩
  | fail loads creates =>
      -- a provider that came for nothing counts on both sides
      refine ⟨?_, fun e held => Nat.lt_add_right loads (known e held),
        fun setup e work held => Nat.lt_add_right loads (dealt setup e work held)⟩
      change s.providers + creates = s.dismissed + creates + s.core.provider.isSome.toNat
      omega
  | collapse extension resource color idle reason next =>
      refine ⟨?_, fun e held => Nat.lt_add_right _ (known e held), ?_⟩
      · change s.providers + 1 = s.dismissed + 1 + s.core.provider.isSome.toNat
        omega
      · rintro setup e ⟨⟩ (rfl : extension = some e)
        rw [next e rfl]
        exact Nat.lt_succ_self _
  | rise extension resource down idle offered next =>
      have fresh (e : Extension) (held : extension = some e) :
          e.serial < s.extensions + extension.isSome.toNat := by
        rw [next e held, held]
        exact Nat.lt_succ_self _
      refine ⟨?_, fresh, ?_⟩
      · change s.providers + 1 = s.dismissed + 1
        rw [balanced, down]
        rfl
      · rintro setup e ⟨⟩ held
        exact fresh e held
  | probe loads =>
      exact ⟨balanced, fun e held => Nat.lt_add_right loads (known e held),
        fun setup e work held => Nat.lt_add_right loads (dealt setup e work held)⟩

end BootstrapState

namespace Hub

/-- Where interfaces are accounted for, those that are held were handed out. -/
theorem heldIssued_of_providersBalanced {h : Hub}
    (providersBalanced : h.bootstrapState.ProvidersBalanced) : h.HeldIssued := by
  intro e held
  rcases Bool.or_eq_true_iff.mp held with core | compositor
  · have knows : h.bootstrapState.core.extension = h.core.extension := by
      change h.coreButReport.extension = _
      unfold coreButReport
      split <;> rfl
    exact providersBalanced.known e (knows.trans (by simpa using core))
  · have given : h.compositor.extension? = some e := by simpa using compositor
    obtain ⟨setup, work, offered⟩ := Option.bind_eq_some_iff.mp given
    exact providersBalanced.dealt setup e work offered

theorem providersBalanced_of_fresh {h : Hub} (fresh : h.Fresh)
    (even : h.providers = h.journal.calls.count .destroyProvider) :
    h.bootstrapState.ProvidersBalanced := by
  have coreButReport : h.coreButReport = {} := by
    unfold coreButReport initialized
    rw [fresh.core]
    rfl
  have idle : h.compositor.setup = none := by rw [fresh.compositor]
  refine ⟨?_, fun e held => ?_, fun setup e work held => ?_⟩
  · change h.providers = h.journal.calls.count .destroyProvider +
      h.coreButReport.provider.isSome.toNat
    rw [coreButReport, even]
    rfl
  · rw [show h.bootstrapState.core = {} from coreButReport] at held
    nomatch held
  · exact absurd (idle.symm.trans work) nofun

end Hub

/-! ### Runs -/

namespace Session

/-- Every ordinary step that leaves the surroundings alone is a transition. -/
theorem transition_step (s : Session) {step : Step} (ordinary : step.ordinary = true)
    (heldIssued : s.hub.HeldIssued) (calm : ∀ call stop, step ≠ .setFault call stop)
    (alwaysReports : ∀ resource, step ≠ .setResource resource) :
    s.hub.bootstrapState.Transition (s.step step).2.hub.bootstrapState := by
  by_cases serving : step.serving = true
  · have same := Hub.ignoresService_bootstrapState.step Hub.bootstrapState_deliver
      (fun _ => Hub.bootstrapState_remembered) (fun _ _ => rfl) s serving
    rw [same]
    exact BootstrapState.Transition.stay
  · cases step with
    | bootstrap => exact Hub.transition_bootstrap heldIssued
    | teardown => exact Hub.transition_teardown s.hub
    | loadExtension => exact Hub.transition_tryExtension s.hub
    | setDisplays entries => exact BootstrapState.Transition.stay
    | setExtension outcome => exact BootstrapState.Transition.stay
    | changeFiles removes layout => exact BootstrapState.Transition.stay
    | restorePipe => exact BootstrapState.Transition.stay
    | setResource resource => exact absurd rfl (alwaysReports resource)
    | setFault call stop => exact absurd rfl (calm call stop)
    | _ => exact absurd ordinary serving

/-- What every transition upholds, and every change of what collaborators answer that
    is allowed, a whole run does. -/
theorem stands_after {P : BootstrapState → Prop} (allowed : Step → Prop)
    (providersBalanced : ∀ {a}, P a → a.ProvidersBalanced)
    (kept : ∀ {a b : BootstrapState}, a.Transition b → P a → P b)
    (offers : ∀ {a : BootstrapState} {resource}, allowed (.setResource resource) → P a →
      P { a with offer := .ok resource })
    (withholds : ∀ {a : BootstrapState} {f},
    allowed (.setFault .queryResource (some (.failure f))) →
      P a → P { a with offer := .error f })
    (faults : ∀ {a : BootstrapState} {call stop}, allowed (.setFault call stop) → P a →
      P { a with faults := fun c => if c = call then stop else a.faults c })
    {s : Session} {steps : List Step} (before : P s.hub.bootstrapState)
    (ordinary : ∀ step ∈ steps, step.ordinary = true)
    (allowing : ∀ step ∈ steps, allowed step) : P (s.after steps).hub.bootstrapState := by
  -- the first step starts the rest from another session
  induction steps generalizing s with
  | nil => exact before
  | cons step rest ih =>
      have allow := allowing step List.mem_cons_self
      have one : P (s.step step).2.hub.bootstrapState := by
        by_cases fault : ∃ call stop, step = .setFault call stop
        · obtain ⟨call, stop, rfl⟩ := fault
          change P (s.setFault call stop).2.hub.bootstrapState
          unfold setFault
          split
          · exact withholds allow before
          · exact faults allow before
        · by_cases offer : ∃ resource, step = .setResource resource
          · obtain ⟨resource, rfl⟩ := offer
            exact offers allow before
          · exact kept (transition_step s (ordinary step List.mem_cons_self)
              (Hub.heldIssued_of_providersBalanced (providersBalanced before))
              (fun call stop same => fault ⟨call, stop, same⟩)
              fun resource same => offer ⟨resource, same⟩) before
      exact ih one (fun step later => ordinary step (List.mem_cons_of_mem _ later))
        fun step later => allowing step (List.mem_cons_of_mem _ later)

theorem providersBalanced_after {s : Session} (fresh : s.hub.Fresh) (even : s.created = s.destroyed)
    {steps : List Step} (ordinary : ∀ step ∈ steps, step.ordinary = true) :
    (s.after steps).hub.bootstrapState.ProvidersBalanced :=
  stands_after (fun _ => True) id BootstrapState.ProvidersBalanced.transition
    (fun _ providersBalanced =>
      ⟨providersBalanced.balanced, providersBalanced.known, providersBalanced.dealt⟩)
    (fun _ providersBalanced =>
      ⟨providersBalanced.balanced, providersBalanced.known, providersBalanced.dealt⟩)
    (fun _ providersBalanced =>
      ⟨providersBalanced.balanced, providersBalanced.known, providersBalanced.dealt⟩)
    (Hub.providersBalanced_of_fresh fresh even) ordinary fun _ _ => trivial

end Session

/-! ### Coming up after a run -/

/-- Coming up goes as the collaborators answer. -/
structure Hub.Predictable (h : Hub) : Prop where
  /-- A hub that is up asks nobody. -/
  refused : h.initialized = true → Act.bootstrap h = (.error (.failure .parameters),
    h.note .error "DisplayCore: init called on an initialized core")
  /-- The first collaborator that is needed and stops is the last one called. What
      was acquired by then is released, the latest first, and nothing changes. -/
  stopped : h.initialized = false → ∀ stop, h.bootstrapAnswer = .error stop →
    (Act.bootstrap h).1 = .error stop ∧
    h.OnlyLogged h.loads h.creates (h.upRecords ++ h.undoRecords) (Act.bootstrap h).2
  /-- Where none of them stops the hub comes up, and failures of the others do not
      matter. -/
  risen : h.initialized = false → h.NoOptionalCollapse → h.bootstrapAnswer = .ok () →
    (Act.bootstrap h).1 = .ok () ∧ (Act.bootstrap h).2.initialized = true ∧
    h.Logged h.loads 1 h.upRecords (Act.bootstrap h).2

theorem Hub.predictable_of_heldIssued {h : Hub} (heldIssued : h.HeldIssued) : h.Predictable where
  refused := Act.bootstrap_of_up
  stopped down stop answer := by
    have outcome := Hub.bootstrapOutcome_bootstrap heldIssued down
    generalize (Act.bootstrap h).1 = r at outcome ⊢
    generalize (Act.bootstrap h).2 = h' at outcome ⊢
    -- the other two endings have another answer
    cases outcome with
    | failed other _ first onlyLogged =>
        obtain rfl := Except.error.inj (first.symm.trans answer)
        exact ⟨rfl, onlyLogged⟩
    | collapsed _ _ _ _ _ ready => exact absurd (ready.symm.trans answer) nofun
    | up _ _ _ _ _ ready => exact absurd (ready.symm.trans answer) nofun
  risen down noCollapse ready := by
    have outcome := Hub.bootstrapOutcome_bootstrap heldIssued down
    generalize (Act.bootstrap h).1 = r at outcome ⊢
    generalize (Act.bootstrap h).2 = h' at outcome ⊢
    cases outcome with
    | failed _ _ answer => exact absurd (answer.symm.trans ready) nofun
    | collapsed _ _ _ _ _ _ collapses => exact absurd noCollapse collapses
    | up extension resource c topology _ _ _ _ _ _ logged ground =>
        have core := congrArg Hub.initialized ground
        exact ⟨rfl, core, logged⟩

namespace Session

/-- After any run there is one more provider created than released if the hub is
    up, and none if it is down, and from there coming up goes as the collaborators
    answer. -/
theorem predictable_after {s : Session} (fresh : s.hub.Fresh) (even : s.created = s.destroyed)
    {steps : List Step} (ordinary : ∀ step ∈ steps, step.ordinary = true) :
    (s.after steps).created = (s.after steps).destroyed + (s.after steps).hub.initialized.toNat ∧
    (s.after steps).hub.Predictable := by
  have providersBalanced := providersBalanced_after fresh even ordinary
  have up : (s.after steps).hub.bootstrapState.core.provider.isSome =
      (s.after steps).hub.initialized := by
    change (s.after steps).hub.coreButReport.provider.isSome = _
    unfold Hub.coreButReport
    split <;> rfl
  refine ⟨?_, Hub.predictable_of_heldIssued (Hub.heldIssued_of_providersBalanced providersBalanced)⟩
  rw [← up]
  exact providersBalanced.balanced

/-- The description cannot be had at first. Then the hub comes up, and is asked to
    come up once more. -/
def failedBootstraps : List Step :=
  [.setExtension (.ok true), .setFault .queryResource (some (.failure .memory)), .bootstrap,
    .setFault .queryResource none, .bootstrap, .bootstrap]

theorem predictable_after_failedBootstraps : bench.hub.Fresh ∧ bench.created = bench.destroyed ∧
    (∀ step ∈ failedBootstraps, step.ordinary = true) ∧
    (bench.after failedBootstraps).destroyed = 1 ∧
    (bench.after failedBootstraps).created = 1 +
    (bench.after failedBootstraps).hub.initialized.toNat ∧
    (bench.after failedBootstraps).hub.Predictable := by
  have fresh : bench.hub.Fresh := fresh_recording _ _ _ _
  have ordinary : ∀ step ∈ failedBootstraps, step.ordinary = true := by decide
  have released : (bench.after failedBootstraps).destroyed = 1 := by decide
  have all := predictable_after fresh (by rfl : bench.created = bench.destroyed) ordinary
  rw [released] at all
  exact ⟨fresh, rfl, ordinary, released, all⟩

end Session

end DisplayHub
