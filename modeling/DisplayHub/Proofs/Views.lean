import DisplayHub.Proofs.Dealing
import DisplayHub.Proofs.Frame

/-!
# Views that Ignore Service

What can be seen of a hub without seeing its displays being served.

`Frame` says of two particular views what leaves them alone. Many more views
are left alone by everything that is done with displays, and for one reason:
serving displays writes in few places. It notes, it asks, it reads files, it
deals out tokens and buffers. It never starts or stops the compositor and it
never releases a provider. A view that shows none of those places
`IgnoresService`, and that is checked once for each view, against the places
and not against the operations.

Files are read for reports alone. A view that shows them, and otherwise none of
those places, `IgnoresDealing`, and is left alone by everything that asks for
no report.

What handlers are told is the one thing more that changing the power of a
display writes, so a view that shows it ignores everything else. What is
remembered of the displays that were reported is written by a fresh report
alone.

Coming up and going down write in other places: in all records, in the
collaborators that are started and stopped, and in the counts of what was
handed out. A view that shows none of those `IgnoresBootstrap`. It may still
show the files, which a report reads, and the core, so what asks and what is
found out is left to the view.

## Main definitions

* `Hub.IgnoresDealing`, `Hub.IgnoresService`: A view that does not show where service writes,
  except for the files it reads, or without exception.
* `Hub.IgnoresBootstrap`: A view that does not show where coming up and going down write.

## Theorems

* `Hub.IgnoresDealing.register`, `Hub.IgnoresDealing.allocate`,
  `Hub.IgnoresService.queryStatus`: What displays ask for.
* `Hub.IgnoresDealing.takeDown`, `Hub.IgnoresDealing.setPower`, `Hub.IgnoresDealing.drop`,
  `Hub.IgnoresService.bringUp`: What is done with a display.
* `Hub.IgnoresDealing.destroy`, `Hub.IgnoresService.create`, `Hub.IgnoresService.createByCode`,
  `Hub.IgnoresService.createById`: What the hub does with one.
* `Hub.IgnoresDealing.setBandwidth`, `Hub.IgnoresDealing.limit`, `Hub.IgnoresDealing.rotates`,
  `Hub.IgnoresService.firstInterface`, `Hub.IgnoresService.refresh`: What the hub is asked.
* `Hub.IgnoresBootstrap.bootstrap`, `Hub.IgnoresBootstrap.teardown`: Coming up and going down.
* `Hub.ignoresService_slots`, `Hub.ignoresBootstrap_slots`: Displays stay in their slots.
-/

namespace DisplayHub

namespace Hub

/-- A view of the hub that does not show where the service of displays writes,
    unless it shows the files that reports are read from. -/
structure IgnoresDealing {γ : Type} (view : Hub → γ) : Prop where
  noted : ∀ level text h, view (h.note level text) = view h
  notedAll : ∀ notes h, view (h.noteAll notes) = view h
  /-- Releasing a provider is no service of displays. -/
  called : ∀ {call} h, call ≠ .destroyProvider → view (h.recordCall call) = view h
  counted : ∀ allocator h, view { h with allocator } = view h
  /-- Nor is starting or stopping the compositor. -/
  dealt : ∀ compositor h, compositor.setup = h.compositor.setup →
    view { h with compositor } = view h

/-- A view of the hub that does not show where the service of displays writes. -/
structure IgnoresService {γ : Type} (view : Hub → γ) : Prop extends IgnoresDealing view where
  read : ∀ storage h, view { h with storage } = view h

/-! ### A display beside the hub -/

section OnHub

variable {α γ : Type} {view : Hub → γ}

/-- A view of the hub, taken of a display and the hub. -/
abbrev hubView {γ : Type} (view : Hub → γ) (s : Display × Hub) : γ := view s.2

theorem keeps_onHub {act : Act α} (keeps : Keeps view act) :
    Keeps (hubView view) (Serve.onHub act) :=
  fun s => keeps s.2

theorem keeps_change (f : Display → Display) : Keeps (hubView view) (Serve.change f) :=
  keeps_modify fun _ => rfl

theorem keeps_display : Keeps (hubView view) Serve.display :=
  fun _ => rfl

theorem keeps_requireProvider : Keeps view Act.requireProvider := by
  refine keeps_get.bind fun h => ?_
  split
  · exact Act.keeps_fail _
  · exact keeps_pure _

theorem keeps_requireHandler (handler : Option Handler) :
    Keeps view (Act.requireHandler handler) := by
  cases handler with
  | none => exact Act.keeps_fail _
  | some handler => exact keeps_pure _

end OnHub

namespace IgnoresDealing

variable {α γ : Type} {view : Hub → γ} (ignores : IgnoresDealing view)

include ignores

/-! ### Asking and noting -/

theorem note (level : Level) (text : String) : Keeps view (Act.note level text) :=
  keeps_modify (ignores.noted level text)

theorem visit {call : Call} (other : call ≠ .destroyProvider) : Keeps view (Act.visit call) := by
  intro h
  rw [Act.visit_apply]
  exact ignores.called h other

theorem queryLimit (v : Variant) : Keeps view (Act.queryLimit v) :=
  (ignores.visit (by decide)).bind fun _ => keeps_get.bind fun _ =>
    (Act.keeps_ofExcept _).bind fun _ => keeps_pure _

/-! ### Tokens and buffers -/

/-- A refusal is noted or not, and nothing comes after it. -/
theorem refused {β : Type} (r : Refusal) (f : α → Act β) :
    Keeps view (Act.ofCompositor (.error r) >>= f) := by
  intro h
  unfold Act.ofCompositor
  dsimp only
  cases r.warning? with
  | none => rfl
  | some text => exact ignores.noted _ _ h

theorem grant (v : Variant) (id : Option Int32) : Keeps view (Act.grant v id) := by
  intro h
  unfold Act.grant
  rw [get_bind]
  unfold Compositor.register
  cases h.compositor.refusal? v id with
  | some r => exact ignores.refused r _ h
  | none => exact (ignores.dealt _ _ (by rfl)).trans (ignores.noted _ _ h)

theorem register (v : Variant) (id : Option Int32) : Keeps view (Act.register v id) :=
  (ignores.visit (by decide)).bind fun _ => ignores.grant v id

theorem allocate (size : Nat) : Keeps view (Act.allocate size) := by
  intro h
  unfold Act.allocate
  rw [get_bind, modify_bind]
  have noted := ignores.notedAll (h.allocator.allocationNotes size) h
  cases h.allocator.allocate size true with
  | refused f => exact noted
  | granted buffer a => exact (ignores.counted a _).trans noted
  | collapsed a => exact (ignores.counted a _).trans noted
  | aborted => exact noted

theorem revoke (token : Nat) (h : Hub) : view (h.revoke token) = view h := by
  unfold Hub.revoke
  dsimp only
  split
  · exact ignores.dealt _ _ (by rfl)
  · exact (ignores.dealt _ _ (by rfl)).trans (ignores.noted _ _ h)

theorem unregister (token : Nat) (h : Hub) : view (h.unregister token) = view h :=
  (ignores.revoke token _).trans (ignores.called h (by decide))

theorem free (buffer : Buffer) (h : Hub) : view (h.free buffer) = view h :=
  (ignores.notedAll _ _).trans (ignores.counted _ h)

/-! ### Displays -/

theorem returnToken (d : Display) (h : Hub) : view (d.returnToken h).2 = view h := by
  unfold Display.returnToken
  cases d.token with
  | none => rfl
  | some token => exact (ignores.noted _ _ _).trans (ignores.unregister token h)

theorem returnWriteback (d : Display) (h : Hub) : view (d.returnWriteback h).2 = view h := by
  unfold Display.returnWriteback
  cases d.writeback? with
  | none => rfl
  | some buffer => exact (ignores.free buffer _).trans (ignores.noted _ _ h)

theorem drop (d : Display) (h : Hub) : view (d.drop h) = view h := by
  unfold Display.drop
  dsimp only
  rw [ignores.returnToken]
  split
  · rw [ignores.noted]
    exact ignores.returnWriteback d h
  · exact ignores.returnWriteback d h

theorem noteBeside (level : Level) (text : String) :
    Keeps (hubView view) (Serve.note level text) :=
  keeps_onHub (ignores.note level text)

theorem registerBeside : Keeps (hubView view) Serve.register := by
  refine keeps_display.bind fun d => ?_
  dsimp only
  split
  · exact fun _ => rfl
  · exact (keeps_onHub (ignores.register _ _)).bind fun _ => (keeps_change _).bind fun _ =>
      ignores.noteBeside _ _

theorem registerOffscreen : Keeps (hubView view) Serve.registerOffscreen := by
  intro s
  have kept := ignores.registerBeside s
  unfold Serve.registerOffscreen
  rcases ending : Serve.register s with ⟨(f | _) | _, d, h⟩
  all_goals rw [ending] at kept
  -- without a token the buffer is given back
  · exact (ignores.returnWriteback d h).trans kept
  · exact kept
  · exact kept

theorem retire : Keeps (hubView view) Serve.retire := by
  refine keeps_display.bind fun d => ?_
  dsimp only
  split
  · exact fun _ => rfl
  · exact (keeps_change _).bind fun _ =>
      (keeps_modify fun s => ignores.returnToken s.1 s.2).bind fun _ =>
      ignores.noteBeside _ _

theorem takeDown : Keeps (hubView view) Serve.takeDown := by
  refine keeps_display.bind fun d => ?_
  cases d.stuck with
  | some f => exact fun _ => rfl
  | none =>
      refine ignores.retire.bind fun _ => keeps_display.bind fun d => ?_
      cases d.body with
      | bare v => exact keeps_pure _
      | builtIn primary => exact keeps_pure _
      | pluggable connector => exact keeps_change _
      | offscreen b => exact keeps_modify fun s => ignores.returnWriteback s.1 s.2

omit ignores in
/-- Telling a handler is noted, or written in its record. -/
theorem tell (ignores : IgnoresDealing view)
    (told : ∀ handler notice h, view (h.deliver handler notice) = view h)
    (handler : Handler) (notice : Notice) (h : Hub) : view (h.tell handler notice) = view h := by
  cases handler with
  | record => exact told _ _ h
  | reenter => exact (told _ _ _).trans (told _ _ h)
  | refreshOnly =>
      cases notice with
      | refresh v id => exact told _ _ h
      | stateChanged v id power => rfl
      | topology ids => rfl
  | announce =>
      cases notice with
      | refresh v id => exact ignores.noted _ _ h
      | stateChanged v id power => exact ignores.noted _ _ h
      | topology ids => rfl

/-- A view that does not show what handlers are told ignores the power of displays as
    well. -/
theorem setPower (told : ∀ handler notice h, view (h.deliver handler notice) = view h)
    (power : Power) : Keeps (hubView view) (Serve.setPower power) := by
  have telling (handler : Handler) (notice : Notice) : Keeps (hubView view)
      (modify fun s => (s.1, s.2.tell handler notice) : Serve PUnit) :=
    keeps_modify fun s => ignores.tell told handler notice s.2
  refine keeps_get.bind fun s => ?_
  dsimp only
  -- a display that is not in service, or has that power already, tells nobody
  by_cases idle : (!s.1.initialized) = true
  · rw [if_pos idle]
    exact fun _ => rfl
  rw [if_neg idle]
  by_cases same : s.1.power = power
  · rw [if_pos same]
    exact keeps_pure _
  rw [if_neg same]
  refine (ignores.noteBeside _ _).bind fun _ => (keeps_change _).bind fun _ =>
    (telling _ _).bind fun _ => ?_
  by_cases on : power = .on
  · rw [if_pos on]
    exact telling _ _
  · rw [if_neg on]
    exact keeps_pure _

/-! ### The hub -/

theorem decommission (d : Display) : Keeps view (Act.decommission d) := by
  intro h
  have kept := ignores.takeDown (d, h)
  unfold Act.decommission
  rcases ending : Serve.takeDown (d, h) with ⟨(f | _) | _, e, g⟩
  all_goals rw [ending] at kept
  · exact (ignores.noted _ _ _).trans ((ignores.drop e g).trans kept)
  · exact (ignores.drop e g).trans kept
  · exact (ignores.noted _ _ _).trans ((ignores.drop e g).trans kept)

theorem destroy (d : Option Display) : Keeps view (Act.destroy d) := by
  cases d with
  | none => exact Act.keeps_fail _
  | some d => exact ignores.decommission d

theorem chooseMode (mode : BandwidthMode) : Keeps view (Act.chooseMode mode) := by
  intro h
  unfold Act.chooseMode
  rw [get_bind]
  cases answer : h.compositor.setMode mode with
  | error r => exact ignores.refused r _ h
  | ok c =>
      -- a compositor that changes its policy is at work as before
      obtain ⟨setup, work, -, rfl⟩ := Compositor.setMode_eq_ok answer
      exact (ignores.dealt _ _ (by rfl)).trans (ignores.noted _ _ h)

theorem setBandwidth (mode : BandwidthMode) : Keeps view (Act.setBandwidth mode) :=
  (ignores.visit (by decide)).bind fun _ => ignores.chooseMode mode

theorem rotates (format : PixelFormat) : Keeps view (Act.rotates format) :=
  (ignores.visit (by decide)).bind fun _ => keeps_get.bind fun _ => keeps_pure _

theorem limit (v : Variant) : Keeps view (Act.limit v) :=
  keeps_requireProvider.bind fun _ => ignores.queryLimit v

end IgnoresDealing

namespace IgnoresService

variable {α γ : Type} {view : Hub → γ} (ignores : IgnoresService view)

include ignores

/-! ### Reports -/

theorem scanConnectors (root : String) : Keeps view (Act.scanConnectors root) := by
  intro h
  -- the scan starts from the files as they are here
  unfold Act.scanConnectors
  rw [get_bind]
  rcases Connector.scan h.storage root with ⟨result, storage, notes⟩
  dsimp only
  rw [set_bind]
  have scanned : view ({ h with storage }.noteAll notes) = view h :=
    (ignores.notedAll notes _).trans (ignores.read storage h)
  cases result with
  | ok topology => exact scanned
  | error fault => exact scanned

theorem queryStatus : Keeps view Act.queryStatus := by
  refine (ignores.visit (by decide)).bind fun _ => keeps_get.bind fun h => ?_
  cases h.hardware.listing with
  | described entries => exact (ignores.note _ _).bind fun _ => keeps_pure _
  | connectors root => exact ignores.scanConnectors root
  | scripted entries => exact keeps_pure _

omit ignores in
theorem pickFirst (f : Failure) (t : Topology) : Keeps view (match t.first? with
    | some interface => (pure interface : Act Interface)
    | none => Act.fail f) := by
  cases t.first? with
  | none => exact Act.keeps_fail f
  | some interface => exact keeps_pure interface

theorem queryFirst : Keeps view Act.queryFirst := by
  refine (ignores.visit (by decide)).bind fun _ => keeps_get.bind fun h => ?_
  cases h.hardware.listing with
  | described entries => exact (keeps_pure _).bind (pickFirst _)
  | connectors root => exact (ignores.scanConnectors root).bind (pickFirst _)
  | scripted entries => exact (keeps_pure _).bind (pickFirst _)

theorem firstInterface : Keeps view Act.firstInterface :=
  keeps_requireProvider.bind fun _ => ignores.queryFirst

/-- A fresh report is remembered by a hub that is up, and that is all. -/
theorem refresh (remembered : ∀ topology h, h.initialized = true →
    view { h with core := { h.core with topology } } = view h) : Keeps view Act.refresh := by
  intro h
  change view ((ite ((!h.initialized) = true) (Act.fail .notInitialized) (pure ()) >>= fun _ =>
    Act.queryStatus >>= fun topology => _ : Act Topology) h).2 = view h
  by_cases up : h.initialized = true
  · have down : ¬ (!h.initialized) = true := by simp [up]
    have asked := ignores.queryStatus h
    have same := congrArg Hub.core (Act.keeps_queryStatus h)
    rw [if_neg down, return_bind, bind_apply]
    rcases ending : Act.queryStatus h with ⟨stop | topology, u⟩
    all_goals rw [ending] at asked same
    · exact asked
    · refine (remembered topology u ?_).trans asked
      change u.core.provider.isSome = true
      rw [show u.core = h.core from same]
      exact up
  · rw [Bool.not_eq_true] at up
    rw [up]
    rfl

/-! ### New displays -/

theorem resolve (connected : Bool) : Keeps (hubView view) (Serve.resolve connected) := by
  refine (keeps_onHub ignores.queryStatus).bind fun t => keeps_display.bind fun d => ?_
  cases d.choose connected t with
  | ok entry => exact (keeps_change _).bind fun _ => keeps_pure _
  | error f => exact fun _ => rfl

theorem bringUpPanel : Keeps (hubView view) Serve.bringUpPanel := by
  refine (ignores.resolve true).bind fun entry => ignores.registerBeside.bind fun _ =>
    (keeps_change _).bind fun _ => ?_
  split
  · exact ignores.noteBeside _ _
  · exact keeps_pure _

theorem bringUpConnector : Keeps (hubView view) Serve.bringUpConnector :=
  (ignores.resolve true).bind fun _ => ignores.registerBeside.bind fun _ => keeps_change _

theorem bringUpOffscreen : Keeps (hubView view) Serve.bringUpOffscreen := by
  have placed : Keeps (hubView view) (Serve.onHub (Act.allocate Display.writebackSize) >>=
      fun buffer => Serve.change (fun d => { d with body := .offscreen (some buffer) }) >>=
      fun _ => Serve.registerOffscreen) :=
    (keeps_onHub (ignores.allocate _)).bind fun _ => (keeps_change _).bind fun _ =>
      ignores.registerOffscreen
  refine keeps_display.bind fun d => ?_
  dsimp only
  split
  · exact (ignores.resolve false).bind fun _ => placed
  · exact placed

theorem bringUp : Keeps (hubView view) Serve.bringUp := by
  refine keeps_display.bind fun d => ?_
  cases d.body with
  | bare v => exact keeps_pure _
  | builtIn primary => exact ignores.bringUpPanel
  | pluggable connector => exact ignores.bringUpConnector
  | offscreen b => exact ignores.bringUpOffscreen

theorem commission (d : Display) (v : Variant) (id : Option Int32) :
    Keeps view (Act.commission d v id) := by
  intro h
  have kept := ignores.bringUp (d, h)
  unfold Act.commission
  rcases ending : Serve.bringUp (d, h) with ⟨(f | _) | _, e, g⟩
  all_goals rw [ending] at kept
  · exact (ignores.drop e _).trans ((ignores.noted _ _ _).trans kept)
  · exact (ignores.drop e g).trans kept
  · exact (ignores.noted _ _ _).trans kept

theorem construct (v : Variant) (id : Option Int32) (handler : Handler) :
    Keeps view (Act.construct v id handler) := by
  refine keeps_get.bind fun h => ?_
  cases h.core.provider with
  | none => exact Act.keeps_fail _
  | some provider => exact ignores.commission _ v id

theorem create (v : Variant) (handler : Option Handler) : Keeps view (Act.create v handler) :=
  (keeps_requireHandler handler).bind fun _ => ignores.construct v none _

theorem createByCode (code : Int32) (handler : Option Handler) :
    Keeps view (Act.createByCode code handler) := by
  refine (keeps_requireHandler handler).bind fun _ => ?_
  cases Variant.ofCode code with
  | none => exact (ignores.note _ _).bind fun _ => Act.keeps_fail _
  | some v => exact ignores.construct v none _

theorem createById (id : Int32) (handler : Option Handler) :
    Keeps view (Act.createById id handler) := by
  refine (keeps_requireHandler handler).bind fun _ => keeps_get.bind fun h => ?_
  cases h.core.topology.find? id with
  | none => exact (ignores.note _ _).bind fun _ => Act.keeps_fail _
  | some entry => exact ignores.construct entry.variant (some id) _

end IgnoresService

/-- No operation of the hub moves displays that are in slots. -/
theorem ignoresService_slots : IgnoresService slots :=
  ⟨⟨fun _ _ _ => rfl, fun _ _ => rfl, fun _ _ => rfl, fun _ _ => rfl, fun _ _ _ => rfl⟩,
    fun _ _ => rfl⟩

/-! ### Coming up and going down -/

/-- A view of the hub that does not show where coming up and going down write,
    besides the files and the core. -/
structure IgnoresBootstrap {γ : Type} (view : Hub → γ) : Prop where
  noted : ∀ level text h, view (h.note level text) = view h
  notedAll : ∀ notes h, view (h.noteAll notes) = view h
  called : ∀ call h, view (h.recordCall call) = view h
  seen : ∀ events h, view (h.recordEvents events) = view h
  offered : ∀ offered h, view { h with offered } = view h
  dealt : ∀ compositor h, view { h with compositor } = view h
  lit : ∀ color h, view { h with color } = view h
  piped : ∀ pipeIgnored h, view { h with pipeIgnored } = view h
  issued : ∀ extensions h, view { h with extensions } = view h
  provided : ∀ providers h, view { h with providers } = view h

namespace IgnoresBootstrap

variable {γ : Type} {view : Hub → γ} (ignoring : IgnoresBootstrap view)

include ignoring

theorem note (level : Level) (text : String) : Keeps view (Act.note level text) :=
  keeps_modify (ignoring.noted level text)

theorem visit (call : Call) : Keeps view (Act.visit call) := by
  intro h
  rw [Act.visit_apply]
  exact ignoring.called call h

theorem queryResource : Keeps view Act.queryResource :=
  (ignoring.visit _).bind fun _ => keeps_get.bind fun _ => Act.keeps_ofExcept _

theorem handOut (opened : Option OpenInterface) : Keeps view (Act.handOut opened) :=
  keeps_get.bind fun _ => (keeps_modify fun _ => ignoring.issued _ _).bind fun _ => keeps_pure _

theorem loadExtension : Keeps view Act.loadExtension := by
  refine (ignoring.visit _).bind fun _ => keeps_get.bind fun h => ?_
  cases h.loader with
  | disabled => exact keeps_pure _
  | standIn outcome =>
      refine (Act.keeps_ofExcept _).bind fun given => ?_
      split
      · exact (ignoring.handOut _).bind fun _ => keeps_pure _
      · exact keeps_pure _
  | library settings =>
      refine (keeps_modify fun h => ?_).bind fun _ => (Act.keeps_ofExcept _).bind fun opened => ?_
      · exact (ignoring.seen _ _).trans (ignoring.notedAll _ h)
      cases opened with
      | none => exact keeps_pure _
      | some i => exact (ignoring.handOut _).bind fun _ => keeps_pure _

theorem noteExtension (e : Option Extension) : Keeps view (Act.noteExtension e) := by
  cases e with
  | none => exact ignoring.note _ _
  | some e => exact ignoring.note _ _

theorem createProvider : Keeps view Act.createProvider := by
  refine (ignoring.visit _).bind fun _ => keeps_get.bind fun h => ?_
  -- whatever was noted about the provider, it is counted in the end
  have count : Keeps view (do
      modify fun h => { h with providers := h.providers + 1 }
      return h.providers : Act Nat) :=
    (keeps_modify fun _ => ignoring.provided _ _).bind fun _ => keeps_pure _
  dsimp only
  cases h.hardware.listing with
  | described entries =>
      dsimp only
      split
      · exact (ignoring.note _ _).bind fun _ => count
      · exact count
  | connectors root =>
      dsimp only
      split
      · exact (Act.keeps_fail _).bind fun _ => count
      · split
        · exact (ignoring.note _ _).bind fun _ => count
        · exact count
  | scripted entries => exact count

/-- A compositor that refuses says so at most. -/
theorem ofCompositor {α : Type} (answer : Except Refusal α) :
    Keeps view (Act.ofCompositor answer) := by
  cases answer with
  | ok a => exact keeps_pure a
  | error r =>
      unfold Act.ofCompositor
      dsimp only
      cases r.warning? with
      | none => exact Act.keeps_fail _
      | some text => exact (ignoring.note _ _).bind fun _ => Act.keeps_fail _

theorem takeUp (resource : Resource) (extension : Option Extension) :
    Keeps view (Act.takeUp resource extension) :=
  keeps_get.bind fun _ => (ignoring.ofCompositor _).bind fun _ => (ignoring.note _ _).bind fun _ =>
    keeps_modify fun _ => ignoring.dealt _ _

theorem startCompositor (resource : Resource) (extension : Option Extension) :
    Keeps view (Act.startCompositor resource extension) :=
  (keeps_modify fun _ => ignoring.offered _ _).bind fun _ => (ignoring.visit _).bind fun _ =>
    ignoring.takeUp resource extension

theorem brighten (resource : Resource) : Keeps view (Act.brighten resource) := by
  refine keeps_get.bind fun h => ?_
  dsimp only
  split
  · exact keeps_pure _
  · split
    · exact (ignoring.note _ _).bind fun _ => Act.keeps_fail _
    · exact (keeps_modify fun _ => ignoring.lit _ _).bind fun _ => ignoring.note _ _

theorem tryColor (resource : Resource) : Keeps view (Act.tryColor resource) := by
  refine (Act.keeps_attempt ((ignoring.visit _).bind fun _ => ignoring.brighten resource)).bind
    fun answer => ?_
  cases answer with
  | ok _ => exact keeps_pure _
  | error f => exact ignoring.note _ _

theorem ignoreBrokenPipe : Keeps view Act.ignoreBrokenPipe := by
  refine keeps_get.bind fun h => ?_
  split
  · exact (ignoring.note _ _).bind fun _ => keeps_modify fun _ => ignoring.piped _ _
  · exact keeps_pure _

theorem letGo (e : Extension) (h : Hub) : view (h.letGo e) = view h := by
  unfold Hub.letGo destroyExtension
  split
  · rfl
  · split
    · exact ignoring.called _ h
    · split
      · exact (ignoring.noted _ _ _).trans (ignoring.seen _ h)
      · exact (ignoring.noted _ _ _).trans (ignoring.seen _ h)

theorem letGo? (e : Option Extension) (h : Hub) : view (h.letGo? e) = view h := by
  cases e with
  | none => rfl
  | some e => exact ignoring.letGo e h

theorem releaseProvider (provider others : Nat) (h : Hub) :
    view (h.releaseProvider provider others) = view h :=
  (ignoring.notedAll _ _).trans (ignoring.called _ h)

theorem leave (h : Hub) : view h.leave = view h := by
  refine (ignoring.noted _ _ _).trans ((ignoring.letGo? _ _).trans ((ignoring.dealt _ _).trans ?_))
  split
  · rfl
  · exact ignoring.noted _ _ h

theorem darken (h : Hub) : view h.darken = view h := by
  unfold Hub.darken
  split
  · exact (ignoring.noted _ _ _).trans (ignoring.lit _ h)
  · rfl

section Found

variable (asked : Keeps view Act.queryStatus) (found : ∀ core h, view { h with core } = view h)

include asked

theorem describe (extension : Option Extension) : Keeps view (Act.describe extension) := by
  have tried : Keeps view Act.tryStatus := by
    refine (Act.keeps_attempt asked).bind fun answer => ?_
    cases answer with
    | ok t => exact keeps_pure t
    | error f => exact (ignoring.note _ _).bind fun _ => keeps_pure _
  exact ignoring.queryResource.bind fun _ => (ignoring.note _ _).bind fun _ =>
    (ignoring.startCompositor _ _).bind fun _ => (ignoring.tryColor _).bind fun _ =>
    tried.bind fun _ => ignoring.ignoreBrokenPipe.bind fun _ => (ignoring.note _ _).bind fun _ =>
    keeps_pure _

include found

theorem assemble (extension : Option Extension) : Keeps view (Act.assemble extension) := by
  refine (ignoring.noteExtension extension).bind fun _ =>
    ignoring.createProvider.bind fun provider =>
    Keeps.bind ?_ fun _ => keeps_modify fun _ => found _ _
  intro h
  have kept := ignoring.describe asked extension h
  unfold Act.onStop
  rcases ending : Act.describe extension h with ⟨stop | _, u⟩
  all_goals rw [ending] at kept
  -- a provider that came for nothing is released
  · exact (ignoring.releaseProvider provider 1 _).trans ((ignoring.noted _ _ u).trans kept)
  · exact kept

theorem bootstrap : Keeps view Act.bootstrap := by
  intro h
  change view (ite (h.initialized = true) (Act.note _ _ >>= fun _ => Act.fail .parameters >>= _)
    (Act.loadExtension >>= fun e => Act.onStop (Hub.letGo? e) (Act.assemble e)) h).2 = view h
  by_cases up : h.initialized = true
  · rw [if_pos up]
    exact ignoring.noted _ _ h
  · rw [if_neg up]
    refine ignoring.loadExtension.bind (fun e => ?_) h
    intro v
    have kept := ignoring.assemble asked found e v
    unfold Act.onStop
    rcases ending : Act.assemble e v with ⟨stop | _, u⟩
    all_goals rw [ending] at kept
    · exact (ignoring.letGo? e u).trans kept
    · exact kept

omit asked

theorem teardown (h : Hub) : view h.teardown = view h := by
  have stopped (h : Hub) : view h.stopCompositor = view h :=
    (ignoring.leave _).trans (ignoring.called _ h)
  have dimmed : view h.disableColor = view h := (ignoring.darken _).trans (ignoring.called _ h)
  have dismissed (h : Hub) : view h.dismissProvider = view h := by
    unfold dismissProvider
    split
    · exact (ignoring.releaseProvider _ 0 _).trans (found _ h)
    · exact ignoring.noted _ _ h
  refine (ignoring.noted _ _ _).trans ((ignoring.letGo? _ _).trans ((found _ _).trans ?_))
  exact (dismissed _).trans ((stopped _).trans dimmed)

end Found

end IgnoresBootstrap

theorem ignoresBootstrap_slots : IgnoresBootstrap slots :=
  ⟨fun _ _ _ => rfl, fun _ _ => rfl, fun _ _ => rfl, fun _ _ => rfl, fun _ _ => rfl,
    fun _ _ => rfl, fun _ _ => rfl, fun _ _ => rfl, fun _ _ => rfl, fun _ _ => rfl⟩

end Hub

end DisplayHub
