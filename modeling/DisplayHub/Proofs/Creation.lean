import DisplayHub.Proofs.Views
import DisplayHub.Proofs.Lifecycle
import DisplayHub.Proofs.Run

/-!
# Creation That Fails

A display that cannot be created leaves no trace.

There are three ways to ask for a display, and many points at which one can
fail: before anybody is asked, when the hardware is, at the choice of an
entry, for want of memory, or at the compositor. What was claimed by then is
returned in two places. An off-screen display that gets no token returns its
buffer on the spot; whatever a new display holds when it is let go, it returns
then. Both may happen, and together they return everything exactly once, since
the first one empties the display (`ground_of_failed`).

A number that was given to a buffer stays used up. That is the one thing that
differs afterwards, and it is no part of what `SameAfterFailure` says.

Where a request is turned down for its arguments, or because the hub is not
up, nobody is asked at all. The hub is then the same to the last note.

## Main definitions

* `Request`: What a display is asked for by.
* `Act.fulfil`: Creating the display that is asked for.
* `Hub.SameAfterFailure`: What a creation that fails leaves alone.
* `Hub.declines`, `Hub.OnlyNoted`: Requests that are turned down at once, and what
  is done about them.

## Theorems

* `Hub.ignoresService_deliveries`: What handlers were told ignores service.
* `Act.ground_of_failed`: Failing to create a display returns what it claimed.
* `Act.fulfil_of_declines`: How requests are turned down.
* `Act.sameAfterFailure_fulfil`: Failing to create a display harms nothing.
-/

namespace DisplayHub

/-- What a display is asked for by. -/
inductive Request where
  | kind (variant : Variant)
  | code (code : Int32)
  | number (id : Int32)
deriving DecidableEq, Repr

/-- Creates the display that is asked for. -/
def Act.fulfil : Request → Option Handler → Act Display
  | .kind variant => create variant
  | .code code => createByCode code
  | .number id => createById id

namespace Hub

/-- Whether the hub has nothing that a request could mean: a code of no kind, or
    a number that the last report does not have. -/
def unmatched (h : Hub) : Request → Bool
  | .kind _ => false
  | .code code => (Variant.ofCode code).isNone
  | .number id => (h.core.topology.find? id).isNone

/-- Whether a request is turned down at once. -/
def declines (h : Hub) (request : Request) (handler : Option Handler) : Bool :=
  handler.isNone || h.unmatched request || !h.initialized

/-- Nothing was done, but an error may have been noted. -/
def OnlyNoted (h h' : Hub) : Prop :=
  h' = h ∨ ∃ text, h' = h.note .error text

/-- What is left alone by an attempt that failed. -/
structure SameAfterFailure (h h' : Hub) : Prop where
  /-- What the hub knows, with the last report. -/
  core : h'.core = h.core
  /-- The displays that are active, and the next token. -/
  compositor : h'.compositor = h.compositor
  outstanding : h'.allocator.outstanding = h.allocator.outstanding
  /-- The displays that somebody holds. -/
  slots : h'.slots = h.slots
  /-- What handlers were told. -/
  deliveries : h'.journal.deliveries = h.journal.deliveries

/-- Handlers are told nothing but changes of power. -/
theorem ignoresService_deliveries : IgnoresService fun h => h.journal.deliveries := by
  -- a record of another sort is no delivery
  have other (r : Record) (h : Hub) (different : r.delivery? = none) :
      (h.journal.add r).deliveries = h.journal.deliveries := by
    simp [Journal.deliveries, Journal.add, different]
  refine ⟨⟨fun _ _ h => other _ h rfl, fun notes h => ?_, fun h _ => other _ h rfl,
    fun _ _ => rfl, fun _ _ _ => rfl⟩, fun _ _ => rfl⟩
  have silent : (notes.map Record.note).filterMap Record.delivery? = [] := by
    simp [List.filterMap_map, Function.comp_def, Record.delivery?]
  simp [Hub.noteAll, Journal.deliveries, Journal.addAll, silent]

theorem IgnoresService.fulfil {γ : Type} {view : Hub → γ} (ignores : IgnoresService view)
    (request : Request) (handler : Option Handler) : Keeps view (Act.fulfil request handler) := by
  cases request with
  | kind v => exact ignores.create v handler
  | code code => exact ignores.createByCode code handler
  | number id => exact ignores.createById id handler

end Hub

namespace Act

variable {h h' : Hub}

/-- The three ways to ask for a display are ways to create one. -/
theorem created_fulfil {request : Request} {handler : Option Handler} {r : Except Stop Display}
    (run : fulfil request handler h = (r, h')) : CreateOutcome h r h' := by
  cases request with
  | kind v => exact created_create run
  | code code => exact created_createByCode run
  | number id => exact created_createById run

/-- What a new display claimed before it failed is returned, each thing once. -/
theorem ground_of_failed {stop : Stop} (failed : CreateOutcome h (.error stop) h') :
    ∃ a : Allocator, a.outstanding = h.allocator.outstanding ∧ a.limit = h.allocator.limit ∧
      h'.ground = h.dealing h.compositor a := by
  cases failed with
  | refused _ _ same => exact ⟨h.allocator, rfl, rfl, same⟩
  | tried v id handler provider _ _ run =>
      rcases commission_cases run with ⟨_, _, -, ⟨⟩, -⟩ | ⟨_, e, g, raised, -, dropped⟩
      rw [Display.ground_drop] at dropped
      have empty : (Display.fresh v id handler provider).writeback? = none := by cases v <;> rfl
      cases raised with
      | missed _ _ same =>
          -- it claimed nothing, so nothing is returned
          refine ⟨h.allocator, rfl, rfl, ?_⟩
          rw [dropped, Hub.dealing_of_same same, Hub.compositor_of_ground same,
            Hub.allocator_of_ground same]
          unfold Display.vacate
          rw [empty]
          rfl
      | unregistered _ n _ _ same =>
          refine ⟨h.allocator, rfl, rfl, ?_⟩
          rw [dropped, Hub.dealing_of_same same, Hub.compositor_of_ground same,
            Hub.allocator_of_ground same]
          have unclaimed : ((Display.fresh v id handler provider).bind n).writeback? = none := empty
          unfold Display.vacate
          rw [unclaimed]
          rfl
      | wasted f b _ kind dealt =>
          -- the buffer went back before the display was let go
          refine ⟨h.allocator.issue.free, rfl, rfl, ?_⟩
          rw [dropped, Hub.dealing_of_ground dealt, Hub.compositor_of_ground dealt,
            Hub.allocator_of_ground dealt]
          rfl
      | abandoned b _ kind idle fault dealt =>
          -- nobody was there to return the buffer before
          refine ⟨h.allocator.issue.free, rfl, rfl, ?_⟩
          rw [dropped, Hub.dealing_of_ground dealt, Hub.compositor_of_ground dealt,
            Hub.allocator_of_ground dealt]
          rfl

theorem sameAfterFailure_of_error {request : Request} {handler : Option Handler} {stop : Stop}
    (failed : (fulfil request handler h).1 = .error stop) :
    h.SameAfterFailure (fulfil request handler h).2 := by
  have deliveries := Hub.ignoresService_deliveries.fulfil request handler h
  rcases ending : fulfil request handler h with ⟨r, u⟩
  rw [ending] at failed
  obtain rfl : r = .error stop := failed
  obtain ⟨a, counted, -, dealt⟩ := ground_of_failed (created_fulfil ending)
  rw [ending] at deliveries
  have core := congrArg Hub.core dealt
  have slots := congrArg Hub.slots dealt
  refine ⟨core, Hub.compositor_of_ground dealt, ?_, slots, deliveries⟩
  rw [Hub.allocator_of_ground dealt]
  exact counted

/-! ### Requests that are turned down -/

/-- A hub that is not up constructs nothing. -/
theorem construct_of_down (down : h.initialized = false) (v : Variant) (id : Option Int32)
    (handler : Handler) : construct v id handler h = (.error (.failure .notInitialized), h) := by
  have missing : h.core.provider = none := by simpa [Hub.initialized] using down
  unfold construct
  rw [get_bind, missing]
  rfl

/-- A request that is turned down at once fails for its arguments, or else because
    the hub is not up, and nobody is asked. -/
theorem fulfil_of_declines {request : Request} {handler : Option Handler}
    (declined : h.declines request handler = true) :
    (fulfil request handler h).1 = .error (.failure
      (if handler.isNone || h.unmatched request then .parameters else .notInitialized)) ∧
    h.OnlyNoted (fulfil request handler h).2 := by
  cases handler with
  | none => cases request <;> exact ⟨rfl, Or.inl rfl⟩
  | some handler =>
      -- a request that means nothing is noted, and one that does finds the hub down
      unfold Hub.declines at declined
      rw [Option.isNone_some, Bool.false_or] at declined ⊢
      cases request with
      | kind v =>
          have down : h.initialized = false := by simpa [Hub.unmatched] using declined
          have turned := construct_of_down down v none handler
          change (construct v none handler h).1 = _ ∧ h.OnlyNoted (construct v none handler h).2
          rw [turned]
          exact ⟨rfl, Or.inl rfl⟩
      | code code =>
          unfold fulfil createByCode requireHandler
          dsimp only
          have means : h.unmatched (.code code) = (Variant.ofCode code).isNone := rfl
          rw [return_bind, means]
          rw [means] at declined
          cases known : Variant.ofCode code with
          | none => exact ⟨rfl, Or.inr ⟨_, rfl⟩⟩
          | some v =>
              rw [known] at declined
              have down : h.initialized = false := by simpa using declined
              dsimp only
              rw [construct_of_down down]
              exact ⟨rfl, Or.inl rfl⟩
      | number id =>
          unfold fulfil createById requireHandler
          dsimp only
          have means : h.unmatched (.number id) = (h.core.topology.find? id).isNone := rfl
          rw [return_bind, get_bind, means]
          rw [means] at declined
          cases found : h.core.topology.find? id with
          | none => exact ⟨rfl, Or.inr ⟨_, rfl⟩⟩
          | some entry =>
              rw [found] at declined
              have down : h.initialized = false := by simpa using declined
              dsimp only
              rw [construct_of_down down]
              exact ⟨rfl, Or.inl rfl⟩

/-- Failing to create a display harms nothing, in whatever state the hub and its
    collaborators are, and a request that is turned down at once asks nobody. -/
theorem sameAfterFailure_fulfil (request : Request) (handler : Option Handler) (h : Hub) :
    (∀ stop, (fulfil request handler h).1 = .error stop →
      h.SameAfterFailure (fulfil request handler h).2) ∧
    (h.declines request handler = true →
      (fulfil request handler h).1 = .error (.failure
        (if handler.isNone || h.unmatched request then .parameters else .notInitialized)) ∧
      h.OnlyNoted (fulfil request handler h).2) :=
  ⟨fun _ failed => sameAfterFailure_of_error failed, fulfil_of_declines⟩

end Act

namespace Session

/-- A hub that is up, where the compositor fails whoever asks for a token. -/
def registerFails : Session :=
  bench.after [.bootstrap, .setFault .register (some (.failure .memory))]

/-- An off-screen display gets its buffer there and returns it, and a number that
    was not reported is turned down. -/
theorem sameAfterFailure_registerFails :
    (Act.fulfil (.kind .offscreen) (some .record) registerFails.hub).1 = .error (.failure .memory) ∧
    (Act.fulfil (.kind .offscreen) (some .record) registerFails.hub).2.allocator.nextId = 2 ∧
    registerFails.hub.SameAfterFailure
    (Act.fulfil (.kind .offscreen) (some .record) registerFails.hub).2 ∧
    registerFails.hub.declines (.number 7) (some .record) = true ∧
    registerFails.hub.OnlyNoted (Act.fulfil (.number 7) (some .record) registerFails.hub).2 := by
  have failed : (Act.fulfil (.kind .offscreen) (some .record) registerFails.hub).1 =
      .error (.failure .memory) := rfl
  have declined : registerFails.hub.declines (.number 7) (some .record) = true := rfl
  exact ⟨failed, rfl, (Act.sameAfterFailure_fulfil _ _ _).1 _ failed, declined,
    ((Act.sameAfterFailure_fulfil _ _ _).2 declined).2⟩

end Session

end DisplayHub
