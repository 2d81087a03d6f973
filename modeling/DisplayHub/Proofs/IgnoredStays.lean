import DisplayHub.Proofs.Destruction
import DisplayHub.Proofs.Stay

/-!
# Stays that Nobody Notices

Runs on which displays come and go between the steps.

Nobody is answered differently for stays that were there before. The two runs that
this compares are on two sessions, one that receives the stays and one that does not
(`Session.play`). Between the steps the second one does nothing, but the files are as
they would be: a report that the display asked for may have been the moment at which
hardware went away, and that is an event of the surroundings and not of the hub.
Where reports leave the files alone, the second run is just the steps
(`Session.play_staysKeepFiles`).

The first session is an image of the second one all the way. At each stay the
translation of tokens changes, since the tokens that are used up are skipped from
then on, and images of images are images (`Session.SameUpTo.trans`). What makes this go
through is that every token held is one that was granted, which is a matter of the
accounts (`Accounted`) and so has to be carried along.

Images do not show how many buffers are outstanding. What is outstanding is what
displays hold and what was forgotten, and images hold the same. A display forgets a
buffer when it is brought into service once more and gets as far as being handed
another one, which is decided by its number, the report and the size of a buffer
(`Serve.nextId_bringUp`). So images forget alike.

## Main definitions

* `Hub.handsOut`: Whether a display gets as far as being handed a buffer.
* `StepOrStay`: A step, or a stay.
* `Session.receive`, `Session.readFiles`: A stay that takes place, and one that does not.
* `Session.play`: The run with either.
* `Session.StaysKeepFiles`: A run on which reports leave the files alone.
* `Session.SameButNumbers`: The two sessions.
* `Session.IgnoresStays`: Nobody can tell whether the stays took place.

## Theorems

* `Serve.nextId_bringUp`: Buffers that are handed out are numbered on.
* `Session.SameUpTo.live`, `Session.SameUpTo.forgets`: Images hold the same, and forget
  alike.
* `Session.sameUpTo_of_neutral`: A session is its own image after a stay.
* `Session.SameButNumbers.step`, `Session.SameButNumbers.stay`: One
  entry of the schedule on both sides.
* `Session.SameButNumbers.play`: Any number of them.
* `Session.ignoresStays_after`: Stays leave nothing behind, and no later answer depends on
  them.
-/

namespace DisplayHub

/-! ### Buffers that are handed out -/

/-- Whether an off-screen display that comes into service gets as far as being handed a
    buffer. -/
def Hub.handsOut (h : Hub) (id : Option Int32) : Bool :=
  (h.finding .offscreen id).isOk && decide (Display.writebackSize ≤ h.allocator.limit)

namespace Serve

variable {d : Display} {b : Option Buffer}

theorem nextId_vacate (d : Display) (a : Allocator) : (d.vacate a).nextId = a.nextId := by
  unfold Display.vacate
  cases d.writeback? <;> rfl

/-- Asking for a token hands no buffer out. -/
theorem nextId_registerOffscreen (kind : d.body = .offscreen b) (h : Hub) :
    (registerOffscreen (d, h)).2.2.allocator.nextId = h.allocator.nextId := by
  rcases ending : registerOffscreen (d, h) with ⟨r, e, u⟩
  dsimp only
  rcases registerOffscreen_cases kind ending with
    ⟨f, -, -, dealt⟩ | ⟨-, -, same, -⟩ | ⟨-, -, -, -, dealt⟩
  · rw [Hub.allocator_of_ground dealt]
    exact nextId_vacate d _
  · rw [Hub.allocator_of_ground same]
  · rw [Hub.allocator_of_ground dealt]

/-- A buffer is handed out if there is room for it, whatever comes of it. -/
theorem nextId_place (d : Display) (h : Hub) :
    ((onHub (Act.allocate Display.writebackSize) >>= fun buffer =>
      change (fun d => { d with body := .offscreen (some buffer) }) >>= fun _ =>
      registerOffscreen) (d, h)).2.2.allocator.nextId = h.allocator.nextId +
        (decide (Display.writebackSize ≤ h.allocator.limit)).toNat := by
  obtain ⟨u, given, -, -, ground⟩ := Act.allocate_apply h
  have asked : onHub (Act.allocate Display.writebackSize) (d, h) = (h.roomAnswer, d, u) := by
    change ((Act.allocate Display.writebackSize h).1, d,
      (Act.allocate Display.writebackSize h).2) = _
    rw [given]
  rw [bind_apply, asked]
  cases room : h.roomAnswer with
  | error stop =>
      have full : ¬ Display.writebackSize ≤ h.allocator.limit := by
        rw [← Hub.exists_room_iff, room]
        exact fun ⟨_, given⟩ => nomatch given
      rw [room] at ground
      have allocator := Hub.allocator_of_ground (ground.trans rfl : _ = h.dealing _ _)
      rw [decide_eq_false full]
      exact congrArg Allocator.nextId allocator
  | ok buffer =>
      have spacious := Hub.exists_room_iff.mp ⟨buffer, room⟩
      rw [room] at ground
      have issued := Hub.allocator_of_ground ground
      rw [decide_eq_true spacious]
      -- and nothing more is handed out where the token is asked for
      refine (nextId_registerOffscreen rfl u).trans ?_
      rw [issued]
      rfl

/-- What an off-screen display has to be given before it is handed a buffer. -/
theorem nextId_bringUp (kind : d.body = .offscreen b) (h : Hub) :
    (bringUp (d, h)).2.2.allocator.nextId = h.allocator.nextId + (h.handsOut d.id).toNat := by
  have offscreen : d.variant = .offscreen := congrArg Body.variant kind
  unfold bringUp bringUpOffscreen Hub.handsOut
  rw [display_bind]
  dsimp only
  rw [kind]
  change ((ite (d.id.isSome = true) (resolve false >>= _) _ : Serve Unit)
    (d, h)).2.2.allocator.nextId = _
  cases number : d.id with
  | none => exact nextId_place d h
  | some k =>
      have chosen (t : Topology) : d.choose false t = t.entryFor .offscreen (some k) := by
        unfold Display.choose Topology.entryFor
        rw [number, offscreen]
        rfl
      have allocator : h.asked.allocator = h.allocator :=
        Hub.allocator_of_ground (h.ground_asked.trans rfl : _ = h.dealing _ _)
      have looks : ¬ (Variant.offscreen = .offscreen ∧ some k = none) := by simp
      rw [if_pos Option.isSome_some, bind_apply, resolve_apply, Hub.finding_of_looks looks]
      -- nothing is handed out before there is an entry
      cases report : h.report with
      | error stop => exact congrArg Allocator.nextId allocator
      | ok t =>
          dsimp only
          rw [chosen]
          cases choice : t.entryFor .offscreen (some k) with
          | error f => exact congrArg Allocator.nextId allocator
          | ok entry =>
              have placed := nextId_place (d.bind entry.id) h.asked
              rw [allocator] at placed
              exact placed

end Serve

/-- A display that is brought into service forgets its buffer if it has one and gets as
    far as being handed another one. -/
theorem Session.forgets_eq (s : Session) (slot : Nat) : s.forgets (.bringUp slot) =
    (s.hub.display? slot).any fun d => d.stores && s.hub.handsOut d.id := by
  cases held : s.hub.display? slot with
  | none => simp only [forgets, held, Option.any_none]
  | some d =>
      rcases ending : Serve.bringUp (d, s.hub) with ⟨r, e, u⟩
      rw [forgets_bringUp held ending]
      change (d.stores && decide (u.allocator.nextId ≠ s.hub.allocator.nextId)) =
        (d.stores && s.hub.handsOut d.id)
      cases kind : d.body with
      | offscreen b =>
          have numbered := Serve.nextId_bringUp kind s.hub
          rw [ending] at numbered
          dsimp only at numbered
          rw [numbered]
          cases s.hub.handsOut d.id <;> simp
      | _ =>
          -- a display of another kind has no buffer to forget
          have empty : d.writeback? = none := by
            unfold Display.writeback?
            rw [kind]
          rw [Display.stores_of_empty empty]
          rfl

/-! ### What images hold -/

namespace Hub.SameUpTo

variable {ρ : Nat → Nat} {agreed : Prop} {h u : Hub}

/-- Images are told the same by the hardware. -/
theorem report (images : h.SameUpTo ρ agreed u) : h.report = u.report := by
  have alike := (Act.parallel_queryStatus h u images).1
  unfold Hub.report
  generalize (Act.queryStatus h).1 = r at alike ⊢
  generalize (Act.queryStatus u).1 = q at alike ⊢
  cases alike with
  | ok same => exact congrArg Except.ok same
  | error stop => rfl

theorem handsOut (images : h.SameUpTo ρ agreed u) (id : Option Int32) :
    h.handsOut id = u.handsOut id := by
  have limit : h.allocator.limit = u.allocator.limit := congrArg Observed.limit images.observed
  unfold Hub.handsOut Hub.finding
  rw [images.report, limit]

end Hub.SameUpTo

namespace Display

variable {ρ : Nat → Nat} {d e : Display}

theorem stores_erased (d : Display) : d.erased.stores = d.stores := by
  have erasures : d.erased.writeback? = d.writeback?.map Buffer.erased := by
    unfold writeback? erased
    cases d.body <;> rfl
  unfold stores
  rw [erasures, Option.isSome_map]

theorem SameUpTo.stores (images : d.SameUpTo ρ e) : d.stores = e.stores := by
  rw [← stores_erased d, images.erased, stores_erased]

end Display

/-- A step on displays that stay where they are is the same step. -/
theorem Step.reseat_id (step : Step) : step.reseat id = step := by
  cases step with
  | destroy slot => exact congrArg destroy (congrFun Option.map_id slot)
  | _ => rfl

theorem Outcome.reseat_id (o : Outcome) : o.reseat id = o := by
  have same (reply : Reply) : reply.reseat id = reply := by
    cases reply with
    | display d slot => exact congrArg (Reply.display d) (congrFun Option.map_id slot)
    | _ => rfl
  obtain ⟨result, shown⟩ := o
  cases result with
  | error stop => rfl
  | ok reply => exact congrArg (fun reply => Outcome.mk (.ok reply) shown) (same reply)

namespace Session

variable {ρ : Nat → Nat} {agreed : Prop} {s t : Session}

namespace SameUpTo

/-- Images hold the same displays in the same slots. -/
theorem live (images : s.SameUpTo ρ agreed id t) :
    s.hub.live.map Display.erased = t.hub.live.map Display.erased := by
  -- slot by slot, the displays are the same but for their numbers
  have erasures : s.hub.slots.map (Option.map Display.erased) =
      t.hub.slots.map (Option.map Display.erased) := by
    refine List.ext_getElem ?_ fun i one other => ?_
    · rw [List.length_map, List.length_map]
      exact images.ahead 0
    · have seated := images.seated i
      rw [List.length_map] at one other
      unfold Hub.display? at seated
      rw [List.getElem?_eq_getElem other,
        List.getElem?_eq_getElem (show id i < _ from one)] at seated
      rw [List.getElem_map, List.getElem_map]
      change Option.Rel _ s.hub.slots[i] t.hub.slots[i] at seated
      generalize s.hub.slots[i] = d at seated ⊢
      generalize t.hub.slots[i] = e at seated ⊢
      cases seated with
      | none => rfl
      | some displays => exact congrArg some displays.erased
  have held (h : Hub) : h.live.map Display.erased =
      (h.slots.map (Option.map Display.erased)).filterMap id := by
    unfold Hub.live
    rw [List.map_filterMap, List.filterMap_map]
    rfl
  rw [held, held, erasures]

/-- As many of them hold a buffer. -/
theorem countP_stores (images : s.SameUpTo ρ agreed id t) :
    s.hub.live.countP Display.stores = t.hub.live.countP Display.stores := by
  have erasures (h : Hub) : (h.live.map Display.erased).countP Display.stores =
      h.live.countP Display.stores := by
    rw [List.countP_map]
    exact List.countP_congr fun d _ => by rw [Function.comp_apply, Display.stores_erased]
  rw [← erasures, images.live, erasures]

/-- They forget the same. -/
theorem forgets (images : s.SameUpTo ρ agreed id t) (step : Step) :
    s.forgets step = t.forgets step := by
  cases step with
  | bringUp slot =>
      have seated : Option.Rel (Display.SameUpTo ρ) (s.hub.display? slot) (t.hub.display? slot) :=
        images.seated slot
      rw [forgets_eq, forgets_eq]
      generalize s.hub.display? slot = d at seated ⊢
      generalize t.hub.display? slot = e at seated ⊢
      cases seated with
      | none => rfl
      | some displays =>
          rw [Option.any_some, Option.any_some, displays.stores, displays.id,
            images.hub.handsOut]
  | _ => rfl

end SameUpTo

end Session

/-! ### Runs -/

/-- What somebody does with a session: a step, or receiving a display for a while. -/
inductive StepOrStay where
  | step (step : Step)
  | stay (stay : Stay)

/-- The step that is taken, if one is. -/
def StepOrStay.step? : StepOrStay → Option Step
  | step taken => some taken
  | stay _ => none

namespace Session

/-- A stay that takes place. -/
def receive (stay : Stay) (s : Session) : Session :=
  { s with hub := (Act.stay stay s.hub).2 }

/-- A stay that does not take place, while the files become what they would be. -/
def readFiles (stay : Stay) (s : Session) : Session :=
  { s with hub := { s.hub with storage := (Act.stay stay s.hub).2.storage } }

/-- A run, where something is done about every stay: what the steps answer, and the
    session afterwards. -/
def play (host : Stay → Session → Session) (s : Session) : List StepOrStay → List Outcome × Session
  | [] => ([], s)
  | .step step :: rest =>
    let (answer, s) := s.step step
    let (answers, s) := s.play host rest
    (answer :: answers, s)
  | .stay stay :: rest => (host stay s).play host rest

/-- No report that a stay asks for changes the files. -/
def StaysKeepFiles (s : Session) : List StepOrStay → Prop
  | [] => True
  | .step step :: rest => (s.step step).2.StaysKeepFiles rest
  | .stay stay :: rest => s.readFiles stay = s ∧ s.StaysKeepFiles rest

/-- Where the files stay as they are, a run without the stays is the steps alone. -/
theorem play_staysKeepFiles {s : Session} {schedule : List StepOrStay}
    (staysKeepFiles : s.StaysKeepFiles schedule) : s.play readFiles schedule =
      (s.answers (schedule.filterMap StepOrStay.step?),
      s.after (schedule.filterMap StepOrStay.step?)) := by
  induction schedule generalizing s with
  | nil => rfl
  | cons entry rest ih =>
      cases entry with
      | step step =>
          have later := ih (s := (s.step step).2) staysKeepFiles
          unfold play
          dsimp only
          rw [later]
          rfl
      | stay stay =>
          obtain ⟨same, later⟩ := staysKeepFiles
          unfold play
          rw [same]
          exact ih later

/-! ### Side by side -/

/-- A hub whose numbers are used up is an image of the one from before, with the files
    as they were found later, and so are their sessions. -/
theorem sameUpTo_of_neutral {s : Session} {u : Hub} {f : Nat} (neutral : s.hub.Neutral u)
    (accounts : Accounted f s.hub.live s.hub.compositor) :
    SameUpTo (Hub.beyond s.hub.compositor.nextToken u.compositor.nextToken) True id
      { s with hub := u } { s with hub := { s.hub with storage := u.storage } } := by
  refine ⟨rfl, neutral.sameUpTo accounts.known, fun i => ?_, fun i => ?_⟩
  · dsimp only
    rw [neutral.slots]
    rfl
  · have same : u.display? i = s.hub.display? i := by
      unfold Hub.display?
      rw [neutral.slots]
    change Option.Rel _ (u.display? i) (s.hub.display? i)
    rw [same]
    cases held : s.hub.display? i with
    | none => exact Option.Rel.none
    | some d =>
        refine Option.Rel.some ⟨rfl, ?_⟩
        -- a display that has a token was granted it before
        cases taken : d.token with
        | none => rfl
        | some token =>
            have among := List.mem_filterMap.mpr ⟨d, Hub.mem_live_iff.mpr ⟨i, held⟩, taken⟩
            rw [Option.map_some, Hub.beyond_of_known (accounts.granted token among)]

/-- Two sessions that differ in numbers only, where everything is accounted for. -/
structure SameButNumbers (s t : Session) : Prop where
  images : ∃ ρ : Nat → Nat, Function.Injective ρ ∧ s.SameUpTo ρ True id t
  /-- Every token that is held was granted. -/
  accounts : ∃ f, Accounted f s.hub.live s.hub.compositor
  /-- As many buffers are lost. -/
  counted : ∃ n, (s.ledger 0 n).Counted ∧ (t.ledger 0 n).Counted

namespace SameButNumbers

variable {s t : Session}

/-- What is in order differs in no number from itself. -/
theorem of_accounted {f n : Nat} (accounts : Accounted f s.hub.live s.hub.compositor)
    (counted : (s.ledger f n).Counted) : s.SameButNumbers s := by
  have neutral : s.hub.Neutral s.hub := ⟨rfl, rfl, rfl, Nat.le_refl _, rfl⟩
  exact ⟨⟨_, Hub.beyond_injective neutral.later, sameUpTo_of_neutral neutral accounts⟩,
    ⟨f, accounts⟩, n, counted, counted⟩

theorem outstanding (sameButNumbers : s.SameButNumbers t) :
    s.hub.allocator.outstanding = t.hub.allocator.outstanding := by
  obtain ⟨ρ, -, images⟩ := sameButNumbers.images
  obtain ⟨n, left, right⟩ := sameButNumbers.counted
  have left : s.hub.allocator.outstanding = s.hub.live.countP Display.stores + n := left
  rw [left, images.countP_stores]
  exact right.symm

/-- A step is answered alike, but for numbers, and leaves such sessions behind. -/
theorem step (sameButNumbers : s.SameButNumbers t) {step : Step} (plain : step.plain = true) :
    (s.step step).1.erased = (t.step step).1.erased ∧
    (s.step step).2.SameButNumbers (t.step step).2 := by
  have ordinary := Step.ordinary_of_plain plain
  obtain ⟨ρ, apart, images⟩ := sameButNumbers.images
  obtain ⟨f, accounts⟩ := sameButNumbers.accounts
  obtain ⟨n, left, right⟩ := sameButNumbers.counted
  obtain ⟨same, after⟩ := images.step apart Function.injective_id plain
  unfold Outcome.Matches at same
  rw [step.reseat_id] at same after
  rw [Outcome.reseat_id] at same
  -- each side counts for itself, and what is forgotten is the same
  refine ⟨same, ⟨ρ, apart, after⟩, ⟨_, accounted_step accounts ordinary⟩, ?_⟩
  have left := counted_step left ordinary
  have right := counted_step right ordinary
  rw [images.forgets] at left
  exact ⟨_, left, right⟩

/-- A stay on one side leaves such sessions behind, if the files on the other side become what
    they would be. -/
theorem stay (sameButNumbers : s.SameButNumbers t) (stay : Stay) :
    (s.receive stay).SameButNumbers (t.readFiles stay) := by
  obtain ⟨ρ, apart, images⟩ := sameButNumbers.images
  obtain ⟨f, accounts⟩ := sameButNumbers.accounts
  obtain ⟨n, left, right⟩ := sameButNumbers.counted
  have neutral := Act.neutral_stay accounts.known stay
  have live : (s.receive stay).hub.live = s.hub.live :=
    congrArg (fun slots => slots.filterMap id) neutral.slots
  refine ⟨⟨_, (Hub.beyond_injective neutral.later).comp apart, ?_⟩, ⟨f, ?_⟩, n, ?_, right⟩
  · -- the one side is an image of itself without the stay, and that of the other one
    obtain ⟨-, ended⟩ := Act.parallel_stay apart stay s.hub t.hub images.hub
    have files : (Act.stay stay s.hub).2.storage = (Act.stay stay t.hub).2.storage :=
      congrArg Observed.storage ended.observed
    have filesRead : (s.readFiles stay).SameUpTo ρ True id (t.readFiles stay) := by
      refine images.become ⟨?_, images.hub.compositor⟩ rfl rfl
      have observed := congrArg
        (fun g : Observed => { g with storage := (Act.stay stay s.hub).2.storage })
        images.hub.observed
      refine observed.trans ?_
      rw [files]
      rfl
    exact (sameUpTo_of_neutral neutral accounts).trans filesRead
  · rw [live]
    exact accounts.advance neutral.active neutral.later
  · change (s.receive stay).hub.allocator.outstanding =
      (s.receive stay).hub.live.countP Display.stores + n
    rw [live]
    exact neutral.outstanding.trans left

/-- Any number of stays between the steps of one side go unnoticed. -/
theorem play (sameButNumbers : s.SameButNumbers t) {schedule : List StepOrStay}
    (plain : ∀ step ∈ schedule.filterMap StepOrStay.step?, step.plain = true) :
    (s.play receive schedule).1.map Outcome.erased =
    (t.play readFiles schedule).1.map Outcome.erased ∧
      (s.play receive schedule).2.SameButNumbers (t.play readFiles schedule).2 := by
  -- the relation is carried along, under another translation after each stay
  induction schedule generalizing s t with
  | nil => exact ⟨rfl, sameButNumbers⟩
  | cons entry rest ih =>
      cases entry with
      | step step =>
          obtain ⟨same, after⟩ := sameButNumbers.step (plain step List.mem_cons_self)
          obtain ⟨answers, last⟩ := ih after fun step later =>
            plain step (List.mem_cons_of_mem _ later)
          exact ⟨congrArg₂ List.cons same answers, last⟩
      | stay stay => exact ih (sameButNumbers.stay stay) plain

end SameButNumbers

/-- Nobody can tell whether stays took place between the steps. -/
structure IgnoresStays (s : Session) (schedule : List StepOrStay) : Prop where
  /-- The steps are answered the same but for numbers, -/
  answers : (s.play receive schedule).1.map Outcome.erased =
    (s.play readFiles schedule).1.map Outcome.erased
  /-- and the sessions are the same but for numbers in the end. -/
  images : ∃ ρ : Nat → Nat, Function.Injective ρ ∧
    (s.play receive schedule).2.SameUpTo ρ True id (s.play readFiles schedule).2
  outstanding : (s.play receive schedule).2.hub.allocator.outstanding =
    (s.play readFiles schedule).2.hub.allocator.outstanding
  /-- Where the files stay as they are, this is as if there were no stays. -/
  staysKeepFiles : s.StaysKeepFiles schedule → s.play readFiles schedule =
    (s.answers (schedule.filterMap StepOrStay.step?), s.after (schedule.filterMap StepOrStay.step?))

/-- Whatever was done before, a display that is created can be switched and destroyed,
    and then all is as it was. And no step is answered differently because displays
    came and went before it, nor because they could not come. -/
theorem ignoresStays_after {s : Session} (fresh : s.hub.Fresh) {earlier : List Step}
    (ordinary : ∀ step ∈ earlier, step.ordinary = true) :
    (∀ (stay : Stay) (d : Display),
      (Act.fulfil stay.request stay.handler (s.after earlier).hub).1 = .ok d →
        (Act.stay stay (s.after earlier).hub).1 = .ok () ∧
        (s.after earlier).hub.Neutral (Act.stay stay (s.after earlier).hub).2) ∧
    ∀ schedule : List StepOrStay,
    (∀ step ∈ schedule.filterMap StepOrStay.step?, step.plain = true) →
      (s.after earlier).IgnoresStays schedule := by
  have accounts := accounted_after fresh ordinary
  refine ⟨fun stay d created => ?_, fun schedule plain => ?_⟩
  · exact ⟨Act.stay_ok accounts.known created, Act.neutral_stay accounts.known stay⟩
  · have sameButNumbers := SameButNumbers.of_accounted accounts (counted_after fresh ordinary)
    obtain ⟨answers, last⟩ := sameButNumbers.play plain
    exact ⟨answers, last.images, last.outstanding, play_staysKeepFiles⟩

/-- An off-screen display that is switched on and off. -/
def offscreenStay : Stay :=
  ⟨.kind .offscreen, some .record, [.on, .off]⟩

/-- Stays before and between the steps, one of which is in vain as the panel is driven.
    The last step makes a display forget its buffer. -/
def mixedStays : List StepOrStay :=
  [.stay offscreenStay, .step (.createById 0 (some .record)), .stay ⟨.number 0, some .record, []⟩,
    .stay offscreenStay, .step (.create .offscreen (some .record)), .step (.bringUp 1)]

/-- The tokens are numbered on, and nothing else is different. -/
theorem ignoresStays_after_stays : bench.hub.Fresh ∧
    (∀ step ∈ [Step.bootstrap], step.ordinary = true) ∧
    (∃ d, (Act.fulfil offscreenStay.request offscreenStay.handler
    (bench.after [.bootstrap]).hub).1 = .ok d) ∧
    (∀ step ∈ mixedStays.filterMap StepOrStay.step?, step.plain = true) ∧
    (Act.stay offscreenStay (bench.after [.bootstrap]).hub).1 = .ok () ∧
    (bench.after [.bootstrap]).hub.Neutral
    (Act.stay offscreenStay (bench.after [.bootstrap]).hub).2 ∧
    (bench.after [.bootstrap]).StaysKeepFiles mixedStays ∧
    (bench.after [.bootstrap]).IgnoresStays mixedStays ∧
    ((bench.after [.bootstrap]).play receive mixedStays).2.hub.compositor.nextToken = 4 ∧
    ((bench.after [.bootstrap]).play readFiles mixedStays).2.hub.compositor.nextToken = 2 := by
  have fresh : bench.hub.Fresh := fresh_recording _ _ _ _
  have ordinary : ∀ step ∈ [Step.bootstrap], step.ordinary = true := by decide
  have plain : ∀ step ∈ mixedStays.filterMap StepOrStay.step?, step.plain = true := by decide
  have all := ignoresStays_after fresh ordinary
  obtain ⟨ok, neutral⟩ := all.1 offscreenStay _ rfl
  exact ⟨fresh, ordinary, ⟨_, rfl⟩, plain, ok, neutral, ⟨rfl, rfl, rfl, trivial⟩,
    all.2 mixedStays plain, rfl, rfl⟩

end Session

end DisplayHub
