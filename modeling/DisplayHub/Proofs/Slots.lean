import DisplayHub.Proofs.Parallel
import DisplayHub.Proofs.BootstrapState
import Mathlib.Data.List.Forall2

/-!
# Sessions up to Renaming

Two sessions whose hubs are images, driven by the same steps.

They need not number displays alike. One of them may have slots that the other
never had, and goes on behind them, so a step on a display is about another
slot there (`Step.reseat`), and so is an answer that meant where a display was
put. Tokens and buffers are numbered on as well. What is compared are answers
that do not show these numbers (`Outcome.erased`).

Slots are translated by `seat` as tokens are by a renaming, one-to-one and
known in advance. What is in the slots that nobody translates to does not
matter. No step leads there.

Two kinds of steps look at more than the hub and its displays, and are not
`plain`. The policy on broken pipes belongs to the process, and what was called
belongs to the past.

## Main definitions

* `Step.reseat`, `Outcome.reseat`, `Outcome.erased`: Steps and answers in another
  session.
* `Step.plain`: The steps that look at nothing but the hub and its displays.
* `Outcome.Matches`: Answers that are the same but for numbers.
* `Session.answers`: What a sequence of steps answers.
* `Session.SameUpTo`: Sessions that are images of each other.

## Theorems

* `Session.SameUpTo.trans`: An image of an image is an image.
* `Session.SameUpTo.step`: One step in both sessions.
* `Session.SameUpTo.run`: Any number of them.
-/

namespace DisplayHub

/-! ### The same elsewhere -/

/-- A step on displays that are in other slots. -/
def Step.reseat (seat : Nat → Nat) : Step → Step
  | destroy slot => destroy (slot.map seat)
  | inspect slot => inspect (seat slot)
  | drop slot => drop (seat slot)
  | bringUp slot => bringUp (seat slot)
  | takeDown slot => takeDown (seat slot)
  | setPower slot power => setPower (seat slot) power
  | stick slot failure => stick (seat slot) failure
  | resolve slot connected => resolve (seat slot) connected
  | register slot => register (seat slot)
  | unregister slot => unregister (seat slot)
  | step => step

/-- The steps that look at nothing but the hub and its displays. The policy on
    broken pipes belongs to the process, and what was called to the past. -/
def Step.plain : Step → Bool
  | pipeIgnored | wasCalled _ => false
  | step => step.ordinary

/-- A value without the numbers in it. -/
def Reply.erased : Reply → Reply
  | display d slot => display d.erased slot
  | token place _ => token place 0
  | buffer place b => buffer place b.erased
  | reply => reply

def Reply.reseat (seat : Nat → Nat) : Reply → Reply
  | display d slot => display d (slot.map seat)
  | reply => reply

/-- An answer without the numbers in it. -/
def Outcome.erased (o : Outcome) : Outcome where
  result := o.result.map Reply.erased
  shown := o.shown.map Display.erased

/-- An answer about displays that are in other slots. -/
def Outcome.reseat (seat : Nat → Nat) (o : Outcome) : Outcome :=
  { o with result := o.result.map (Reply.reseat seat) }

/-- Two answers that are the same but for numbers and slots. -/
def Outcome.Matches (seat : Nat → Nat) (o p : Outcome) : Prop :=
  o.erased = (p.reseat seat).erased

section Answers

variable {α β : Type} {V : α → β → Prop} {seat : Nat → Nat}

theorem matches_ofResult {r : Except Stop α} {q : Except Stop β} {reply : α → Reply}
    {reply' : β → Reply} (alike : ResultsAgree V r q)
    (meant : ∀ a b, V a b → (reply a).erased = ((reply' b).reseat seat).erased) :
    (Outcome.ofResult reply r).Matches seat (Outcome.ofResult reply' q) := by
  cases alike with
  | ok related => exact congrArg (fun r => Outcome.mk (.ok r) none) (meant _ _ related)
  | error stop => rfl

/-- The displays that are shown beside an answer match as well. -/
theorem Outcome.Matches.reveal {o p : Outcome} {d e : Option Display} (same : o.Matches seat p)
    (shown : d.map Display.erased = e.map Display.erased) :
    Outcome.Matches seat { o with shown := d } { p with shown := e } := by
  have result := congrArg Outcome.result same
  change Outcome.mk (o.result.map Reply.erased) (d.map Display.erased) =
    Outcome.mk ((p.reseat seat).result.map Reply.erased) (e.map Display.erased)
  rw [shown]
  exact congrArg (fun r => Outcome.mk r (e.map Display.erased)) result

end Answers

namespace Session

/-- What a sequence of steps answers. -/
def answers (s : Session) : List Step → List Outcome
  | [] => []
  | step :: rest => (s.step step).1 :: (s.step step).2.answers rest

end Session

/-! ### Sessions that are images -/

namespace Session

/-- Two sessions that differ in numbers and slots only. -/
structure SameUpTo (ρ : Nat → Nat) (agreed : Prop) (seat : Nat → Nat) (s t : Session) : Prop where
  rig : s.rig = t.rig
  hub : s.hub.SameUpTo ρ agreed t.hub
  /-- Both go on with the next slot. -/
  ahead : ∀ i, s.hub.slots.length + i = seat (t.hub.slots.length + i)
  seated : ∀ i, Option.Rel (Display.SameUpTo ρ) (s.hub.display? (seat i)) (t.hub.display? i)

namespace SameUpTo

variable {ρ seat : Nat → Nat} {agreed : Prop} {s t : Session} {h u : Hub}

/-- A slot is there on both sides, or on neither. -/
theorem inside_iff (seats : Function.Injective seat) (images : s.SameUpTo ρ agreed seat t)
    (i : Nat) : seat i < s.hub.slots.length ↔ i < t.hub.slots.length := by
  have next := images.ahead
  constructor
  · intro inside
    by_contra beyond
    -- a slot behind the last one is the image of one behind the last one
    have later := next (i - t.hub.slots.length)
    rw [Nat.add_sub_of_le (Nat.le_of_not_lt beyond)] at later
    omega
  · intro inside
    by_contra beyond
    have later := next (seat i - s.hub.slots.length)
    rw [Nat.add_sub_of_le (Nat.le_of_not_lt beyond)] at later
    have same := seats later
    omega

/-- Hubs that are images, with the slots that were there before. -/
theorem become (images : s.SameUpTo ρ agreed seat t) (hubs : h.SameUpTo ρ agreed u)
    (left : h.slots = s.hub.slots) (right : u.slots = t.hub.slots) :
    SameUpTo ρ agreed seat { s with hub := h } { t with hub := u } where
  rig := images.rig
  hub := hubs
  ahead i := by
    dsimp only
    rw [left, right]
    exact images.ahead i
  seated i := by
    have seated := images.seated i
    unfold Hub.display? at seated ⊢
    dsimp only
    rw [left, right]
    exact seated

theorem setSlot (seats : Function.Injective seat) (images : s.SameUpTo ρ agreed seat t) (i : Nat)
    {d e : Option Display} (displays : Option.Rel (Display.SameUpTo ρ) d e) : SameUpTo ρ agreed seat
      { s with hub := s.hub.setSlot (seat i) d } { t with hub := t.hub.setSlot i e } where
  rig := images.rig
  hub := images.hub.of_same rfl rfl rfl rfl
  ahead j := by
    have next := images.ahead j
    unfold Hub.setSlot
    dsimp only
    rwa [List.length_set, List.length_set]
  seated j := by
    have inside := images.inside_iff seats i
    dsimp only
    rw [Hub.display?_setSlot, Hub.display?_setSlot]
    by_cases here : j = i ∧ i < t.hub.slots.length
    · rw [if_pos here, if_pos ⟨congrArg seat here.1, inside.mpr here.2⟩]
      exact displays
    · rw [if_neg here, if_neg fun there => here ⟨seats there.1, inside.mp there.2⟩]
      exact images.seated j

theorem addSlot (seats : Function.Injective seat) (images : s.SameUpTo ρ agreed seat t)
    {d e : Display} (displays : d.SameUpTo ρ e) : SameUpTo ρ agreed seat
      { s with hub := s.hub.addSlot d } { t with hub := t.hub.addSlot e } where
  rig := images.rig
  hub := images.hub.of_same rfl rfl rfl rfl
  ahead j := by
    have next := images.ahead (1 + j)
    unfold Hub.addSlot
    dsimp only
    rw [List.length_append, List.length_append]
    rwa [← Nat.add_assoc, ← Nat.add_assoc] at next
  seated j := by
    have last : s.hub.slots.length = seat t.hub.slots.length := images.ahead 0
    dsimp only
    rw [Hub.display?_addSlot, Hub.display?_addSlot, last]
    by_cases here : j = t.hub.slots.length
    · rw [if_pos here, if_pos (congrArg seat here)]
      exact Option.Rel.some displays
    · rw [if_neg here, if_neg fun there => here (seats there)]
      exact images.seated j

/-- An image of an image is an image, in the slots that the slots stand for. -/
theorem trans {σ place : Nat → Nat} {w : Session} (images : s.SameUpTo ρ agreed seat t)
    (others : t.SameUpTo σ agreed place w) : s.SameUpTo (ρ ∘ σ) agreed (seat ∘ place) w where
  rig := images.rig.trans others.rig
  hub := images.hub.trans others.hub
  ahead i := by
    rw [images.ahead, others.ahead]
    rfl
  seated i := by
    have one := images.seated (place i)
    have other := others.seated i
    dsimp only [Function.comp_apply]
    generalize s.hub.display? (seat (place i)) = d at one ⊢
    generalize t.hub.display? (place i) = e at one other
    generalize w.hub.display? i = f at other ⊢
    cases one with
    | none =>
        cases other
        exact Option.Rel.none
    | some displays =>
        cases other with
        | some also => exact Option.Rel.some (displays.trans also)

end SameUpTo

/-! ### One step -/

/-- A step is taken in both sessions, with matching answers. -/
def Agree (ρ : Nat → Nat) (agreed : Prop) (seat : Nat → Nat) (p q : Outcome × Session) : Prop :=
  p.1.Matches seat q.1 ∧ p.2.SameUpTo ρ agreed seat q.2

variable {α β : Type} {ρ seat : Nat → Nat} {agreed : Prop} {s t : Session} {V : α → β → Prop}

theorem agree_answer (images : s.SameUpTo ρ agreed seat t) {f : Act α} {g : Act β}
    {reply : α → Reply} {reply' : β → Reply} (parallel : Parallel (Hub.SameUpTo ρ agreed) V f g)
    (left : Keeps Hub.slots f) (right : Keeps Hub.slots g)
    (meant : ∀ a b, V a b → (reply a).erased = ((reply' b).reseat seat).erased) :
    Agree ρ agreed seat (s.answer f reply) (t.answer g reply') := by
  obtain ⟨alike, hubs⟩ := parallel s.hub t.hub images.hub
  exact ⟨matches_ofResult alike meant, images.become hubs (left s.hub) (right t.hub)⟩

/-- What is asked on both sides gets the same answer. -/
theorem agree_ask (images : s.SameUpTo ρ agreed seat t) {f : Act α} {reply : α → Reply}
    (parallel : Parallel (Hub.SameUpTo ρ agreed) Eq f f) (kept : Keeps Hub.slots f)
    (seatless : ∀ a, (reply a).reseat seat = reply a) :
    Agree ρ agreed seat (s.answer f reply) (t.answer f reply) :=
  agree_answer images parallel kept kept fun _ b same => by rw [same, seatless b]

/-- What changes both hubs in the same way answers nothing. -/
theorem agree_change (images : s.SameUpTo ρ agreed seat t) {f g : Hub → Hub}
    (hubs : (f s.hub).SameUpTo ρ agreed (g t.hub)) (left : (f s.hub).slots = s.hub.slots)
    (right : (g t.hub).slots = t.hub.slots) : Agree ρ agreed seat (s.change f) (t.change g) :=
  ⟨rfl, images.become hubs left right⟩

/-- What changes nothing but the surroundings does the same on both sides. -/
theorem agree_around (images : s.SameUpTo ρ agreed seat t) {f : Hub → Hub} (F : Observed → Observed)
    (observed : ∀ h, (f h).observed = F h.observed)
    (compositor : ∀ h, (f h).compositor = h.compositor)
    (slots : ∀ h, (f h).slots = h.slots) : Agree ρ agreed seat (s.change f) (t.change f) := by
  refine agree_change images ⟨?_, ?_⟩ (slots s.hub) (slots t.hub)
  · rw [observed, observed, images.hub.observed]
  · rw [compositor, compositor]
    exact images.hub.compositor

theorem agree_keep (seats : Function.Injective seat) (images : s.SameUpTo ρ agreed seat t)
    {d e : Display} (displays : d.SameUpTo ρ e) :
    Agree ρ agreed seat (s.keep d) (t.keep e) := by
  refine ⟨?_, images.addSlot seats displays⟩
  have last : s.hub.slots.length = seat t.hub.slots.length := images.ahead 0
  change Outcome.mk (.ok (.display d.erased (some s.hub.slots.length))) none =
    Outcome.mk (.ok (.display e.erased (some (seat t.hub.slots.length)))) none
  rw [displays.erased, last]

theorem agree_keepCreated (seats : Function.Injective seat) (images : s.SameUpTo ρ agreed seat t)
    {f : Act Display} (parallel : Parallel (Hub.SameUpTo ρ agreed) (Display.SameUpTo ρ) f f)
    (kept : Keeps Hub.slots f) : Agree ρ agreed seat (s.keepCreated f) (t.keepCreated f) := by
  obtain ⟨alike, hubs⟩ := parallel s.hub t.hub images.hub
  have become := images.become hubs (kept s.hub) (kept t.hub)
  unfold keepCreated run
  rcases one : f s.hub with ⟨r, h⟩
  rcases other : f t.hub with ⟨q, u⟩
  rw [one, other] at alike become
  cases alike with
  | ok displays => exact agree_keep seats become displays
  | error stop => exact ⟨rfl, become⟩

/-- What is done with the displays in a slot, on both sides or on neither. -/
theorem agree_withDisplay (images : s.SameUpTo ρ agreed seat t) (slot : Nat)
    {f g : Display → Outcome × Session}
    (agree : ∀ d e, Display.SameUpTo ρ d e → Agree ρ agreed seat (f d) (g e)) :
    Agree ρ agreed seat (s.withDisplay (seat slot) f) (t.withDisplay slot g) := by
  have seated := images.seated slot
  unfold withDisplay
  generalize s.hub.display? (seat slot) = d at seated ⊢
  generalize t.hub.display? slot = e at seated ⊢
  cases seated with
  | none => exact ⟨rfl, images⟩
  | some displays => exact agree _ _ displays

theorem agree_serve (seats : Function.Injective seat) (images : s.SameUpTo ρ agreed seat t)
    (slot : Nat) {f : Serve Unit} (parallel : Parallel (BothSameUpTo ρ agreed) Eq f f)
    (kept : Keeps (Hub.hubView Hub.slots) f) (shows : Bool) :
    Agree ρ agreed seat (s.serve (seat slot) f (fun _ => .nothing) shows)
      (t.serve slot f (fun _ => .nothing) shows) := by
  refine agree_withDisplay images slot fun d e displays => ?_
  obtain ⟨alike, after⟩ := parallel (d, s.hub) (e, t.hub) ⟨displays, images.hub⟩
  have left := kept (d, s.hub)
  have right := kept (e, t.hub)
  rcases one : f (d, s.hub) with ⟨r, d', h⟩
  rcases other : f (e, t.hub) with ⟨q, e', u⟩
  rw [one] at alike after left
  rw [other] at alike after right
  refine ⟨?_, (images.become after.2 left right).setSlot seats slot (Option.Rel.some after.1)⟩
  -- a display is shown unless everything broke down
  have shown (d e : Display) (erased : d.erased = e.erased) :
      (if shows = true then some d else none).map Display.erased =
        (if shows = true then some e else none).map Display.erased := by
    cases shows with
    | true => exact congrArg some erased
    | false => rfl
  have said : (Outcome.ofResult (fun _ => Reply.nothing) r).Matches seat
      (Outcome.ofResult (fun _ => Reply.nothing) q) := matches_ofResult alike fun _ _ _ => rfl
  cases alike with
  | ok related => exact said.reveal (shown d' e' after.1.erased)
  | error stop =>
      cases stop with
      | failure f => exact said.reveal (shown d' e' after.1.erased)
      | collapse => exact said.reveal rfl

/-! ### Every step -/

theorem parallel_workRound (apart : Function.Injective ρ) (id : Int32) :
    Parallel (Hub.SameUpTo ρ agreed) Eq (workRound id) (workRound id) :=
  (Act.parallel_createById apart id _).bind fun _ _ displays =>
    (Act.parallel_onStop (fun _ _ hubs => displays.drop apart hubs) Act.parallel_refresh).bind
      fun _ _ _ => Act.parallel_decommission apart displays

theorem sameUpTo_workRounds (apart : Function.Injective ρ) (id : Int32) (rounds : Nat) {h u : Hub}
    (hubs : h.SameUpTo ρ agreed u) : (workRounds id rounds h).1 = (workRounds id rounds u).1 ∧
      (workRounds id rounds h).2.SameUpTo ρ agreed (workRounds id rounds u).2 := by
  induction rounds generalizing h u with
  | zero => exact ⟨rfl, hubs⟩
  | succ rounds ih =>
      obtain ⟨alike, after⟩ := parallel_workRound apart id h u hubs
      unfold workRounds
      rcases one : workRound id h with ⟨r, h'⟩
      rcases other : workRound id u with ⟨q, u'⟩
      rw [one, other] at alike after
      obtain ⟨errors, rest⟩ := ih after
      -- a round that goes wrong does so on both sides
      cases alike with
      | ok _ => exact ⟨errors, rest⟩
      | error stop => exact ⟨congrArg (· + 1) errors, rest⟩

theorem sameUpTo_workAll (apart : Function.Injective ρ) (rounds : Nat) (ids : List Int32)
    {h u : Hub}
    (hubs : h.SameUpTo ρ agreed u) : (workAll rounds ids h).1 = (workAll rounds ids u).1 ∧
      (workAll rounds ids h).2.SameUpTo ρ agreed (workAll rounds ids u).2 := by
  induction ids generalizing h u with
  | nil => exact ⟨rfl, hubs⟩
  | cons id ids ih =>
      obtain ⟨errors, after⟩ := sameUpTo_workRounds apart id rounds hubs
      obtain ⟨more, rest⟩ := ih after
      refine ⟨?_, rest⟩
      change (workRounds id rounds h).1 + (workAll rounds ids (workRounds id rounds h).2).1 = _
      rw [errors, more]
      rfl

theorem parallel_tryExtension : Parallel (Hub.SameUpTo ρ agreed)
    (fun e e' => e.map Extension.erased = e'.map Extension.erased) tryExtension tryExtension :=
  Act.parallel_loadExtension.bind fun e e' erasures =>
    (parallel_modify fun _ _ hubs => hubs.letGo? e e').bind fun _ _ _ => parallel_pure erasures

/-- What is shown of an interface does not depend on its number. -/
theorem showExtension_congr {e e' : Option Extension}
    (erasures : e.map Extension.erased = e'.map Extension.erased) :
    showExtension e = showExtension e' := by
  have erased (e : Option Extension) : showExtension (e.map Extension.erased) =
    showExtension e := by
    cases e <;> rfl
  rw [← erased, erasures, erased]

theorem agree_destroySlot (apart : Function.Injective ρ) (seats : Function.Injective seat)
    (images : s.SameUpTo ρ agreed seat t) (slot : Option Nat) :
    Agree ρ agreed seat (s.destroySlot (slot.map seat)) (t.destroySlot slot) := by
  cases slot with
  | none => exact ⟨rfl, images⟩
  | some slot =>
      have emptied := images.setSlot seats slot Option.Rel.none
      have seated := images.seated slot
      change Agree ρ agreed seat
        (Session.answer { s with hub := s.hub.setSlot (seat slot) none }
          (Act.destroy (s.hub.display? (seat slot))) fun _ => .nothing)
        (Session.answer { t with hub := t.hub.setSlot slot none }
          (Act.destroy (t.hub.display? slot)) fun _ => .nothing)
      generalize s.hub.display? (seat slot) = d at seated ⊢
      generalize t.hub.display? slot = e at seated ⊢
      have destroyed : Parallel (Hub.SameUpTo ρ agreed) Eq (Act.destroy d) (Act.destroy e) := by
        cases seated with
        | none => exact Act.parallel_fail _
        | some displays => exact Act.parallel_decommission apart displays
      exact agree_answer emptied destroyed (Hub.ignoresService_slots.destroy d)
        (Hub.ignoresService_slots.destroy e) fun _ _ _ => rfl

theorem agree_setFault (images : s.SameUpTo ρ agreed seat t) (call : Call) (stop : Option Stop) :
    Agree ρ agreed seat (s.setFault call stop) (t.setFault call stop) := by
  have barred : Agree ρ agreed seat
      (s.change fun h => { h with faults := fun c => if c = call then stop else h.faults c })
      (t.change fun h => { h with faults := fun c => if c = call then stop else h.faults c }) :=
    agree_around images
      (fun g => { g with faults := fun c => if c = call then stop else g.faults c })
      (fun _ => rfl) (fun _ => rfl) fun _ => rfl
  have missing (f : Failure) : Agree ρ agreed seat
      (s.change fun h => { h with hardware := { h.hardware with resource := .error f } })
      (t.change fun h => { h with hardware := { h.hardware with resource := .error f } }) :=
    agree_around images (fun g => { g with hardware := { g.hardware with resource := .error f } })
      (fun _ => rfl) (fun _ => rfl) fun _ => rfl
  -- which of the two it is depends on the rig alone
  unfold Session.setFault
  rw [images.rig]
  split
  · exact missing _
  · exact barred

/-- A plain step is answered alike in sessions that are images, and leaves images
    behind. -/
theorem SameUpTo.step (apart : Function.Injective ρ) (seats : Function.Injective seat)
    (images : s.SameUpTo ρ agreed seat t) {step : Step} (plain : step.plain = true) :
    Agree ρ agreed seat (s.step (step.reseat seat)) (t.step step) := by
  have ignoring := Hub.ignoresBootstrap_slots
  -- what moves no display is answered by the two hubs alike, and what is done with a
  -- display is done with its image, in the image of its slot
  cases step with
  | bootstrap =>
      exact agree_ask images Act.parallel_bootstrap
        (ignoring.bootstrap Hub.ignoresService_slots.queryStatus fun _ _ => rfl) fun _ => rfl
  | teardown =>
      have kept := ignoring.teardown fun _ _ => rfl
      exact agree_change images images.hub.teardown (kept _) (kept _)
  | create v handler =>
      exact agree_keepCreated seats images (Act.parallel_create apart v handler)
        (Hub.ignoresService_slots.create v handler)
  | createByCode code handler =>
      exact agree_keepCreated seats images (Act.parallel_createByCode apart code handler)
        (Hub.ignoresService_slots.createByCode code handler)
  | createById id handler =>
      exact agree_keepCreated seats images (Act.parallel_createById apart id handler)
        (Hub.ignoresService_slots.createById id handler)
  | destroy slot => exact agree_destroySlot apart seats images slot
  | setBandwidth mode =>
      exact agree_ask images (Act.parallel_setBandwidth mode)
        (Hub.ignoresService_slots.setBandwidth mode) fun _ => rfl
  | limit v =>
      exact agree_ask images (Act.parallel_limit v) (Hub.ignoresService_slots.limit v) fun _ => rfl
  | firstInterface =>
      exact agree_ask images Act.parallel_firstInterface Hub.ignoresService_slots.firstInterface
        fun _ => rfl
  | rotates format =>
      exact agree_ask images (Act.parallel_rotates format)
        (Hub.ignoresService_slots.rotates format) fun _ => rfl
  | refresh =>
      exact agree_ask images Act.parallel_refresh
        (Hub.ignoresService_slots.refresh fun _ _ _ => rfl) fun _ => rfl
  | cachedTopology =>
      refine ⟨?_, images⟩
      change Outcome.mk (.ok (.entries s.hub.core.topology.entries)) none = _
      rw [images.hub.topology]
      rfl
  | cachedResource =>
      refine ⟨?_, images⟩
      have resource : s.hub.core.resource = t.hub.core.resource :=
        congrArg (fun f : Observed => f.core.resource) images.hub.observed
      change Outcome.erased (.value ((s.hub.core.resource.map .resource).getD .nothing)) = _
      rw [resource]
      change _ = Outcome.erased (Outcome.reseat seat
        (.value ((t.hub.core.resource.map .resource).getD .nothing)))
      cases t.hub.core.resource <;> rfl
  | inspect slot =>
      refine agree_withDisplay images slot fun d e displays => ⟨?_, images⟩
      exact congrArg (fun d => Outcome.mk (.ok (.display d none)) none) displays.erased
  | drop slot =>
      refine agree_withDisplay images slot fun d e displays => ?_
      have emptied := images.setSlot seats slot Option.Rel.none
      refine ⟨rfl, ?_⟩
      exact emptied.become (displays.drop apart emptied.hub) (Hub.ignoresService_slots.drop d _)
        (Hub.ignoresService_slots.drop e _)
  | bringUp slot =>
      exact agree_serve seats images slot Serve.parallel_bringUp Hub.ignoresService_slots.bringUp
        true
  | takeDown slot =>
      exact agree_serve seats images slot
        (Serve.parallel_takeDown apart) Hub.ignoresService_slots.takeDown true
  | setPower slot power =>
      exact agree_serve seats images slot (Serve.parallel_setPower power)
        (Hub.ignoresService_slots.setPower (fun _ _ _ => rfl) power) true
  | stick slot f =>
      have stuck : Parallel (BothSameUpTo ρ agreed) Eq
          (Serve.change fun d => { d with stuck := some f, concrete := false })
          (Serve.change fun d => { d with stuck := some f, concrete := false }) := by
        refine Serve.parallel_change fun d e displays => displays.alter rfl rfl ?_
        have := congrArg (fun d : Display => { d with stuck := some f, concrete := false })
          displays.erased
        exact this
      exact agree_serve seats images slot stuck (Hub.keeps_change _) false
  | make v id concrete => exact agree_keep seats images ⟨rfl, rfl⟩
  | setDisplays entries =>
      have listing : s.listing entries = t.listing entries := by
        unfold Session.listing
        rw [images.rig]
      change Agree ρ agreed seat (s.change fun h =>
          { h with hardware := { h.hardware with listing := s.listing entries } })
        (t.change fun h => { h with hardware := { h.hardware with listing := t.listing entries } })
      rw [listing]
      exact agree_around images
        (fun g => { g with hardware := { g.hardware with listing := t.listing entries } })
        (fun _ => rfl) (fun _ => rfl) fun _ => rfl
  | setResource resource =>
      exact agree_around images
        (fun g => { g with hardware := { g.hardware with resource := .ok resource } })
        (fun _ => rfl) (fun _ => rfl) fun _ => rfl
  | setExtension outcome =>
      exact agree_around images (fun g => { g with loader := .standIn outcome })
        (fun _ => rfl) (fun _ => rfl) fun _ => rfl
  | setFault call stop => exact agree_setFault images call stop
  | changeFiles removes layout =>
      exact agree_around images (fun g =>
          { g with storage := (removes.foldl Storage.remove g.storage).putAll layout })
        (fun _ => rfl) (fun _ => rfl) fun _ => rfl
  | restorePipe => exact agree_around images id (fun _ => rfl) (fun _ => rfl) fun _ => rfl
  | strikeCalls => exact ⟨rfl, ⟨images.rig, images.hub, images.ahead, images.seated⟩⟩
  | loadExtension =>
      have kept := ignoring.tryExtension
      exact agree_answer images parallel_tryExtension kept kept fun e e' erasures => by
        rw [showExtension_congr erasures]
        cases e' <;> rfl
  | work ids rounds =>
      obtain ⟨errors, hubs⟩ := sameUpTo_workAll apart rounds ids images.hub
      refine ⟨?_, images.become hubs
        (Hub.ignoresService_slots.workAll (fun _ _ _ => rfl) rounds ids _)
        (Hub.ignoresService_slots.workAll (fun _ _ _ => rfl) rounds ids _)⟩
      exact congrArg (fun n => Outcome.mk (.ok (.errors n)) none) errors
  | _ => nomatch plain

/-- The same holds for any number of plain steps. -/
theorem SameUpTo.run (apart : Function.Injective ρ) (seats : Function.Injective seat)
    (images : s.SameUpTo ρ agreed seat t) {steps : List Step}
    (plain : ∀ step ∈ steps, step.plain = true) :
    List.Forall₂ (Outcome.Matches seat) (s.answers (steps.map (Step.reseat seat)))
        (t.answers steps) ∧
      (s.after (steps.map (Step.reseat seat))).SameUpTo ρ agreed seat (t.after steps) := by
  induction steps generalizing s t with
  | nil => exact ⟨List.Forall₂.nil, images⟩
  | cons step rest ih =>
      obtain ⟨same, after⟩ := images.step apart seats (plain step List.mem_cons_self)
      obtain ⟨answers, last⟩ := ih after fun step later => plain step (List.mem_cons_of_mem _ later)
      exact ⟨List.Forall₂.cons same answers, last⟩

end Session

end DisplayHub
