import DisplayHub.Proofs.Leftover
import DisplayHub.Proofs.Ordering

/-!
# Stays

A display that comes, is switched, and goes again.

Creating a display asks the hardware, takes a buffer and a token, and puts the
display on the list of those that are active. Destroying it undoes the three last
things. Each is done in another place than it is undone in, so there is nothing to
pair off on the way. What is compared is the end with the beginning: the display
that goes is the one that came but for its power (`Serve.unpowered_switch`), its
token is the last one of the list, and its buffer is the one that was counted last.

Two things are not undone. Tokens and buffers are numbered on, and the files were
read. `Hub.Neutral` says that nothing else is different, whether the display came
or could not be created at all.

What was used up shows in numbers only. A hub is therefore an image of itself from
before a stay, with the tokens from then on translated by as many as were used up
(`Hub.Neutral.sameUpTo`). It takes that every token held is one that was granted, or
a display could be met under a translated token that holds the one before.

## Main definitions

* `Stay`, `Act.stay`: A display that is created, switched and destroyed.
* `Hub.Neutral`: Two hubs that differ in what is used up and in the files.
* `Hub.beyond`: Tokens that are numbered from later on.

## Theorems

* `Act.admits_of_fulfil`: Whatever is created was admitted.
* `Act.neutral_stay`: A stay leaves nothing behind.
* `Act.stay_ok`: What was created can be destroyed.
* `Hub.Neutral.sameUpTo`: A hub is its own image after a stay.
* `Act.parallel_stay`: Stays with two hubs that are images.
-/

namespace DisplayHub

/-- A display that is to be created, switched any number of times, and destroyed. -/
structure Stay where
  request : Request
  handler : Option Handler
  powers : List Power

/-- Changes the power state of a display any number of times, whatever is answered. -/
def Serve.switch (powers : List Power) (s : Display × Hub) : Display × Hub :=
  powers.foldl (fun s power => (setPower power s).2) s

/-- Creates a display, switches it and destroys it. -/
def Act.stay (stay : Stay) : Act Unit := fun h =>
  match fulfil stay.request stay.handler h with
  | (.ok d, u) =>
    let (d, u) := Serve.switch stay.powers (d, u)
    destroy (some d) u
  | (.error stop, u) => (.error stop, u)

namespace Serve

/-- A display that is switched is the same but for its power, and nothing is dealt
    out meanwhile. -/
theorem unpowered_switch (powers : List Power) (s : Display × Hub) :
    unpowered (switch powers s) = unpowered s := by
  induction powers generalizing s with
  | nil => rfl
  | cons power rest ih => exact (ih _).trans (keeps_setPower power s)

theorem keeps_switch {γ : Type} {view : Hub → γ} (ignores : Hub.IgnoresDealing view)
    (told : ∀ handler notice h, view (h.deliver handler notice) = view h) (powers : List Power)
    (s : Display × Hub) : view (switch powers s).2 = view s.2 := by
  induction powers generalizing s with
  | nil => rfl
  | cons power rest ih => exact (ih _).trans (ignores.setPower told power s)

theorem bothSameUpTo_switch {ρ : Nat → Nat} {agreed : Prop} (powers : List Power)
    {s t : Display × Hub}
    (images : BothSameUpTo ρ agreed s t) :
    BothSameUpTo ρ agreed (switch powers s) (switch powers t) := by
  induction powers generalizing s t with
  | nil => exact images
  | cons power rest ih => exact ih (parallel_setPower power s t images).2

end Serve

namespace Hub.IgnoresService

variable {γ : Type} {view : Hub → γ}

/-- What does not show where displays are served, nor what handlers are told, does not
    show a stay. -/
theorem stay (ignores : IgnoresService view)
    (told : ∀ handler notice h, view (h.deliver handler notice) = view h) (stay : Stay) :
    Keeps view (Act.stay stay) := by
  intro h
  have created := ignores.fulfil stay.request stay.handler h
  unfold Act.stay
  rcases ending : Act.fulfil stay.request stay.handler h with ⟨stop | d, u⟩
  all_goals rw [ending] at created
  · exact created
  · have switched := Serve.keeps_switch ignores.toIgnoresDealing told stay.powers (d, u)
    exact (ignores.destroy _ _).trans (switched.trans created)

end Hub.IgnoresService

/-! ### What is used up -/

namespace Compositor

variable {c : Compositor} {d : Display} {v : Variant} {id : Option Int32}

/-- A display that got the last token gives it back, and only the numbering shows. -/
theorem release_grant (known : ∀ a ∈ c.active, a.token < c.nextToken)
    (own : d.token = some c.nextToken) :
    d.release (c.grant v id) = { c with nextToken := c.nextToken + 1 } := by
  -- the token was the next one, so nothing else is active under it
  have others : c.active.filter (fun a => a.token ≠ c.nextToken) = c.active := by
    refine List.filter_eq_self.mpr fun a among => ?_
    exact decide_eq_true (Nat.ne_of_lt (known a among))
  unfold Display.release
  rw [own]
  dsimp only
  unfold unregister grant
  dsimp only
  rw [List.filter_append, others, List.filter_cons_of_neg (by simp)]
  simp

end Compositor

/-- A display that got a buffer if it is off-screen gives it back, and only the
    numbering shows. -/
theorem Display.vacate_issue {d : Display} {v : Variant}
    (equipped : d.writeback?.isSome = decide (v = .offscreen)) (a : Allocator) :
    ∃ nextId, d.vacate (if v = .offscreen then a.issue else a) = { a with nextId } := by
  unfold vacate
  by_cases offscreen : v = .offscreen
  · rw [decide_eq_true offscreen] at equipped
    obtain ⟨buffer, held⟩ := Option.isSome_iff_exists.mp equipped
    rw [if_pos offscreen, held]
    exact ⟨a.nextId + 1, rfl⟩
  · rw [decide_eq_false offscreen] at equipped
    have empty := Option.not_isSome_iff_eq_none.mp (Bool.not_eq_true _ ▸ equipped)
    rw [if_neg offscreen, empty]
    exact ⟨a.nextId, rfl⟩

namespace Hub

/-- Two hubs that differ in the numbers that are used up, in the files that were read,
    and in the journal. -/
structure Neutral (h u : Hub) : Prop where
  /-- The displays that are active. -/
  active : u.compositor.active = h.compositor.active
  outstanding : u.allocator.outstanding = h.allocator.outstanding
  /-- What the hub knows, with the last report. -/
  core : u.core = h.core
  later : h.compositor.nextToken ≤ u.compositor.nextToken
  rest : u.unlogged = { h.unlogged with
    storage := u.storage
    compositor := { h.compositor with nextToken := u.compositor.nextToken }
    allocator := { h.allocator with nextId := u.allocator.nextId } }

/-- All of a hub but the files, the journal, and what is dealt out. -/
def outsideService (h : Hub) : Hub :=
  { h with storage := {}, journal := {}, compositor := {}, allocator := {} }

theorem ignoresService_outsideService : IgnoresService outsideService :=
  ⟨⟨fun _ _ _ => rfl, fun _ _ => rfl, fun _ _ => rfl, fun _ _ => rfl, fun _ _ _ => rfl⟩,
    fun _ _ => rfl⟩

/-- Hubs are neutral to each other if nothing but numbers was dealt out and nothing else
    is different. -/
theorem neutral_of_ground {h u : Hub} {n m : Nat} (same : u.outsideService = h.outsideService)
    (later : h.compositor.nextToken ≤ n)
    (dealt : u.ground = h.dealing { h.compositor with nextToken := n }
      { h.allocator with nextId := m }) : h.Neutral u := by
  have compositor := compositor_of_ground dealt
  have allocator := allocator_of_ground dealt
  refine ⟨?_, ?_, core_of_ground dealt, ?_, ?_⟩
  · rw [compositor]
  · rw [allocator]
  · rw [compositor]
    exact later
  · have parts : u.unlogged = { u.outsideService with
        storage := u.storage, compositor := u.compositor, allocator := u.allocator } := rfl
    rw [parts, same, compositor, allocator]
    rfl

end Hub

namespace Act

variable {h u : Hub} {d : Display} {request : Request} {handler : Option Handler}

/-- Whatever is created was admitted, as a display of some kind. -/
theorem admits_of_fulfil (met : (fulfil request handler h).1 = .ok d) :
    ∃ v found, h.Admits v found d (fulfil request handler h).2 := by
  have asked : (fulfil (request, handler).1 (request, handler).2 h).1 = .ok d := met
  obtain ⟨given, id, found, means, -⟩ := Hub.offer_eq_some_iff.mp (offer_of_fulfil asked).1
  obtain ⟨handler, rfl⟩ := Option.isSome_iff_exists.mp given
  rw [fulfil_of_meaning means] at met ⊢
  obtain ⟨found, -, admits⟩ := construct_ok met
  exact ⟨_, found, admits⟩

/-- A display that was created and switched can be destroyed, and it gives back what it
    was given. -/
theorem destroy_switched {v : Variant} {found : Option Entry}
    (known : ∀ a ∈ h.compositor.active, a.token < h.compositor.nextToken)
    (admits : h.Admits v found d u) (powers : List Power) :
    (destroy (some (Serve.switch powers (d, u)).1) (Serve.switch powers (d, u)).2).1 = .ok () ∧
    ∃ nextId, (destroy (some (Serve.switch powers (d, u)).1)
      (Serve.switch powers (d, u)).2).2.ground =
        h.dealing { h.compositor with nextToken := h.compositor.nextToken + 1 }
          { h.allocator with nextId } := by
  have switched := Serve.unpowered_switch powers (d, u)
  generalize Serve.switch powers (d, u) = s at switched ⊢
  obtain ⟨e, w⟩ := s
  -- all but the power of the display is as it was when it came
  have display := congrArg Prod.fst switched
  have same_token := congrArg Display.token display
  have same_stuck := congrArg Display.stuck display
  have same_buffer := congrArg Display.writeback? display
  have same_ground := congrArg Prod.snd switched
  have token : e.token = some h.compositor.nextToken := same_token.trans admits.token
  have free : e.stuck = none := same_stuck.trans admits.free
  have equipped : e.writeback?.isSome = decide (v = .offscreen) :=
    (congrArg Option.isSome same_buffer).trans admits.writeback
  have dealt : w.ground = h.dealing (h.compositor.grant v d.id)
      (if v = .offscreen then h.allocator.issue else h.allocator) :=
    same_ground.trans admits.ground
  obtain ⟨nextId, vacated⟩ := Display.vacate_issue equipped h.allocator
  refine ⟨?_, nextId, ?_⟩
  · rw [destroy_answer]
    unfold Display.destroyAnswer Display.initialized
    rw [free, token]
    rfl
  · change (decommission e w).2.ground = _
    rw [ground_decommission, Hub.dealing_of_ground dealt, Hub.compositor_of_ground dealt,
      Hub.allocator_of_ground dealt, Compositor.release_grant known token, vacated]

/-- A display that was created leaves service in the end, however it was switched. -/
theorem stay_ok (known : ∀ a ∈ h.compositor.active, a.token < h.compositor.nextToken) {stay : Stay}
    (created : (fulfil stay.request stay.handler h).1 = .ok d) : (Act.stay stay h).1 = .ok () := by
  obtain ⟨v, found, admits⟩ := admits_of_fulfil created
  unfold Act.stay
  rcases ending : fulfil stay.request stay.handler h with ⟨r, u⟩
  rw [ending] at created admits
  obtain rfl : r = .ok d := created
  exact (destroy_switched known admits stay.powers).1

/-- A stay leaves nothing behind but what is used up, whether the display came or not. -/
theorem neutral_stay (known : ∀ a ∈ h.compositor.active, a.token < h.compositor.nextToken)
    (stay : Stay) : h.Neutral (Act.stay stay h).2 := by
  have same := Hub.ignoresService_outsideService.stay (fun _ _ _ => rfl) stay h
  unfold Act.stay at same ⊢
  rcases ending : fulfil stay.request stay.handler h with ⟨stop | d, u⟩
  all_goals rw [ending] at same
  · -- what could not be created used up the number of a buffer at most
    obtain ⟨a, outstanding, limit, dealt⟩ := ground_of_failed (created_fulfil ending)
    have numbered : a = { h.allocator with nextId := a.nextId } := by
      dsimp only
      rw [← outstanding, ← limit]
    rw [numbered] at dealt
    exact Hub.neutral_of_ground same (Nat.le_refl _) dealt
  · have created : (fulfil stay.request stay.handler h).1 = .ok d := by rw [ending]
    obtain ⟨v, found, admits⟩ := admits_of_fulfil created
    rw [ending] at admits
    obtain ⟨-, nextId, dealt⟩ := destroy_switched known admits stay.powers
    exact Hub.neutral_of_ground same (Nat.le_succ _) dealt

end Act

/-! ### Images -/

namespace Hub

/-- Tokens are numbered on from `next`, and those that were granted stay as they are. -/
def beyond (known next : Nat) (i : Nat) : Nat :=
  if i < known then i else i - known + next

theorem beyond_of_known {known next i : Nat} (granted : i < known) : beyond known next i = i :=
  if_pos granted

theorem beyond_of_new (known next i : Nat) : beyond known next (known + i) = next + i := by
  unfold beyond
  rw [if_neg (Nat.not_lt.mpr (Nat.le_add_right _ _))]
  omega

theorem beyond_injective {known next : Nat} (later : known ≤ next) :
    Function.Injective (beyond known next) := by
  intro i j same
  unfold beyond at same
  split at same
  · split at same
    · exact same
    · omega
  · split at same
    · omega
    · omega

theorem Neutral.slots {h u : Hub} (neutral : h.Neutral u) : u.slots = h.slots := by
  have slots := congrArg Hub.slots neutral.rest
  exact slots

/-- A hub is its own image if nothing but numbers is used up, and the files are as they
    were found later. -/
theorem Neutral.sameUpTo {h u : Hub} (neutral : h.Neutral u)
    (known : ∀ a ∈ h.compositor.active, a.token < h.compositor.nextToken) :
    u.SameUpTo (beyond h.compositor.nextToken u.compositor.nextToken) True
      { h with storage := u.storage } := by
  have observed := congrArg Hub.observed neutral.rest
  have work := congrArg Hub.compositor neutral.rest
  have compositor : u.compositor = { h.compositor with nextToken := u.compositor.nextToken } :=
    work
  refine ⟨observed, ?_, ?_, fun i => (beyond_of_new _ _ i).symm, fun _ => ?_⟩
  · rw [compositor]
  · -- whatever is active has a token that was granted before
    have kept : ∀ a ∈ h.compositor.active, Active.rename
        (beyond h.compositor.nextToken u.compositor.nextToken) a = id a := by
      intro a among
      unfold Active.rename
      rw [beyond_of_known (known a among)]
      rfl
    rw [neutral.active]
    exact ((List.map_congr_left kept).trans (List.map_id _)).symm
  · rw [compositor]

end Hub

namespace Act

variable {ρ : Nat → Nat} {agreed : Prop}

theorem parallel_fulfil (apart : Function.Injective ρ) (request : Request)
    (handler : Option Handler) : Parallel (Hub.SameUpTo ρ agreed) (Display.SameUpTo ρ)
      (fulfil request handler) (fulfil request handler) := by
  cases request with
  | kind v => exact parallel_create apart v handler
  | code code => exact parallel_createByCode apart code handler
  | number id => exact parallel_createById apart id handler

/-- Stays with two hubs that are images end alike, and leave images behind. -/
theorem parallel_stay (apart : Function.Injective ρ) (stay : Stay) :
    Parallel (Hub.SameUpTo ρ agreed) Eq (Act.stay stay) (Act.stay stay) := by
  intro h u images
  obtain ⟨alike, after⟩ := parallel_fulfil apart stay.request stay.handler h u images
  unfold Act.stay
  rcases one : fulfil stay.request stay.handler h with ⟨r, h'⟩
  rcases other : fulfil stay.request stay.handler u with ⟨q, u'⟩
  rw [one, other] at alike after
  -- the displays came on both sides, or on neither
  cases alike with
  | error stop => exact ⟨ResultsAgree.error stop, after⟩
  | ok displays =>
      have beside : BothSameUpTo ρ agreed (_, h') (_, u') := ⟨displays, after⟩
      have switched := Serve.bothSameUpTo_switch stay.powers beside
      exact parallel_decommission apart switched.1 _ _ switched.2

end Act

end DisplayHub
