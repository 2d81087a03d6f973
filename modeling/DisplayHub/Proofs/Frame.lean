import DisplayHub.Hub.Accessors
import DisplayHub.Hub.Bootstrap
import DisplayHub.Hub.Factory

/-!
# Frames

What operations leave alone.

An operation is a function from a state to an ending and a state, and both its
endings count: one that stops has changed the state too. So what an operation
leaves alone is said of the state alone. `Keeps view act` says that a view of
the state is the same before and after, however it ends.

Two views of the hub do most of the work. `Hub.ground` forgets the records only:
the journal, the files that were read, the counts of what was handed out, and
the policy on broken pipes. Every question to the hardware keeps it.
`Hub.holdings` shows what is dealt out and the slots of those who may hold it,
and it is what the accounts of displays are about.

The last lemma takes a sequence of operations apart. Either the first one gave
a value and the rest went on from where it ended, or it stopped and that is
where the sequence ended too.

## Main definitions

* `Keeps`: An operation leaves a view of the state alone.
* `Hub.ground`: All of the hub but its records.
* `Hub.dealing`: The ground with something else dealt out.
* `Stock`, `Hub.stock`: What is dealt out.
* `Hub.holdings`: The stock and the slots.

## Theorems

* `bind_apply`, `return_bind`, `get_bind`, …: A sequence of two operations, run.
* `bind_cases`: Its two ways to end.
* `Keeps.bind_cases`: The two ways to end where the first part changes nothing.
* `Keeps.bind`, `keeps_attempt`: Operations made of others leave alone what
  these do.
* `onStop_cases`: An operation that is undone if it stops.
* `keeps_queryStatus`, `keeps_loadExtension`, …: What asks and notes keeps the
  ground.
* `holds_tryColor`: Correcting colors keeps the holdings.
-/

namespace DisplayHub

section Running

variable {σ α β γ : Type}

theorem bind_apply (act : ExceptT Stop (StateM σ) α) (f : α → ExceptT Stop (StateM σ) β)
    (s : σ) : (act >>= f) s = match act s with
      | (.ok a, t) => f a t
      | (.error stop, t) => (.error stop, t) := by
  change (match act s with | (r, t) => ExceptT.bindCont f r t) = _
  rcases act s with ⟨_ | a, t⟩
  · rfl
  · rfl

theorem return_bind (a : α) (f : α → ExceptT Stop (StateM σ) β) (s : σ) :
    (pure a >>= f) s = f a s := rfl

theorem get_bind (f : σ → ExceptT Stop (StateM σ) β) (s : σ) : (get >>= f) s = f s s := rfl

theorem set_bind (t : σ) (f : PUnit → ExceptT Stop (StateM σ) β) (s : σ) :
    (set t >>= f) s = f ⟨⟩ t := rfl

theorem modify_bind (f : σ → σ) (g : PUnit → ExceptT Stop (StateM σ) β) (s : σ) :
    (modify f >>= g) s = g ⟨⟩ (f s) := rfl

/-- A sequence ends as its second part does, or where its first part stopped. -/
theorem bind_cases {act : ExceptT Stop (StateM σ) α} {f : α → ExceptT Stop (StateM σ) β}
    {s t : σ} {r : Except Stop β} (h : (act >>= f) s = (r, t)) :
    (∃ a u, act s = (.ok a, u) ∧ f a u = (r, t)) ∨
      ∃ stop, act s = (.error stop, t) ∧ r = .error stop := by
  rw [bind_apply] at h
  rcases first : act s with ⟨stop | a, u⟩
  · rw [first] at h
    obtain ⟨rfl, rfl⟩ := Prod.mk.inj h
    exact Or.inr ⟨stop, rfl, rfl⟩
  · rw [first] at h
    exact Or.inl ⟨a, u, rfl, h⟩

/-- An operation leaves a view of the state alone. -/
def Keeps (view : σ → γ) (act : ExceptT Stop (StateM σ) α) : Prop :=
  ∀ s, view (act s).2 = view s

variable {view : σ → γ}

theorem keeps_pure (a : α) : Keeps view (pure a : ExceptT Stop (StateM σ) α) :=
  fun _ => rfl

theorem keeps_get : Keeps view (get : ExceptT Stop (StateM σ) σ) :=
  fun _ => rfl

theorem keeps_modify {f : σ → σ} (h : ∀ s, view (f s) = view s) :
    Keeps view (modify f : ExceptT Stop (StateM σ) PUnit) :=
  h

/-- A sequence leaves alone what both of its parts leave alone. -/
theorem Keeps.bind {act : ExceptT Stop (StateM σ) α} {f : α → ExceptT Stop (StateM σ) β}
    (first : Keeps view act) (rest : ∀ a, Keeps view (f a)) : Keeps view (act >>= f) := by
  intro s
  have before := first s
  rw [bind_apply]
  rcases ending : act s with ⟨stop | a, t⟩
  · rw [ending] at before
    exact before
  · rw [ending] at before
    exact (rest a t).trans before

/-- A sequence whose first part leaves a view alone goes on from where the view
    is the same, or stops there. -/
theorem Keeps.bind_cases {act : ExceptT Stop (StateM σ) α}
    {f : α → ExceptT Stop (StateM σ) β} {s t : σ} {r : Except Stop β} (keeps : Keeps view act)
    (run : (act >>= f) s = (r, t)) :
    (∃ a u, view u = view s ∧ f a u = (r, t)) ∨ ∃ stop, r = .error stop ∧ view t = view s := by
  have same := keeps s
  rcases DisplayHub.bind_cases run with ⟨a, u, ended, rest⟩ | ⟨stop, ended, rfl⟩
  · rw [ended] at same
    exact Or.inl ⟨a, u, same, rest⟩
  · rw [ended] at same
    exact Or.inr ⟨stop, rfl, same⟩

end Running

namespace Act

variable {α γ : Type} {view : Hub → γ}

theorem keeps_fail (f : Failure) : Keeps view (fail f : Act α) :=
  fun _ => rfl

theorem keeps_ofExcept (answer : Except Failure α) : Keeps view (ofExcept answer) := by
  cases answer with
  | ok a => exact keeps_pure a
  | error f => exact keeps_fail f

/-- An operation that is undone if it stops ends as it does, or is undone. -/
theorem onStop_cases {undo : Hub → Hub} {act : Act α} {h h' : Hub} {r : Except Stop α}
    (run : onStop undo act h = (r, h')) :
    (∃ a, act h = (.ok a, h') ∧ r = .ok a) ∨
      ∃ stop u, act h = (.error stop, u) ∧ r = .error stop ∧ h' = undo u := by
  unfold onStop at run
  rcases ending : act h with ⟨stop | a, u⟩
  · rw [ending] at run
    obtain ⟨rfl, rfl⟩ := Prod.mk.inj run
    exact Or.inr ⟨stop, u, rfl, rfl, rfl⟩
  · rw [ending] at run
    obtain ⟨rfl, rfl⟩ := Prod.mk.inj run
    exact Or.inl ⟨a, rfl, rfl⟩

theorem keeps_attempt {act : Act α} (keeps : Keeps view act) : Keeps view (attempt act) := by
  intro s
  have before := keeps s
  unfold attempt
  rcases ending : act s with ⟨(f | _) | a, t⟩
  all_goals
    rw [ending] at before
    exact before

end Act

namespace Hub

/-- All of the hub but its records. -/
def ground (h : Hub) : Hub :=
  { h with
    storage := {}, pipeIgnored := false, extensions := 0, providers := 0, offered := none
    journal := {} }

/-- The ground of a hub with another compositor and another allocator. -/
def dealing (c : Compositor) (a : Allocator) (h : Hub) : Hub :=
  { h.ground with compositor := c, allocator := a }

section Dealt

variable {h u : Hub} {c : Compositor} {a : Allocator}

/-- What shows nothing of the records can be told from the ground. -/
theorem told_of_ground {γ : Type} {g : Hub} {x : γ} (view : Hub → γ) (same : u.ground = g)
    (blind : view u.ground = view u) (shown : view g = x) : view u = x :=
  blind.symm.trans ((congrArg view same).trans shown)

theorem compositor_of_ground (dealt : u.ground = h.dealing c a) : u.compositor = c :=
  told_of_ground compositor dealt rfl rfl

theorem allocator_of_ground (dealt : u.ground = h.dealing c a) : u.allocator = a :=
  told_of_ground allocator dealt rfl rfl

theorem faults_of_ground (dealt : u.ground = h.dealing c a) : u.faults = h.faults :=
  told_of_ground faults dealt rfl rfl

/-- Of two deals one after the other, the later one counts. -/
theorem dealing_of_ground (dealt : u.ground = h.dealing c a) (c' : Compositor)
    (a' : Allocator) : u.dealing c' a' = h.dealing c' a' := by
  have opened : u.dealing c' a' = { u.ground with compositor := c', allocator := a' } := rfl
  rw [opened, dealt]
  rfl

/-- What keeps the ground keeps what can be dealt on it. -/
theorem dealing_of_same (same : u.ground = h.ground) (c' : Compositor) (a' : Allocator) :
    u.dealing c' a' = h.dealing c' a' :=
  dealing_of_ground (same.trans rfl : u.ground = h.dealing h.compositor h.allocator) c' a'

end Dealt

/-! ### Writing the records -/

theorem ground_note (level : Level) (text : String) (h : Hub) :
    (h.note level text).ground = h.ground := rfl

theorem ground_noteAll (notes : List Note) (h : Hub) : (h.noteAll notes).ground = h.ground := rfl

theorem ground_recordEvents (events : List LibraryEvent) (h : Hub) :
    (h.recordEvents events).ground = h.ground := rfl

theorem ground_tell (handler : Handler) (notice : Notice) (h : Hub) :
    (h.tell handler notice).ground = h.ground := by
  cases handler <;> cases notice <;> rfl

/-- Destroying an interface writes in the journal and nowhere else. -/
theorem destroyExtension_keeps (e : Extension) (h : Hub) :
    ∃ journal, h.destroyExtension e = { h with journal } := by
  unfold destroyExtension
  split
  · exact ⟨_, rfl⟩
  · split <;> exact ⟨_, rfl⟩

/-- An interface that nobody holds is destroyed when it is let go, -/
theorem letGo_of_free {e : Extension} {h : Hub} (free : h.holds e = false) :
    h.letGo e = h.destroyExtension e := by
  unfold letGo
  rw [free]
  rfl

/-- and what somebody holds stays when it is let go elsewhere. -/
theorem letGo_of_holds {e : Extension} {h : Hub} (held : h.holds e = true) : h.letGo e = h := by
  unfold letGo
  rw [if_pos held]

theorem ground_letGo (e : Extension) (h : Hub) : (h.letGo e).ground = h.ground := by
  cases held : h.holds e with
  | false =>
      obtain ⟨journal, same⟩ := destroyExtension_keeps e h
      rw [letGo_of_free held, same]
      rfl
  | true => rw [letGo_of_holds held]

theorem ground_letGo? (e : Option Extension) (h : Hub) : (h.letGo? e).ground = h.ground := by
  cases e with
  | none => rfl
  | some e => exact ground_letGo e h

theorem ground_abandonProvider (provider : Nat) (h : Hub) :
    (h.abandonProvider provider).ground = h.ground := rfl

end Hub

namespace Act

theorem keeps_note (level : Level) (text : String) : Keeps Hub.ground (note level text) :=
  fun _ => rfl

/-- A call that is watched changes nothing but the records, and stops only where
    a fault is set. -/
theorem visit_apply (call : Call) (h : Hub) :
    visit call h = (match h.faults call with
      | none => .ok ()
      | some stop => .error stop, h.recordCall call) := by
  have same : (h.recordCall call).faults call = h.faults call := rfl
  unfold visit
  rw [modify_bind, get_bind, same]
  cases h.faults call <;> rfl

theorem keeps_visit (call : Call) : Keeps Hub.ground (visit call) := by
  intro h
  rw [visit_apply]
  rfl

/-! ### Questions to the hardware -/

theorem keeps_queryResource : Keeps Hub.ground queryResource :=
  (keeps_visit _).bind fun _ => keeps_get.bind fun _ => keeps_ofExcept _

theorem keeps_scanConnectors (root : String) : Keeps Hub.ground (scanConnectors root) := by
  intro h
  -- what was read is forgotten in the ground, but the scan starts from here, so
  -- it is followed from this one state
  unfold scanConnectors
  rw [get_bind]
  rcases Connector.scan h.storage root with ⟨result, storage, notes⟩
  dsimp only
  rw [set_bind]
  cases result <;> rfl

theorem keeps_queryStatus : Keeps Hub.ground queryStatus := by
  refine (keeps_visit _).bind fun _ => keeps_get.bind fun h => ?_
  cases h.hardware.listing with
  | described entries => exact (keeps_note _ _).bind fun _ => keeps_pure _
  | connectors root => exact keeps_scanConnectors root
  | scripted entries => exact keeps_pure _

theorem keeps_queryLimit (v : Variant) : Keeps Hub.ground (queryLimit v) :=
  (keeps_visit _).bind fun _ => keeps_get.bind fun _ => (keeps_ofExcept _).bind fun _ =>
    keeps_pure _

/-- Picking the first interface of a report changes nothing. -/
theorem keeps_pickFirst (f : Failure) (t : Topology) : Keeps Hub.ground (match t.first? with
    | some interface => (pure interface : Act Interface)
    | none => fail f) := by
  cases t.first? with
  | none => exact keeps_fail f
  | some interface => exact keeps_pure interface

theorem keeps_queryFirst : Keeps Hub.ground queryFirst := by
  refine (keeps_visit _).bind fun _ => keeps_get.bind fun h => ?_
  cases h.hardware.listing with
  | described entries => exact (keeps_pure _).bind (keeps_pickFirst _)
  | connectors root => exact (keeps_scanConnectors root).bind (keeps_pickFirst _)
  | scripted entries => exact (keeps_pure _).bind (keeps_pickFirst _)

/-! ### What is handed out -/

theorem keeps_createProvider : Keeps Hub.ground createProvider := by
  refine (keeps_visit _).bind fun _ => keeps_get.bind fun h => ?_
  -- whatever was noted about the provider, it is counted in the end
  have count : Keeps Hub.ground (do
      modify fun h => { h with providers := h.providers + 1 }
      return h.providers : Act Nat) :=
    (keeps_modify fun _ => by rfl).bind fun _ => keeps_pure _
  dsimp only
  cases h.hardware.listing with
  | described entries =>
      dsimp only
      split
      · exact (keeps_note _ _).bind fun _ => count
      · exact count
  | connectors root =>
      dsimp only
      split
      · exact (keeps_fail _).bind fun _ => count
      · split
        · exact (keeps_note _ _).bind fun _ => count
        · exact count
  | scripted entries => exact count

theorem keeps_handOut (opened : Option OpenInterface) : Keeps Hub.ground (handOut opened) :=
  keeps_get.bind fun _ => (keeps_modify fun _ => by rfl).bind fun _ => keeps_pure _

theorem keeps_loadExtension : Keeps Hub.ground loadExtension := by
  refine (keeps_visit _).bind fun _ => keeps_get.bind fun h => ?_
  cases h.loader with
  | disabled => exact keeps_pure _
  | standIn outcome =>
      refine (keeps_ofExcept _).bind fun given => ?_
      split
      · exact (keeps_handOut _).bind fun _ => keeps_pure _
      · exact keeps_pure _
  | library settings =>
      -- the attempt to load a library is over once its events are written down
      refine (keeps_modify fun h => ?_).bind fun _ => (keeps_ofExcept _).bind fun opened => ?_
      · rw [Hub.ground_recordEvents, Hub.ground_noteAll]
      cases opened with
      | none => exact keeps_pure _
      | some i => exact (keeps_handOut _).bind fun _ => keeps_pure _

theorem keeps_noteExtension (e : Option Extension) : Keeps Hub.ground (noteExtension e) := by
  cases e with
  | none => exact keeps_note _ _
  | some e => exact keeps_note _ _

theorem keeps_tryStatus : Keeps Hub.ground tryStatus := by
  refine (keeps_attempt keeps_queryStatus).bind fun answer => ?_
  cases answer with
  | ok t => exact keeps_pure t
  | error f => exact (keeps_note _ _).bind fun _ => keeps_pure _

theorem keeps_ignoreBrokenPipe : Keeps Hub.ground ignoreBrokenPipe := by
  refine keeps_get.bind fun h => ?_
  split
  · exact (keeps_note _ _).bind fun _ => keeps_modify fun _ => by rfl
  · exact keeps_pure _

/-! ### Questions to the hub -/

theorem keeps_requireProvider : Keeps Hub.ground requireProvider := by
  refine keeps_get.bind fun h => ?_
  split
  · exact keeps_fail _
  · exact keeps_pure _

theorem keeps_rotates (format : PixelFormat) : Keeps Hub.ground (rotates format) :=
  (keeps_visit _).bind fun _ => keeps_get.bind fun _ => keeps_pure _

theorem keeps_firstInterface : Keeps Hub.ground firstInterface :=
  keeps_requireProvider.bind fun _ => keeps_queryFirst

theorem keeps_limit (v : Variant) : Keeps Hub.ground (limit v) :=
  keeps_requireProvider.bind fun _ => keeps_queryLimit v

end Act

/-- What is dealt out, what the hub knows of the hardware, and where
    collaborators are made to stop. -/
structure Stock where
  compositor : Compositor
  allocator : Allocator
  /-- Whether the hub is up. -/
  up : Bool
  resource : Option Resource
  faults : Call → Option Stop

/-- A stock with something else dealt out. -/
def Stock.dealing (c : Compositor) (a : Allocator) (s : Stock) : Stock :=
  { s with compositor := c, allocator := a }

namespace Hub

/-- The stock of a hub. -/
def stock (h : Hub) : Stock :=
  ⟨h.compositor, h.allocator, h.initialized, h.core.resource, h.faults⟩

/-- The stock of a hub and who may hold something of it. -/
def holdings (h : Hub) : Stock × List (Option Display) :=
  (h.stock, h.slots)

section Dealt

variable {h u : Hub} {c : Compositor} {a : Allocator}

theorem holdings_of_ground (dealt : u.ground = h.dealing c a) :
    u.holdings = (h.stock.dealing c a, h.slots) := told_of_ground holdings dealt rfl rfl

theorem holdings_of_same (same : u.ground = h.ground) : u.holdings = h.holdings :=
  told_of_ground holdings same rfl rfl

end Dealt

end Hub

namespace Act

variable {α : Type}

/-- What keeps the ground keeps the holdings. -/
theorem holds_of_keeps {act : Act α} (keeps : Keeps Hub.ground act) :
    Keeps Hub.holdings act :=
  fun h => Hub.holdings_of_same (keeps h)

/-- Colors are no part of the holdings. -/
theorem holds_brighten (r : Resource) : Keeps Hub.holdings (brighten r) := by
  -- only the service's own state changes, which the holdings do not show
  refine keeps_get.bind fun h => ?_
  dsimp only
  by_cases idle : h.color.standIn = true
  · rw [if_pos idle]
    exact keeps_pure _
  · rw [if_neg idle]
    split
    · exact (holds_of_keeps (keeps_note _ _)).bind fun _ => keeps_fail _
    · exact (keeps_modify fun _ => by rfl).bind fun _ => holds_of_keeps (keeps_note _ _)

/-- Nor is what is tried with them. -/
theorem holds_tryColor (r : Resource) : Keeps Hub.holdings (tryColor r) := by
  have asked : Keeps Hub.holdings (enableColor r) :=
    (holds_of_keeps (keeps_visit _)).bind fun _ => holds_brighten r
  refine (keeps_attempt asked).bind fun answer => ?_
  cases answer with
  | ok _ => exact keeps_pure _
  | error f => exact holds_of_keeps (keeps_note _ _)

end Act

end DisplayHub
