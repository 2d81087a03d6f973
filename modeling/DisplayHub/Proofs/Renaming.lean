import DisplayHub.Proofs.Dealing
import DisplayHub.Proofs.Frame
import Mathlib.Logic.Function.Basic

/-!
# Hubs up to Renaming

Two hubs that nobody can tell apart by what they answer.

Hubs differ in much that no answer depends on: what was left behind, who holds
displays, how many interfaces and providers there were, the numbers of buffers
and tokens. `Hub.observed` shows everything else. Two hubs that show the same and
have the same active displays are images of each other, and the tokens under
which displays are active are translated by a `rename`.

A translation has to be one-to-one, or a token that is taken back could stand
for two displays in the other hub. And it has to be known in advance for tokens
that are not granted yet, since both hubs go on counting from where they are
(`SameUpTo.next`).

The policy for bandwidth is not a part of that. A compositor that starts
always chooses the usual one, but one that stops keeps what it had, so images
agree on it while they are at work, and at rest only if they have `agreed` on
it before.

`Parallel` is about operations. Two of them that are run on images end in the
same way, with values that are alike, and leave images behind. Operations that
are put together from parallel parts are parallel.

## Main definitions

* `Extension.erased`, `Core.erased`, `Setup.erased`, `Display.erased`: What does not
  depend on numbers that were handed out.
* `Hub.observed`: All of the hub that answers depend on, but for the tokens.
* `Hub.SameUpTo`, `Display.SameUpTo`: Images under a translation of tokens.
* `ResultsAgree`, `Parallel`: Results and operations that match.

## Theorems

* `Parallel.bind`, `parallel_get`, `Act.parallel_onStop`,
  `Act.parallel_attempt`: Operations made of parallel ones.
* `Hub.SameUpTo.of_same`: What nobody can see keeps images.
* `Hub.SameUpTo.trans`: An image of an image is an image.
* `Compositor.SameUpTo.refusal?`: Compositors that are images turn down the same
  displays.
* `Act.parallel_queryStatus`, `Act.parallel_register`,
  `Act.parallel_allocate`, …: The collaborators, called on both sides.
-/

namespace DisplayHub

/-! ### Without the numbers -/

/-- An interface without its number. -/
def Extension.erased (e : Extension) : Extension :=
  { e with serial := 0 }

/-- A core without the numbers in it. -/
def Core.erased (c : Core) : Core :=
  { c with extension := c.extension.map Extension.erased, provider := c.provider.map fun _ => 0 }

def Setup.erased (s : Setup) : Setup :=
  { s with extension := s.extension.map Extension.erased }

def Buffer.erased (b : Buffer) : Buffer :=
  { b with id := 0 }

def Body.erased : Body → Body
  | .offscreen buffer => .offscreen (buffer.map Buffer.erased)
  | body => body

theorem Body.variant_erased (b : Body) : b.erased.variant = b.variant := by
  cases b <;> rfl

/-- A display without the numbers in it. -/
def Display.erased (d : Display) : Display :=
  { d with
    body := d.body.erased
    provider := d.provider.map fun _ => 0
    token := d.token.map fun _ => 0 }

/-- A display that is active under another token. -/
def Active.rename (rename : Nat → Nat) (a : Active) : Active :=
  { a with token := rename a.token }

/-! ### Images -/

/-- All of a hub that answers depend on, but for the tokens. -/
structure Observed where
  storage : Storage
  override : Option String
  loader : Loader
  hardware : Hardware
  faults : Call → Option Stop
  limit : Nat
  color : ColorService
  core : Core
  setup : Option Setup

/-- What a hub shows to somebody who cannot read numbers. -/
def Hub.observed (h : Hub) : Observed where
  storage := h.storage
  override := h.override
  loader := h.loader
  hardware := h.hardware
  faults := h.faults
  limit := h.allocator.limit
  color := h.color
  core := h.core.erased
  setup := h.compositor.setup.map Setup.erased

/-- Two compositors that deal out the same under other tokens. -/
structure Compositor.SameUpTo (rename : Nat → Nat) (agreed : Prop) (c d : Compositor) : Prop where
  setup : c.setup.map Setup.erased = d.setup.map Setup.erased
  active : c.active = d.active.map (Active.rename rename)
  next : ∀ i, c.nextToken + i = rename (d.nextToken + i)
  mode : c.setup.isSome = true ∨ agreed → c.mode = d.mode

/-- Two hubs that answer the same. -/
structure Hub.SameUpTo (rename : Nat → Nat) (agreed : Prop) (h u : Hub) : Prop where
  observed : h.observed = u.observed
  compositor : h.compositor.SameUpTo rename agreed u.compositor

/-- Two displays that differ in numbers only. -/
structure Display.SameUpTo (rename : Nat → Nat) (d e : Display) : Prop where
  erased : d.erased = e.erased
  token : d.token = e.token.map rename

/-! ### Operations side by side -/

/-- Two results that match. -/
inductive ResultsAgree {ε α β : Type} (V : α → β → Prop) : Except ε α → Except ε β → Prop where
  | ok {a : α} {b : β} (alike : V a b) : ResultsAgree V (.ok a) (.ok b)
  | error (e : ε) : ResultsAgree V (.error e) (.error e)

section Running

variable {σ τ α β γ δ : Type} {R : σ → τ → Prop} {V : α → β → Prop} {W : γ → δ → Prop}

/-- Two operations that end alike wherever they begin alike. -/
def Parallel (R : σ → τ → Prop) (V : α → β → Prop) (f : ExceptT Stop (StateM σ) α)
    (g : ExceptT Stop (StateM τ) β) : Prop :=
  ∀ s t, R s t → ResultsAgree V (f s).1 (g t).1 ∧ R (f s).2 (g t).2

theorem parallel_pure {a : α} {b : β} (alike : V a b) :
    Parallel R V (pure a : ExceptT Stop (StateM σ) α) (pure b) :=
  fun _ _ related => ⟨ResultsAgree.ok alike, related⟩

theorem parallel_throw (stop : Stop) :
    Parallel R V (throw stop : ExceptT Stop (StateM σ) α) (throw stop) :=
  fun _ _ related => ⟨ResultsAgree.error stop, related⟩

theorem parallel_modify {f : σ → σ} {g : τ → τ} (kept : ∀ s t, R s t → R (f s) (g t)) :
    Parallel R Eq (modify f : ExceptT Stop (StateM σ) PUnit)
      (modify g : ExceptT Stop (StateM τ) PUnit) :=
  fun s t related => ⟨ResultsAgree.ok rfl, kept s t related⟩

/-- What is done next may depend on the states, as far as they are related. -/
theorem parallel_get {f : σ → ExceptT Stop (StateM σ) α} {g : τ → ExceptT Stop (StateM τ) β}
    (rest : ∀ s t, R s t → Parallel R V (f s) (g t)) : Parallel R V (get >>= f) (get >>= g) :=
  fun s t related => rest s t related s t related

theorem Parallel.bind {f : ExceptT Stop (StateM σ) α} {g : ExceptT Stop (StateM τ) β}
    {f' : α → ExceptT Stop (StateM σ) γ} {g' : β → ExceptT Stop (StateM τ) δ}
    (first : Parallel R V f g) (rest : ∀ a b, V a b → Parallel R W (f' a) (g' b)) :
    Parallel R W (f >>= f') (g >>= g') := by
  intro s t related
  obtain ⟨alike, after⟩ := first s t related
  rw [bind_apply, bind_apply]
  rcases one : f s with ⟨r, s'⟩
  rcases other : g t with ⟨q, t'⟩
  rw [one, other] at alike after
  -- either both go on from there, or both stopped
  cases alike with
  | ok alike => exact rest _ _ alike s' t' after
  | error stop => exact ⟨ResultsAgree.error stop, after⟩

end Running

/-! ### What nobody can see -/

namespace Hub

variable {ρ : Nat → Nat} {agreed : Prop} {h h' u u' : Hub}

/-- What does not show on either side keeps images. -/
theorem SameUpTo.of_same (images : h.SameUpTo ρ agreed u) (observed : h'.observed = h.observed)
    (compositor : h'.compositor = h.compositor) (observed' : u'.observed = u.observed)
    (compositor' : u'.compositor = u.compositor) : h'.SameUpTo ρ agreed u' where
  observed := observed.trans (images.observed.trans observed'.symm)
  compositor := by
    rw [compositor, compositor']
    exact images.compositor

theorem SameUpTo.note (images : h.SameUpTo ρ agreed u) (l l' : Level) (x y : String) :
    (h.note l x).SameUpTo ρ agreed (u.note l' y) :=
  images.of_same rfl rfl rfl rfl

theorem SameUpTo.noteAll (images : h.SameUpTo ρ agreed u) (l l' : List Note) :
    (h.noteAll l).SameUpTo ρ agreed (u.noteAll l') :=
  images.of_same rfl rfl rfl rfl

theorem SameUpTo.recordCall (images : h.SameUpTo ρ agreed u) (c c' : Call) :
    (h.recordCall c).SameUpTo ρ agreed (u.recordCall c') :=
  images.of_same rfl rfl rfl rfl

theorem SameUpTo.letGo? (images : h.SameUpTo ρ agreed u) (e e' : Option Extension) :
    (h.letGo? e).SameUpTo ρ agreed (u.letGo? e') := by
  have unseen (e : Option Extension) (h : Hub) :
      (h.letGo? e).observed = h.observed ∧ (h.letGo? e).compositor = h.compositor := by
    cases e with
    | none => exact ⟨rfl, rfl⟩
    | some e =>
        unfold Hub.letGo? letGo destroyExtension
        dsimp only
        split
        · exact ⟨rfl, rfl⟩
        · split
          · exact ⟨rfl, rfl⟩
          · split <;> exact ⟨rfl, rfl⟩
  exact images.of_same (unseen e h).1 (unseen e h).2 (unseen e' u).1 (unseen e' u).2

end Hub

namespace Act

variable {α β : Type} {ρ : Nat → Nat} {agreed : Prop} {V : α → β → Prop}

theorem parallel_fail (f : Failure) : Parallel (Hub.SameUpTo ρ agreed) V (fail f) (fail f) :=
  parallel_throw _

/-- What would come after a failure does not matter. -/
theorem parallel_fail_bind {γ : Type} (f : Failure) (rest : γ → Act α) (other : γ → Act β) :
    Parallel (Hub.SameUpTo ρ agreed) V (fail f >>= rest) (fail f >>= other) :=
  fun _ _ images => ⟨ResultsAgree.error _, images⟩

theorem parallel_note (l l' : Level) (x y : String) :
    Parallel (Hub.SameUpTo ρ agreed) Eq (note l x) (note l' y) :=
  parallel_modify fun _ _ images => images.note l l' x y

theorem parallel_ofExcept (answer : Except Failure α) :
    Parallel (Hub.SameUpTo ρ agreed) Eq (ofExcept answer) (ofExcept answer) := by
  cases answer with
  | ok a => exact parallel_pure rfl
  | error f => exact parallel_fail f

/-- A fault is set on both sides or on neither. -/
theorem parallel_visit (call : Call) :
    Parallel (Hub.SameUpTo ρ agreed) Eq (visit call) (visit call) := by
  intro h u images
  have faults : h.faults call = u.faults call := congrArg (fun f => f.faults call) images.observed
  rw [visit_apply, visit_apply, faults]
  refine ⟨?_, images.recordCall call call⟩
  cases u.faults call with
  | none => exact ResultsAgree.ok rfl
  | some stop => exact ResultsAgree.error stop

theorem parallel_onStop {undo undo' : Hub → Hub} {f : Act α} {g : Act β}
    (undone : ∀ h u, Hub.SameUpTo ρ agreed h u → Hub.SameUpTo ρ agreed (undo h) (undo' u))
    (parallel : Parallel (Hub.SameUpTo ρ agreed) V f g) :
    Parallel (Hub.SameUpTo ρ agreed) V (onStop undo f) (onStop undo' g) := by
  intro h u images
  obtain ⟨alike, after⟩ := parallel h u images
  unfold onStop
  rcases one : f h with ⟨r, h'⟩
  rcases other : g u with ⟨q, u'⟩
  rw [one, other] at alike after
  -- what was done is undone on both sides, or on neither
  cases alike with
  | ok alike => exact ⟨ResultsAgree.ok alike, after⟩
  | error stop => exact ⟨ResultsAgree.error stop, undone h' u' after⟩

/-- What was attempted on both sides failed on both, or on neither. -/
theorem parallel_attempt {f g : Act α} (parallel : Parallel (Hub.SameUpTo ρ agreed) Eq f g) :
    Parallel (Hub.SameUpTo ρ agreed) Eq (attempt f) (attempt g) := by
  intro h u images
  obtain ⟨alike, after⟩ := parallel h u images
  unfold attempt
  rcases one : f h with ⟨r, h'⟩
  rcases other : g u with ⟨q, u'⟩
  rw [one, other] at alike after
  cases alike with
  | ok same => exact ⟨ResultsAgree.ok (congrArg Except.ok same), after⟩
  | error stop =>
      cases stop with
      | failure f => exact ⟨ResultsAgree.ok rfl, after⟩
      | collapse => exact ⟨ResultsAgree.error Stop.collapse, after⟩

/-! ### Questions to the hardware -/

theorem parallel_queryResource :
    Parallel (Hub.SameUpTo ρ agreed) Eq queryResource queryResource := by
  refine (parallel_visit _).bind fun _ _ _ => parallel_get fun h u images => ?_
  have hardware : h.hardware = u.hardware := congrArg Observed.hardware images.observed
  rw [hardware]
  exact parallel_ofExcept _

theorem parallel_scanConnectors (root : String) :
    Parallel (Hub.SameUpTo ρ agreed) Eq (scanConnectors root) (scanConnectors root) := by
  intro h u images
  have storage : h.storage = u.storage := congrArg Observed.storage images.observed
  unfold scanConnectors
  rw [get_bind, get_bind, storage]
  rcases Connector.scan u.storage root with ⟨result, files, notes⟩
  dsimp only
  rw [set_bind, set_bind]
  -- both read the same files
  have read : Hub.SameUpTo ρ agreed { h with storage := files } { u with storage := files } := by
    refine ⟨?_, images.compositor⟩
    have := congrArg (fun f : Observed => { f with storage := files }) images.observed
    exact this
  cases result with
  | ok topology => exact ⟨ResultsAgree.ok rfl, read.noteAll notes notes⟩
  | error fault => exact ⟨ResultsAgree.error _, read.noteAll notes notes⟩

theorem parallel_queryStatus : Parallel (Hub.SameUpTo ρ agreed) Eq queryStatus queryStatus := by
  refine (parallel_visit _).bind fun _ _ _ => parallel_get fun h u images => ?_
  have hardware : h.hardware = u.hardware := congrArg Observed.hardware images.observed
  rw [hardware]
  cases u.hardware.listing with
  | described entries => exact (parallel_note _ _ _ _).bind fun _ _ _ => parallel_pure rfl
  | connectors root => exact parallel_scanConnectors root
  | scripted entries => exact parallel_pure rfl

theorem parallel_queryLimit (v : Variant) :
    Parallel (Hub.SameUpTo ρ agreed) Eq (queryLimit v) (queryLimit v) := by
  refine (parallel_visit _).bind fun _ _ _ => parallel_get fun h u images => ?_
  have hardware : h.hardware = u.hardware := congrArg Observed.hardware images.observed
  rw [hardware]
  refine (parallel_ofExcept _).bind ?_
  rintro resource _ rfl
  exact parallel_pure rfl

theorem parallel_pickFirst (f : Failure) (t : Topology) : Parallel (Hub.SameUpTo ρ agreed) Eq
    (match t.first? with
      | some interface => (pure interface : Act Interface)
      | none => fail f)
    (match t.first? with
      | some interface => (pure interface : Act Interface)
      | none => fail f) := by
  cases t.first? with
  | none => exact parallel_fail f
  | some interface => exact parallel_pure rfl

theorem parallel_queryFirst : Parallel (Hub.SameUpTo ρ agreed) Eq queryFirst queryFirst := by
  refine (parallel_visit _).bind fun _ _ _ => parallel_get fun h u images => ?_
  have hardware : h.hardware = u.hardware := congrArg Observed.hardware images.observed
  rw [hardware]
  cases u.hardware.listing with
  | described entries =>
      exact (parallel_pure rfl).bind fun t _ same => same ▸ parallel_pickFirst _ t
  | connectors root =>
      exact (parallel_scanConnectors root).bind fun t _ same => same ▸ parallel_pickFirst _ t
  | scripted entries =>
      exact (parallel_pure rfl).bind fun t _ same => same ▸ parallel_pickFirst _ t

end Act

/-! ### Compositors -/

namespace Compositor.SameUpTo

variable {ρ : Nat → Nat} {agreed : Prop} {c d : Compositor}

/-- Both are at work on the same hardware, or neither is at work. -/
theorem setup_cases (images : c.SameUpTo ρ agreed d) : (c.setup = none ∧ d.setup = none) ∨
    ∃ s t : Setup, c.setup = some s ∧ d.setup = some t ∧ s.resource = t.resource := by
  have same := images.setup
  rcases one : c.setup with _ | s <;> rcases other : d.setup with _ | t
  all_goals rw [one, other] at same
  · exact Or.inl ⟨rfl, rfl⟩
  · nomatch same
  · nomatch same
  · have erasures : some s.erased = some t.erased := same
    have resource := congrArg Setup.resource (Option.some.inj erasures)
    exact Or.inr ⟨s, t, rfl, rfl, resource⟩

theorem drives (images : c.SameUpTo ρ agreed d) : c.drives = d.drives := by
  funext id
  unfold Compositor.drives
  rw [images.active, List.any_map]
  rfl

theorem countOf (images : c.SameUpTo ρ agreed d) (v : Variant) : c.countOf v = d.countOf v := by
  unfold Compositor.countOf
  rw [images.active, List.countP_map]
  rfl

theorem onMixers (images : c.SameUpTo ρ agreed d) : c.onMixers = d.onMixers := by
  unfold Compositor.onMixers
  rw [images.active, List.countP_map]
  rfl

/-- The same displays are turned down for the same reasons. -/
theorem refusal? (images : c.SameUpTo ρ agreed d) (v : Variant) (id : Option Int32) :
    c.refusal? v id = d.refusal? v id := by
  unfold Compositor.refusal?
  rcases images.setup_cases with ⟨one, other⟩ | ⟨s, t, one, other, same⟩
  · rw [one, other]
  · rw [one, other, images.drives]
    dsimp only
    rw [same, images.countOf, images.onMixers]

theorem grant (images : c.SameUpTo ρ agreed d) (v : Variant) (id : Option Int32) :
    (c.grant v id).SameUpTo ρ agreed (d.grant v id) where
  setup := images.setup
  active := by
    have token : c.nextToken = ρ d.nextToken := images.next 0
    -- the next tokens of both sides are translations of each other
    unfold Compositor.grant
    rw [images.active, List.map_append, token]
    rfl
  next i := by
    have later := images.next (1 + i)
    rwa [← Nat.add_assoc, ← Nat.add_assoc] at later
  mode := images.mode

theorem register (images : c.SameUpTo ρ agreed d) (v : Variant) (id : Option Int32) :
    ResultsAgree (fun a b => a.1 = ρ b.1 ∧ a.2.SameUpTo ρ agreed b.2) (c.register v id)
      (d.register v id) := by
  unfold Compositor.register
  rw [images.refusal?]
  cases d.refusal? v id with
  | some refusal => exact ResultsAgree.error refusal
  | none => exact ResultsAgree.ok ⟨images.next 0, images.grant v id⟩

theorem start (images : c.SameUpTo ρ agreed d) (resource : Resource) {e e' : Option Extension}
    (erasures : e.map Extension.erased = e'.map Extension.erased) :
    ResultsAgree (Compositor.SameUpTo ρ agreed) (c.start resource e) (d.start resource e') := by
  have work : c.setup.isSome = d.setup.isSome := by
    rcases images.setup_cases with ⟨one, other⟩ | ⟨s, t, one, other, -⟩
    · rw [one, other]
    · rw [one, other]
      rfl
  unfold Compositor.start
  rw [work]
  split
  · exact ResultsAgree.error _
  · split
    · exact ResultsAgree.error _
    · refine ResultsAgree.ok ⟨?_, images.active, images.next, fun _ => rfl⟩
      exact congrArg (fun e => some (Setup.mk resource e)) erasures

theorem stop (images : c.SameUpTo ρ agreed d) : c.stop.SameUpTo ρ agreed d.stop where
  setup := rfl
  active := rfl
  next := images.next
  -- a compositor that is not at work keeps the policy it had
  mode := by
    rintro (working | agreed)
    · nomatch working
    · exact images.mode (Or.inr agreed)

theorem setMode (images : c.SameUpTo ρ agreed d) (mode : BandwidthMode) :
    ResultsAgree (Compositor.SameUpTo ρ agreed) (c.setMode mode) (d.setMode mode) := by
  unfold Compositor.setMode
  rcases images.setup_cases with ⟨one, other⟩ | ⟨s, t, one, other, same⟩
  · rw [one, other]
    exact ResultsAgree.error _
  · have erasures := images.setup
    rw [one, other] at erasures ⊢
    dsimp only
    rw [same]
    split
    · exact ResultsAgree.error _
    · exact ResultsAgree.ok ⟨erasures, images.active, images.next, fun _ => rfl⟩

theorem rotates (images : c.SameUpTo ρ agreed d) (format : PixelFormat) :
    c.rotates format = d.rotates format := by
  unfold Compositor.rotates
  rcases images.setup_cases with ⟨one, other⟩ | ⟨s, t, one, other, same⟩
  · rw [one, other]
  · rw [one, other]
    dsimp only
    rw [same]

/-- A token that is taken back stands for the same display on both sides, since
    no two tokens have the same translation. -/
theorem unregister (images : c.SameUpTo ρ agreed d) (apart : Function.Injective ρ) (token : Nat) :
    (c.unregister (ρ token)).SameUpTo ρ agreed (d.unregister token) where
  setup := images.setup
  active := by
    unfold Compositor.unregister
    dsimp only
    rw [images.active, List.filter_map]
    congr 1
    refine List.filter_congr fun a _ => ?_
    simp [Active.rename, apart.eq_iff]
  next := images.next
  mode := images.mode

/-- An image of an image is an image. -/
theorem trans {σ : Nat → Nat} {e : Compositor} (images : c.SameUpTo ρ agreed d)
    (others : d.SameUpTo σ agreed e) : c.SameUpTo (ρ ∘ σ) agreed e where
  setup := images.setup.trans others.setup
  active := by
    rw [images.active, others.active, List.map_map]
    rfl
  next i := by
    rw [images.next, others.next]
    rfl
  mode := by
    intro settled
    refine (images.mode settled).trans (others.mode (settled.imp_left fun working => ?_))
    rcases images.setup_cases with ⟨resting, -⟩ | ⟨s, t, -, other, -⟩
    · rw [resting] at working
      nomatch working
    · rw [other]
      rfl

end Compositor.SameUpTo

namespace Hub

variable {ρ : Nat → Nat} {agreed : Prop} {h u : Hub}

/-- Compositors that are images keep their hubs images. -/
theorem SameUpTo.deal {c d : Compositor} (images : h.SameUpTo ρ agreed u)
    (dealt : c.SameUpTo ρ agreed d) :
    SameUpTo ρ agreed { h with compositor := c } { u with compositor := d } where
  observed := by
    have := congrArg (fun f : Observed => { f with setup := c.setup.map Setup.erased })
      images.observed
    refine this.trans ?_
    rw [dealt.setup]
    rfl
  compositor := dealt

/-- Buffers are counted, but what is granted depends on the limit alone. -/
theorem SameUpTo.count {a b : Allocator} (images : h.SameUpTo ρ agreed u)
    (limit : a.limit = b.limit) :
    SameUpTo ρ agreed { h with allocator := a } { u with allocator := b } where
  observed := by
    have := congrArg (fun f : Observed => { f with limit := a.limit }) images.observed
    refine this.trans ?_
    rw [limit]
    rfl
  compositor := images.compositor

theorem SameUpTo.trans {σ : Nat → Nat} {w : Hub} (images : h.SameUpTo ρ agreed u)
    (others : u.SameUpTo σ agreed w) : h.SameUpTo (ρ ∘ σ) agreed w :=
  ⟨images.observed.trans others.observed, images.compositor.trans others.compositor⟩

end Hub

theorem Display.SameUpTo.trans {ρ σ : Nat → Nat} {d e f : Display} (images : d.SameUpTo ρ e)
    (others : e.SameUpTo σ f) : d.SameUpTo (ρ ∘ σ) f where
  erased := images.erased.trans others.erased
  token := by rw [images.token, others.token, Option.map_map]

namespace Act

variable {α β : Type} {ρ : Nat → Nat} {agreed : Prop} {V : α → β → Prop}

theorem parallel_ofCompositor {a : Except Refusal α} {b : Except Refusal β}
    (alike : ResultsAgree V a b) :
    Parallel (Hub.SameUpTo ρ agreed) V (ofCompositor a) (ofCompositor b) := by
  cases alike with
  | ok alike => exact parallel_pure alike
  | error refusal =>
      unfold ofCompositor
      dsimp only
      cases refusal.warning? with
      | none => exact parallel_fail _
      | some text => exact (parallel_note _ _ _ _).bind fun _ _ _ => parallel_fail _

theorem parallel_setCompositor {c d : Compositor} (images : c.SameUpTo ρ agreed d) :
    Parallel (Hub.SameUpTo ρ agreed) Eq (setCompositor c) (setCompositor d) :=
  parallel_modify fun _ _ hubs => hubs.deal images

theorem parallel_startCompositor (resource : Resource) {e e' : Option Extension}
    (erasures : e.map Extension.erased = e'.map Extension.erased) :
    Parallel (Hub.SameUpTo ρ agreed) Eq (startCompositor resource e)
      (startCompositor resource e') := by
  refine (parallel_modify fun _ _ images => images.of_same rfl rfl rfl rfl).bind fun _ _ _ =>
    (parallel_visit _).bind fun _ _ _ => parallel_get fun h u images => ?_
  refine (parallel_ofCompositor (images.compositor.start resource erasures)).bind fun c d started =>
    (parallel_note _ _ _ _).bind fun _ _ _ => parallel_setCompositor started

theorem parallel_chooseMode (mode : BandwidthMode) :
    Parallel (Hub.SameUpTo ρ agreed) Eq (chooseMode mode) (chooseMode mode) := by
  refine parallel_get fun h u images => ?_
  exact (parallel_ofCompositor (images.compositor.setMode mode)).bind fun c d chosen =>
    (parallel_note _ _ _ _).bind fun _ _ _ => parallel_setCompositor chosen

theorem parallel_register (v : Variant) (id : Option Int32) :
    Parallel (Hub.SameUpTo ρ agreed) (fun a b => a = ρ b) (register v id) (register v id) := by
  refine (parallel_visit _).bind fun _ _ _ => parallel_get fun h u images => ?_
  refine (parallel_ofCompositor (images.compositor.register v id)).bind ?_
  rintro ⟨a, c⟩ ⟨b, d⟩ ⟨token, granted⟩
  exact (parallel_note _ _ _ _).bind fun _ _ _ =>
    (parallel_setCompositor granted).bind fun _ _ _ => parallel_pure token

theorem parallel_enableColor (resource : Resource) :
    Parallel (Hub.SameUpTo ρ agreed) Eq (enableColor resource) (enableColor resource) := by
  refine (parallel_visit _).bind fun _ _ _ => parallel_get fun h u images => ?_
  have color : h.color = u.color := congrArg Observed.color images.observed
  dsimp only
  rw [color]
  split
  · exact parallel_pure rfl
  · split
    · exact (parallel_note _ _ _ _).bind fun _ _ _ => parallel_fail _
    · refine (parallel_modify fun h u images => ⟨?_, images.compositor⟩).bind fun _ _ _ =>
        parallel_note _ _ _ _
      have := congrArg (fun f : Observed => { f with color := { f.color with active := true } })
        images.observed
      exact this

/-- A buffer of the size that is asked for is granted on both sides, or on
    neither. -/
theorem parallel_allocate (size : Nat) :
    Parallel (Hub.SameUpTo ρ agreed) (fun a b => a.erased = b.erased) (allocate size)
      (allocate size) := by
  refine parallel_get fun h u images => ?_
  have limit : h.allocator.limit = u.allocator.limit := congrArg Observed.limit images.observed
  refine (parallel_modify fun h u images => images.noteAll _ _).bind fun _ _ _ => ?_
  -- what is too much is decided by the limit alone
  have same : h.allocator.refusal? size = u.allocator.refusal? size := by
    unfold Allocator.refusal?
    rw [limit]
  unfold Allocator.allocate
  rw [same]
  cases u.allocator.refusal? size with
  | some f => exact parallel_fail _
  | none => ?_
  dsimp only
  by_cases huge : Allocator.largestBlock < size
  · rw [if_pos huge, if_pos huge]
    exact (parallel_modify fun _ _ images => images.count limit).bind fun _ _ _ =>
      parallel_throw _
  · rw [if_neg huge, if_neg huge]
    exact (parallel_modify fun _ _ images => images.count limit).bind fun _ _ _ =>
      parallel_pure rfl

end Act

end DisplayHub
