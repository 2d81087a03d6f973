import DisplayHub.Proofs.Frame

/-!
# Coming Into Service and Leaving It

What every operation on a display does to the display and to what is dealt
out.

A display that comes into service may find nothing, find its entry and get no
token, or get its token, and an off-screen display gets a buffer in between.
`BringUpOutcome` has one case for each of these ends, with the display and the hub as
they are then. It is the only thing that the accounts of displays need to know
of coming into service: which display holds a token now, which one a buffer,
and what the compositor and the allocator count.

Two cases are not as tidy as the others. In `wasted`, an off-screen display
forgets the buffer it held before, since the one it just got took its place.
In `abandoned`, the program is brought down where nothing is undone.

The other operations are simpler. Leaving service returns both things or
nothing, letting a display go returns both, and changing the power deals
nothing out.

## Main definitions

* `Serve.BringUpOutcome`: What can come of bringing a display into service.
* `Display.release`, `Display.vacate`: The compositor and the allocator once a
  display has returned what it holds.
* `Display.shelved`: A display that left service.

## Theorems

* `Act.register_cases`, `Act.allocate_cases`: What is handed out, or not.
* `Serve.bringUpOutcome_bringUp`: `BringUpOutcome` leaves nothing out.
* `Serve.takeDown_cases`: Leaving service.
* `Serve.keeps_setPower`: Changing the power.
* `Display.ground_drop`: Letting a display go.
-/

namespace DisplayHub

/-- A kind remembers something of the entry it drives. -/
def Body.served (e : Entry) : Body → Body
  | .builtIn _ => .builtIn e.primary
  | .pluggable _ => .pluggable e.name
  | other => other

theorem Body.variant_served (e : Entry) (b : Body) : (b.served e).variant = b.variant := by
  cases b <;> rfl

/-- A kind forgets the entry it drove, and its buffer. -/
def Body.shelved : Body → Body
  | .pluggable _ => .pluggable ""
  | .offscreen _ => .offscreen none
  | other => other

/-- A display that left service. -/
def Display.shelved (d : Display) : Display :=
  { d with body := d.body.shelved, token := none, power := .off }

namespace Act

/-- What the compositor answers is passed on, and a refusal changes nothing but
    the records. -/
theorem ofCompositor_cases {α : Type} {answer : Except Refusal α} {h h' : Hub}
    {r : Except Stop α} (run : ofCompositor answer h = (r, h')) :
    (∃ a, answer = .ok a ∧ r = .ok a ∧ h' = h) ∨
      ∃ f, r = .error (.failure f) ∧ h'.ground = h.ground := by
  cases answer with
  | ok a =>
      obtain ⟨rfl, rfl⟩ := Prod.mk.inj run
      exact Or.inl ⟨a, rfl, rfl, rfl⟩
  | error refusal =>
      refine Or.inr ⟨refusal.failure, ?_⟩
      -- some refusals are noted, and all of them are passed on
      cases text : refusal.warning? with
      | none =>
          simp only [ofCompositor, text] at run
          obtain ⟨rfl, rfl⟩ := Prod.mk.inj run
          exact ⟨rfl, rfl⟩
      | some warning =>
          simp only [ofCompositor, text] at run
          obtain ⟨rfl, rfl⟩ := Prod.mk.inj run
          exact ⟨rfl, rfl⟩

/-- The compositor grants the next token, or refuses. -/
theorem grant_cases {v : Variant} {id : Option Int32} {h h' : Hub} {r : Except Stop Nat}
    (run : grant v id h = (r, h')) :
    (∃ f, r = .error (.failure f) ∧ h'.ground = h.ground) ∨
      (r = .ok h.compositor.nextToken ∧ h.compositor.refusal? v id = none ∧
        h'.ground = h.dealing (h.compositor.grant v id) h.allocator) := by
  change (ofCompositor (h.compositor.register v id) >>= fun granted => _) h = _ at run
  rcases bind_cases run with ⟨granted, h₁, answered, rest⟩ | ⟨stop, refused, rfl⟩
  · rcases ofCompositor_cases answered with ⟨_, registered, ⟨⟩, rfl⟩ | ⟨_, ⟨⟩, -⟩
    unfold Compositor.register at registered
    cases free : h₁.compositor.refusal? v id with
    | some refusal =>
        rw [free] at registered
        nomatch registered
    | none =>
        rw [free] at registered
        obtain rfl := Except.ok.inj registered
        obtain ⟨rfl, rfl⟩ := Prod.mk.inj rest
        exact Or.inr ⟨rfl, rfl, rfl⟩
  · rcases ofCompositor_cases refused with ⟨_, -, ⟨⟩, -⟩ | ⟨f, ⟨⟩, same⟩
    exact Or.inl ⟨f, rfl, same⟩

/-- A call for a token ends in the same two ways, or where a fault is set. -/
theorem register_cases {v : Variant} {id : Option Int32} {h h' : Hub} {r : Except Stop Nat}
    (run : register v id h = (r, h')) :
    (∃ stop, r = .error stop ∧ h'.ground = h.ground ∧
        (stop = .collapse → h.faults .register = some .collapse)) ∨
      (r = .ok h.compositor.nextToken ∧ h.compositor.refusal? v id = none ∧
        h'.ground = h.dealing (h.compositor.grant v id) h.allocator) := by
  unfold register at run
  rcases bind_cases run with ⟨_, h₁, visited, rest⟩ | ⟨stop, visited, rfl⟩
  · rw [visit_apply] at visited
    obtain ⟨-, rfl⟩ := Prod.mk.inj visited
    rcases grant_cases rest with ⟨f, rfl, same⟩ | granted
    · exact Or.inl ⟨_, rfl, same, fun collapse => nomatch collapse⟩
    · exact Or.inr granted
  · rw [visit_apply] at visited
    obtain ⟨failed, rfl⟩ := Prod.mk.inj visited
    refine Or.inl ⟨stop, rfl, rfl, ?_⟩
    rintro rfl
    -- the compositor was not asked, so it was the fault that stopped the call
    cases fault : h.faults .register with
    | none =>
        rw [fault] at failed
        nomatch failed
    | some stop =>
        rw [fault] at failed
        rw [Except.error.inj failed]

/-- A buffer for an off-screen display is handed out, or there is no room for
    it. Its size is one that a block of memory can have. -/
theorem allocate_cases {h h' : Hub} {r : Except Stop Buffer}
    (run : allocate Display.writebackSize h = (r, h')) :
    (∃ f, r = .error (.failure f) ∧ h'.ground = h.ground) ∨
      (r = .ok ⟨h.allocator.nextId, Display.writebackSize⟩ ∧
        h'.ground = h.dealing h.compositor h.allocator.issue) := by
  unfold allocate at run
  rw [get_bind, modify_bind, Allocator.allocate_of_block _ (by decide) (by decide)] at run
  by_cases full : h.allocator.limit < Display.writebackSize
  · rw [if_pos full] at run
    obtain ⟨rfl, rfl⟩ := Prod.mk.inj run
    exact Or.inl ⟨_, rfl, rfl⟩
  · rw [if_neg full] at run
    obtain ⟨rfl, rfl⟩ := Prod.mk.inj run
    exact Or.inr ⟨rfl, rfl⟩

end Act

namespace Hub

/-! ### Giving back -/

theorem ground_unregister (token : Nat) (h : Hub) :
    (h.unregister token).ground =
      h.dealing (h.compositor.unregister token) h.allocator := by
  unfold unregister revoke
  dsimp only
  split <;> rfl

end Hub

namespace Display

theorem token_of_idle {d : Display} (idle : d.initialized = false) : d.token = none :=
  Option.not_isSome_iff_eq_none.mp (Bool.not_eq_true _ ▸ idle)

/-- A display that is bound stays bound to its number. -/
theorem bind_of_bound {d : Display} (bound : d.id.isSome = true) (n : Int32) : d.bind n = d := by
  obtain ⟨body, _ | m, name⟩ := d
  · nomatch bound
  · rfl

/-- The compositor once a display has returned its token. -/
def release (d : Display) (c : Compositor) : Compositor :=
  match d.token with
  | none => c
  | some token => c.unregister token

/-- The allocator once a display has returned its buffer. -/
def vacate (d : Display) (a : Allocator) : Allocator :=
  match d.writeback? with
  | none => a
  | some _ => a.free

theorem ground_returnToken (d : Display) (h : Hub) :
    (d.returnToken h).2.ground = h.dealing (d.release h.compositor) h.allocator := by
  unfold returnToken release
  cases d.token with
  | none => rfl
  | some token =>
      dsimp only
      rw [Hub.ground_note, Hub.ground_unregister]

theorem ground_returnWriteback (d : Display) (h : Hub) :
    (d.returnWriteback h).2.ground = h.dealing h.compositor (d.vacate h.allocator) := by
  unfold returnWriteback vacate
  cases d.writeback? <;> rfl

/-- A display that left service has no buffer to return. -/
theorem vacate_shelved (d : Display) (a : Allocator) : d.shelved.vacate a = a := by
  unfold shelved
  cases d.body <;> rfl

/-- A display that returned its token holds none. -/
theorem returnToken_fst (d : Display) (h : Hub) :
    (d.returnToken h).1 = { d with token := none } := by
  unfold returnToken
  split
  next idle =>
    rw [← idle]
  next => rfl

/-- Returning the buffer leaves the token where it was. -/
theorem returnWriteback_token (d : Display) (h : Hub) :
    (d.returnWriteback h).1.token = d.token := by
  unfold returnWriteback
  cases d.writeback? <;> rfl

/-- An off-screen display that returned its buffer holds none. -/
theorem returnWriteback_fst {d : Display} {b : Option Buffer} (offscreen : d.body = .offscreen b)
    (h : Hub) : (d.returnWriteback h).1 = { d with body := .offscreen none } := by
  unfold returnWriteback writeback?
  rw [offscreen]
  cases b with
  | none =>
      change d = _
      rw [← offscreen]
  | some _ => rfl

/-- Letting a display go returns its buffer and its token, and that is all. -/
theorem ground_drop (d : Display) (h : Hub) :
    (d.drop h).ground = h.dealing (d.release h.compositor) (d.vacate h.allocator) := by
  have kept := d.ground_returnWriteback h
  have token := d.returnWriteback_token h
  unfold drop
  generalize d.returnWriteback h = back at kept token ⊢
  obtain ⟨e, u⟩ := back
  -- that the display was still in service is noted and nothing else
  have warned : (if e.initialized then
      u.note .warn ("Display " ++ e.name ++ ": dropped without deinit") else u).ground
      = h.dealing h.compositor (d.vacate h.allocator) := by
    split
    · exact kept
    · exact kept
  -- the token is the one that was held before the buffer went
  have same : e.release = d.release := by
    funext c
    unfold release
    dsimp only at token
    rw [token]
  change (e.returnToken _).2.ground = _
  rw [ground_returnToken, Hub.dealing_of_ground warned, same,
    Hub.compositor_of_ground warned, Hub.allocator_of_ground warned]

end Display

namespace Serve

variable {d e : Display} {h h' : Hub}

theorem display_bind {α : Type} (f : Display → Serve α) (s : Display × Hub) :
    (display >>= f) s = f s.1 s := rfl

/-- The three parts of an ending, one by one. -/
theorem ended {α : Type} {r r' : Except Stop α} (same : (r, d, h) = (r', e, h')) :
    r = r' ∧ d = e ∧ h = h' := by
  simpa using same

/-- An operation of the hub leaves the display as it was. -/
theorem onHub_cases {α : Type} {act : Act α} {r : Except Stop α}
    (run : onHub act (d, h) = (r, e, h')) : act h = (r, h') ∧ e = d := by
  have opened : onHub act (d, h) = ((act h).1, d, (act h).2) := rfl
  rw [opened] at run
  obtain ⟨rfl, rfl, rfl⟩ := ended run
  exact ⟨rfl, rfl⟩

/-! ### Coming into service -/

/-- A display that was looked for is bound to what was found, if anything was.
    Nothing is dealt out. -/
theorem resolve_cases {connected : Bool} {r : Except Stop Entry}
    (run : resolve connected (d, h) = (r, e, h')) : h'.ground = h.ground ∧
      ((∃ stop, r = .error stop ∧ e = d) ∨ ∃ entry, r = .ok entry ∧ e = d.bind entry.id) := by
  have same := Act.keeps_queryStatus h
  unfold resolve at run
  rcases bind_cases run with ⟨t, ⟨d₁, h₁⟩, asked, rest⟩ | ⟨stop, asked, rfl⟩
  · obtain ⟨answered, rfl⟩ := onHub_cases asked
    rw [answered] at same
    rw [display_bind] at rest
    -- the report is there, and the choice among its entries asks nobody
    cases found : d₁.choose connected t with
    | ok entry =>
        rw [found] at rest
        obtain ⟨rfl, rfl, rfl⟩ := ended rest
        exact ⟨same, Or.inr ⟨entry, rfl, rfl⟩⟩
    | error f =>
        rw [found] at rest
        obtain ⟨rfl, rfl, rfl⟩ := ended rest
        exact ⟨same, Or.inl ⟨_, rfl, rfl⟩⟩
  · obtain ⟨answered, rfl⟩ := onHub_cases asked
    rw [answered] at same
    exact ⟨same, Or.inl ⟨stop, rfl, rfl⟩⟩

/-- A display gets the next token, or stays as it was. One that holds a token
    already is turned away, and it takes a fault to bring the program down
    here. -/
theorem register_cases {r : Except Stop Unit} (run : register (d, h) = (r, e, h')) :
    (∃ stop, r = .error stop ∧ e = d ∧ h'.ground = h.ground ∧
        (stop = .collapse → d.initialized = false ∧ h.faults .register = some .collapse)) ∨
      (r = .ok () ∧ d.initialized = false ∧
        h.compositor.refusal? d.variant d.id = none ∧
        e = { d with token := some h.compositor.nextToken } ∧
        h'.ground = h.dealing (h.compositor.grant d.variant d.id) h.allocator) := by
  unfold register at run
  by_cases idle : d.initialized = true
  · -- the second time is refused before the compositor hears of it
    change ite (d.initialized = true) (fail .parameters >>= _) _ (d, h) = _ at run
    rw [if_pos idle] at run
    obtain ⟨rfl, rfl, rfl⟩ := ended run
    exact Or.inl ⟨_, rfl, rfl, rfl, fun collapse => nomatch collapse⟩
  · change ite (d.initialized = true) (fail .parameters >>= _) _ (d, h) = _ at run
    rw [if_neg idle] at run
    rw [Bool.not_eq_true] at idle
    rcases bind_cases run with ⟨token, ⟨d₁, h₁⟩, asked, rest⟩ | ⟨stop, asked, rfl⟩
    · obtain ⟨answered, rfl⟩ := onHub_cases asked
      rcases Act.register_cases answered with ⟨stop, ⟨⟩, -, -⟩ | ⟨granted, free, dealt⟩
      -- nothing can fail once the token is there
      obtain rfl := Except.ok.inj granted
      obtain ⟨rfl, rfl, rfl⟩ := ended rest
      exact Or.inr ⟨rfl, idle, free, rfl, dealt⟩
    · obtain ⟨answered, rfl⟩ := onHub_cases asked
      rcases Act.register_cases answered with ⟨_, ⟨⟩, same, fault⟩ | ⟨⟨⟩, -, -⟩
      exact Or.inl ⟨stop, rfl, rfl, same, fun collapse => ⟨idle, fault collapse⟩⟩

/-- What can come of bringing a display into service. -/
inductive BringUpOutcome (d : Display) (h : Hub) : Except Stop Unit → Display → Hub → Prop where
  /-- A bare display has nothing to do. -/
  | bare (v : Variant) (kind : d.body = .bare v) : BringUpOutcome d h (.ok ()) d h
  /-- Nothing was found, or there was no room for a buffer. -/
  | missed (stop : Stop) (h' : Hub) (same : h'.ground = h.ground) :
      BringUpOutcome d h (.error stop) d h'
  /-- A display that was bound got no token. -/
  | unregistered (stop : Stop) (n : Int32) (h' : Hub) (kind : d.variant ≠ .offscreen)
      (same : h'.ground = h.ground) : BringUpOutcome d h (.error stop) (d.bind n) h'
  /-- A panel or an external display is in service. -/
  | served (entry : Entry) (h' : Hub) (kind : d.variant ≠ .offscreen)
      (idle : d.initialized = false)
      (free : h.compositor.refusal? d.variant (d.bind entry.id).id = none)
      (dealt : h'.ground =
        h.dealing (h.compositor.grant d.variant (d.bind entry.id).id) h.allocator) :
      BringUpOutcome d h (.ok ()) { d.bind entry.id with
        token := some h.compositor.nextToken, body := d.body.served entry } h'
  /-- An off-screen display got no token, and returned the buffer it had just
      got. -/
  | wasted (f : Failure) (b : Option Buffer) (h' : Hub) (kind : d.body = .offscreen b)
      (dealt : h'.ground = h.dealing h.compositor h.allocator.issue.free) :
      BringUpOutcome d h (.error (.failure f)) { d with body := .offscreen none } h'
  /-- The program was brought down while an off-screen display asked for its
      token. -/
  | abandoned (b : Option Buffer) (h' : Hub) (kind : d.body = .offscreen b)
      (idle : d.initialized = false) (fault : h.faults .register = some .collapse)
      (dealt : h'.ground = h.dealing h.compositor h.allocator.issue) :
      BringUpOutcome d h (.error .collapse) { d with
        body := .offscreen (some ⟨h.allocator.nextId, Display.writebackSize⟩) } h'
  /-- An off-screen display is in service. -/
  | composed (b : Option Buffer) (h' : Hub) (kind : d.body = .offscreen b)
      (idle : d.initialized = false) (free : h.compositor.refusal? .offscreen d.id = none)
      (dealt : h'.ground =
        h.dealing (h.compositor.grant .offscreen d.id) h.allocator.issue) :
      BringUpOutcome d h (.ok ()) { d with
        body := .offscreen (some ⟨h.allocator.nextId, Display.writebackSize⟩)
        token := some h.compositor.nextToken } h'

/-- At most a token is dealt out to a display that comes into service, and only
    to one that is not refused. -/
theorem BringUpOutcome.dealt {r : Except Stop Unit} (raised : BringUpOutcome d h r e h') :
    ∃ c a, h'.ground = h.dealing c a ∧ (c = h.compositor ∨
      ∃ v id, h.compositor.refusal? v id = none ∧ c = h.compositor.grant v id) := by
  cases raised with
  | bare => exact ⟨h.compositor, h.allocator, rfl, Or.inl rfl⟩
  | missed _ _ same => exact ⟨h.compositor, h.allocator, same, Or.inl rfl⟩
  | unregistered _ _ _ _ same => exact ⟨h.compositor, h.allocator, same, Or.inl rfl⟩
  | served _ _ _ _ free dealt => exact ⟨_, _, dealt, Or.inr ⟨_, _, free, rfl⟩⟩
  | wasted _ _ _ _ dealt => exact ⟨_, _, dealt, Or.inl rfl⟩
  | abandoned _ _ _ _ _ dealt => exact ⟨_, _, dealt, Or.inl rfl⟩
  | composed _ _ _ _ free dealt => exact ⟨_, _, dealt, Or.inr ⟨_, _, free, rfl⟩⟩

/-- What the kinds with an entry do to come into service, whatever each of them
    remembers of it. -/
theorem bringUpOutcome_resolve {rest : Entry → Serve Unit} {r : Except Stop Unit}
    (kind : d.variant ≠ .offscreen)
    (cachesLatest : ∀ (entry : Entry) (u : Display) (g : Hub), ∃ g', g'.ground = g.ground ∧
      rest entry (u, g) = (.ok (), { u with body := d.body.served entry }, g'))
    (run : (resolve true >>= fun entry => register >>= fun _ => rest entry) (d, h) = (r, e, h')) :
    BringUpOutcome d h r e h' := by
  rcases bind_cases run with ⟨entry, ⟨d₁, h₁⟩, asked, going⟩ | ⟨stop, asked, rfl⟩
  · obtain ⟨same, ⟨_, ⟨⟩, -⟩ | ⟨_, ⟨⟩, rfl⟩⟩ := resolve_cases asked
    -- the display is bound now, and the compositor has seen nothing of it yet
    have untouched : h₁.compositor = h.compositor := Hub.compositor_of_ground same
    rcases bind_cases going with ⟨_, ⟨d₂, h₂⟩, granted, last⟩ | ⟨stop, refused, rfl⟩
    · rcases register_cases granted with ⟨_, ⟨⟩, -⟩ | ⟨-, idle, free, rfl, dealt⟩
      obtain ⟨g, noted, done⟩ := cachesLatest entry _ h₂
      rw [done] at last
      obtain ⟨rfl, rfl, rfl⟩ := ended last
      rw [untouched] at free dealt ⊢
      refine BringUpOutcome.served entry g kind idle free ?_
      rw [noted, dealt, Hub.dealing_of_same same, Hub.allocator_of_ground same]
      rfl
    · rcases register_cases refused with ⟨_, -, rfl, noted, -⟩ | ⟨⟨⟩, -⟩
      exact BringUpOutcome.unregistered stop entry.id h' kind (noted.trans same)
  · obtain ⟨same, ⟨_, -, rfl⟩ | ⟨_, ⟨⟩, -⟩⟩ := resolve_cases asked
    exact BringUpOutcome.missed stop h' same

/-- An off-screen display that gets no token returns its buffer, unless the
    program is brought down. -/
theorem registerOffscreen_cases {b : Option Buffer} {r : Except Stop Unit}
    (kind : d.body = .offscreen b) (run : registerOffscreen (d, h) = (r, e, h')) :
    (∃ f, r = .error (.failure f) ∧ e = { d with body := .offscreen none } ∧
        h'.ground = h.dealing h.compositor (d.vacate h.allocator)) ∨
      (r = .error .collapse ∧ e = d ∧ h'.ground = h.ground ∧
        d.initialized = false ∧ h.faults .register = some .collapse) ∨
      (r = .ok () ∧ d.initialized = false ∧
        h.compositor.refusal? .offscreen d.id = none ∧
        e = { d with token := some h.compositor.nextToken } ∧
        h'.ground = h.dealing (h.compositor.grant .offscreen d.id) h.allocator) := by
  have offscreen : d.variant = .offscreen := congrArg Body.variant kind
  unfold registerOffscreen at run
  rcases ending : register (d, h) with ⟨answer, u, g⟩
  rw [ending] at run
  rcases register_cases ending with ⟨stop, rfl, rfl, noted, fault⟩ | ⟨rfl, idle, free, rfl, dealt⟩
  · -- a failure is answered by returning the buffer, a collapse by nobody
    cases stop with
    | failure f =>
        obtain ⟨rfl, rfl, rfl⟩ := ended run
        refine Or.inl ⟨f, rfl, Display.returnWriteback_fst kind g,
          (u.ground_returnWriteback g).trans ?_⟩
        rw [Hub.dealing_of_same noted, Hub.compositor_of_ground noted,
          Hub.allocator_of_ground noted]
    | collapse =>
        obtain ⟨rfl, rfl, rfl⟩ := ended run
        obtain ⟨idle, fault⟩ := fault rfl
        exact Or.inr (Or.inl ⟨rfl, rfl, noted, idle, fault⟩)
  · obtain ⟨rfl, rfl, rfl⟩ := ended run
    rw [offscreen] at free dealt
    exact Or.inr (Or.inr ⟨rfl, idle, free, rfl, dealt⟩)

/-- What an off-screen display does to come into service once its entry, if it
    has one, was found. -/
theorem bringUpOutcome_allocate {b : Option Buffer} {g : Hub} {r : Except Stop Unit}
    (kind : d.body = .offscreen b) (same : g.ground = h.ground)
    (run : (onHub (Act.allocate Display.writebackSize) >>= fun buffer =>
      change (fun d => { d with body := .offscreen (some buffer) }) >>= fun _ =>
      registerOffscreen) (d, g) = (r, e, h')) : BringUpOutcome d h r e h' := by
  rcases bind_cases run with ⟨buffer, ⟨d₁, h₁⟩, asked, going⟩ | ⟨stop, asked, rfl⟩
  · obtain ⟨answered, rfl⟩ := onHub_cases asked
    rcases Act.allocate_cases answered with ⟨_, ⟨⟩, -⟩ | ⟨⟨⟩, issued⟩
    rw [Hub.dealing_of_same same, Hub.compositor_of_ground same, Hub.allocator_of_ground same]
      at issued
    rw [Hub.allocator_of_ground same] at going
    have faults := Hub.faults_of_ground issued
    have compositor := Hub.compositor_of_ground issued
    -- the display has its buffer now, and forgot the one it may have had
    rcases registerOffscreen_cases rfl going with
      ⟨f, rfl, rfl, dealt⟩ | ⟨rfl, rfl, noted, idle, fault⟩ | ⟨rfl, idle, free, rfl, dealt⟩
    · refine BringUpOutcome.wasted f b h' kind ?_
      rw [dealt, Hub.dealing_of_ground issued, compositor, Hub.allocator_of_ground issued]
      rfl
    · rw [faults] at fault
      exact BringUpOutcome.abandoned b h' kind idle fault (noted.trans issued)
    · rw [compositor] at free dealt ⊢
      refine BringUpOutcome.composed b h' kind idle free ?_
      rw [dealt, Hub.dealing_of_ground issued, Hub.allocator_of_ground issued]
  · obtain ⟨answered, rfl⟩ := onHub_cases asked
    rcases Act.allocate_cases answered with ⟨f, -, noted⟩ | ⟨⟨⟩, -⟩
    exact BringUpOutcome.missed stop h' (noted.trans same)

/-- A display comes into service in one of these ways, or does not. -/
theorem bringUpOutcome_bringUp {r : Except Stop Unit} (run : bringUp (d, h) = (r, e, h')) :
    BringUpOutcome d h r e h' := by
  unfold bringUp at run
  rw [display_bind] at run
  dsimp only at run
  cases kind : d.body with
  | bare v =>
      rw [kind] at run
      obtain ⟨rfl, rfl, rfl⟩ := ended run
      exact BringUpOutcome.bare v kind
  | builtIn primary =>
      rw [kind] at run
      have panel : d.variant ≠ .offscreen := by simp [Display.variant, kind, Body.variant]
      refine bringUpOutcome_resolve panel (fun entry u g => ?_) run
      rw [kind]
      -- that a panel is the primary one is noted last
      change ∃ g', _ ∧ ite (entry.primary = true) (note _ _) (pure ())
        ({ u with body := .builtIn entry.primary }, g) = _
      by_cases primary : entry.primary = true
      · rw [if_pos primary]
        exact ⟨_, Hub.ground_note _ _ g, rfl⟩
      · rw [if_neg primary]
        exact ⟨g, rfl, rfl⟩
  | pluggable connector =>
      rw [kind] at run
      have panel : d.variant ≠ .offscreen := by simp [Display.variant, kind, Body.variant]
      refine bringUpOutcome_resolve panel (fun entry u g => ⟨g, rfl, ?_⟩) run
      rw [kind]
      rfl
  | offscreen b =>
      rw [kind] at run
      unfold bringUpOffscreen at run
      change ite (d.id.isSome = true) (resolve false >>= _) _ (d, h) = _ at run
      by_cases bound : d.id.isSome = true
      · -- its entry is looked up, but its number is known already
        rw [if_pos bound] at run
        rcases bind_cases run with ⟨entry, ⟨d₁, h₁⟩, asked, going⟩ | ⟨stop, asked, rfl⟩
        · obtain ⟨same, ⟨_, ⟨⟩, -⟩ | ⟨_, ⟨⟩, rfl⟩⟩ := resolve_cases asked
          rw [Display.bind_of_bound bound] at going
          exact bringUpOutcome_allocate kind same going
        · obtain ⟨same, ⟨_, -, rfl⟩ | ⟨_, ⟨⟩, -⟩⟩ := resolve_cases asked
          exact BringUpOutcome.missed stop h' same
      · rw [if_neg bound] at run
        exact bringUpOutcome_allocate kind rfl run

/-! ### Leaving service and being driven -/

/-- A display in service retires. -/
theorem retire_apply (inService : d.initialized = true) (h : Hub) :
    ∃ g, retire (d, h) = (.ok (), { d with token := none, power := .off }, g) ∧
      g.ground = h.dealing (d.release h.compositor) h.allocator := by
  let off : Display := { d with power := .off }
  refine ⟨(off.returnToken h).2.note .info ("Display " ++ d.name ++ ": deinitialized"), ?_, ?_⟩
  · unfold retire
    change (ite ((!d.initialized) = true) (fail .notInitialized >>= _) _ : Serve Unit) (d, h) = _
    rw [inService]
    change (Except.ok (), (off.returnToken h).1, _) = _
    rw [Display.returnToken_fst]
    rfl
  · exact off.ground_returnToken h

/-- A display that is not in service does not retire. -/
theorem retire_idle (idle : d.initialized = false) (h : Hub) :
    retire (d, h) = (.error (.failure .notInitialized), d, h) := by
  unfold retire
  change (ite ((!d.initialized) = true) (fail .notInitialized >>= _) _ : Serve Unit) (d, h) = _
  rw [idle]
  rfl

/-- A display leaves service with its token and its buffer returned, or stays
    as it was. -/
theorem takeDown_cases {r : Except Stop Unit} (run : takeDown (d, h) = (r, e, h')) :
    (∃ f, r = .error (.failure f) ∧ e = d ∧ h'.ground = h.ground) ∨
      (r = .ok () ∧ d.initialized = true ∧ e = d.shelved ∧
        h'.ground = h.dealing (d.release h.compositor) (d.vacate h.allocator)) := by
  unfold takeDown at run
  rw [display_bind] at run
  dsimp only at run
  cases free : d.stuck with
  | some f =>
      rw [free] at run
      obtain ⟨rfl, rfl, rfl⟩ := ended run
      exact Or.inl ⟨f, rfl, rfl, rfl⟩
  | none =>
      rw [free] at run
      dsimp only at run
      by_cases inService : d.initialized = true
      · obtain ⟨g, retired, dealt⟩ := retire_apply inService h
        rw [bind_apply, retired] at run
        dsimp only at run
        refine Or.inr ?_
        -- only an off-screen display has anything left to return
        rcases d with ⟨body, id, handler, provider, token, power, concrete, stuck⟩
        cases body with
        | bare v =>
            obtain ⟨rfl, rfl, rfl⟩ := ended run
            exact ⟨rfl, inService, rfl, dealt⟩
        | builtIn primary =>
            obtain ⟨rfl, rfl, rfl⟩ := ended run
            exact ⟨rfl, inService, rfl, dealt⟩
        | pluggable connector =>
            obtain ⟨rfl, rfl, rfl⟩ := ended run
            exact ⟨rfl, inService, rfl, dealt⟩
        | offscreen b =>
            obtain ⟨rfl, rfl, rfl⟩ := ended run
            refine ⟨rfl, inService, Display.returnWriteback_fst rfl g,
              (Display.ground_returnWriteback _ g).trans ?_⟩
            rw [Hub.dealing_of_ground dealt, Hub.compositor_of_ground dealt,
              Hub.allocator_of_ground dealt]
            rfl
      · rw [Bool.not_eq_true] at inService
        rw [bind_apply, retire_idle inService] at run
        obtain ⟨rfl, rfl, rfl⟩ := ended run
        exact Or.inl ⟨_, rfl, rfl, rfl⟩

/-- All but the power of a display, and the ground. -/
def unpowered (s : Display × Hub) : Display × Hub :=
  ({ s.1 with power := .off }, s.2.ground)

/-- Changing the power of a display changes nothing else of it, and deals
    nothing out. -/
theorem keeps_setPower (power : Power) : Keeps unpowered (setPower power) := by
  -- the handler is told once or twice, and in none of its ways does it deal
  -- anything out
  have told (handler : Handler) (notice : Notice) :
      Keeps unpowered (modify fun s => (s.1, s.2.tell handler notice) : Serve PUnit) :=
    keeps_modify fun s => congrArg (Prod.mk _) (Hub.ground_tell handler notice s.2)
  have noted (text : String) : Keeps unpowered (note .debug text) := fun _ => by rfl
  have powerIs : Keeps unpowered (change fun d => { d with power }) := fun _ => by rfl
  refine keeps_get.bind fun s => ?_
  dsimp only
  by_cases inService : s.1.initialized = true
  · rw [inService]
    by_cases same : s.1.power = power
    · rw [if_pos same]
      exact keeps_pure _
    · rw [if_neg same]
      refine (noted _).bind fun _ => powerIs.bind fun _ =>
        (told _ _).bind fun _ => ?_
      by_cases on : power = .on
      · rw [if_pos on]
        exact told _ _
      · rw [if_neg on]
        exact keeps_pure _
  · rw [Bool.not_eq_true] at inService
    rw [inService]
    exact fun _ => rfl

end Serve

end DisplayHub
