import DisplayHub.Proofs.Leftover
import DisplayHub.Proofs.Notification

/-!
# What a Display Remains

The kind, the number and the name of a display, through everything that can be
done with it and with the world around it.

A display keeps its name beside its number. The name is written when the display
is made, and once more when it is bound, which is in one operation out of many.
So that the name is the one that goes with the kind and the number is not a fact
about one display. It holds of those that are made, and everything that is done
with a display keeps it (`Session.nameAgrees_step`).

A display is bound to a number on the way into service, before it asks for its
token, and what it asks for later may fail. So a display can be bound without
ever having been in service, and being bound cannot be told from the tokens. The
compositor, on the other hand, writes down the number that a display has when it
gets its token, and never looks again. That the two agree later on is not a
matter of one call. A panel is bound whenever it has a token, so that binding it
again is nothing, and an off-screen display without a number never looks for
one.

This is so whatever else happens, and not only as long as displays are brought
into service and taken out in the usual way: going down, work of others on the
compositor, faults and other hardware do nothing to a display, and all that they
do to the compositor is to take tokens back and to grant later ones
(`Compositor.OnlyAddsNew`). What can be done with a display is one of five things
(`Display.ChangesTo`), and every step does one of them to each display or nothing
(`Session.displaysEvolve_step`).

A bare display is the part that all kinds share. It can be bound and registered
piece by piece, also in the wrong order, and then the compositor has it without
a number. Of a display that is of a kind, the pieces are not within reach
(`Session.allows`).

## Main definitions

* `Compositor.OnlyAddsNew`: A compositor later on.
* `Display.SameIdentity`: The kind, the number and the name of a display later on.
* `Display.ChangesTo`: What can be done with a display.
* `Session.DisplaysEvolve`: Where the displays of a session come from.
* `Display.RegisteredAsShown`, `Hub.RegisteredAsShown`: What the compositor has under a token.
* `Session.allows`, `Session.allowsAll`: The pieces are for bare displays.
* `Session.IdentityKept`: What is known of displays after a run.

## Theorems

* `Session.onlyAddsNew_step`: No step grants a token twice.
* `Serve.BringUpOutcome.changes`, `Serve.registers_bringUp`: Coming into service.
* `Session.displaysEvolve_step`: What a step does with displays.
* `Display.ChangesTo.listed`, `Session.registeredAsShown_step`,
  `Session.registeredAsShown_after`: What the compositor has of a display is what
  the display shows.
* `Session.nameAgrees_step`, `Session.nameAgrees_after`: The name of a display
  goes with its kind and number.
* `Session.sameIdentity_after`: A display remains what it is.
* `Session.identityKept_after`: All of it, over any run.
-/

namespace DisplayHub

/-! ### A compositor later on -/

namespace Compositor

variable {c c' c'' : Compositor}

/-- A compositor later on. Tokens were taken back, and those that were granted
    are new ones. -/
structure OnlyAddsNew (c c' : Compositor) : Prop where
  later : c.nextToken ≤ c'.nextToken
  active : ∀ a ∈ c'.active, a ∈ c.active ∨ c.nextToken ≤ a.token ∧ a.token < c'.nextToken

theorem OnlyAddsNew.rfl : c.OnlyAddsNew c where
  later := Nat.le_refl _
  active _ among := Or.inl among

theorem OnlyAddsNew.trans (first : c.OnlyAddsNew c') (rest : c'.OnlyAddsNew c'') :
    c.OnlyAddsNew c'' where
  later := Nat.le_trans first.later rest.later
  active a among := by
    rcases rest.active a among with old | ⟨above, below⟩
    · rcases first.active a old with older | ⟨above, below⟩
      · exact Or.inl older
      · exact Or.inr ⟨above, Nat.lt_of_lt_of_le below rest.later⟩
    · exact Or.inr ⟨Nat.le_trans first.later above, below⟩

/-- Nothing is granted. -/
theorem onlyAddsNew_of_sublist (next : c'.nextToken = c.nextToken)
    (fewer : ∀ a ∈ c'.active, a ∈ c.active) : c.OnlyAddsNew c' :=
  ⟨Nat.le_of_eq next.symm, fun a among => Or.inl (fewer a among)⟩

theorem onlyAddsNew_grant (c : Compositor) (v : Variant) (id : Option Int32) :
    c.OnlyAddsNew (c.grant v id) where
  later := Nat.le_succ _
  active a among := by
    rcases List.mem_append.mp among with old | new
    · exact Or.inl old
    · obtain rfl := List.mem_singleton.mp new
      exact Or.inr ⟨Nat.le_refl _, Nat.lt_succ_self _⟩

theorem onlyAddsNew_unregister (c : Compositor) (token : Nat) :
    c.OnlyAddsNew (c.unregister token) :=
  onlyAddsNew_of_sublist rfl fun _ among => (List.mem_filter.mp among).1

theorem onlyAddsNew_stop (c : Compositor) : c.OnlyAddsNew c.stop :=
  onlyAddsNew_of_sublist rfl fun _ among => nomatch among

theorem onlyAddsNew_start {r : Resource} {e : Option Extension} (started : c.start r e = .ok c') :
    c.OnlyAddsNew c' := by
  obtain ⟨-, -, rfl⟩ := start_eq_ok started
  exact onlyAddsNew_of_sublist rfl fun _ among => among

theorem onlyAddsNew_setMode {mode : BandwidthMode} (chosen : c.setMode mode = .ok c') :
    c.OnlyAddsNew c' := by
  obtain ⟨_, -, -, rfl⟩ := setMode_eq_ok chosen
  exact onlyAddsNew_of_sublist rfl fun _ among => among

/-- A refusal leaves the compositor as it was. -/
theorem onlyAddsNew_settle {answer : Except Refusal Compositor}
    (granted : ∀ {c'}, answer = .ok c' → c.OnlyAddsNew c') : c.OnlyAddsNew (c.settle answer) := by
  cases answer with
  | ok c' => exact granted rfl
  | error _ => exact .rfl

end Compositor

theorem Display.onlyAddsNew_release (d : Display) (c : Compositor) :
    c.OnlyAddsNew (d.release c) := by
  unfold release
  cases d.token with
  | none => exact .rfl
  | some token => exact c.onlyAddsNew_unregister token

/-- So is every entry in the ledger. -/
theorem Ledger.Move.adds {a b : Ledger} (move : a.Move b) :
    a.stock.compositor.OnlyAddsNew b.stock.compositor := by
  cases move with
  | reorder same => exact .rfl
  | make idle empty => exact .rfl
  | touch alike => exact .rfl
  | @bringUp l f n d e h h' r raised =>
      obtain ⟨c, _, dealt, same | ⟨v, id, -, granted⟩⟩ := raised.dealt
      · change h.compositor.OnlyAddsNew h'.compositor
        rw [Hub.compositor_of_ground dealt, same]
        exact .rfl
      · change h.compositor.OnlyAddsNew h'.compositor
        rw [Hub.compositor_of_ground dealt, granted]
        exact Compositor.onlyAddsNew_grant _ v id
  | takeDown => exact Display.onlyAddsNew_release _ _
  | drop => exact Display.onlyAddsNew_release _ _
  | start started => exact Compositor.onlyAddsNew_start started
  | rise started => exact Compositor.onlyAddsNew_start started
  | setMode chosen => exact Compositor.onlyAddsNew_setMode chosen
  | stop => exact Compositor.onlyAddsNew_stop _

namespace Session

variable {s : Session}

/-- Direct work is done on the hub's compositor or apart from it. -/
theorem onlyAddsNew_directly {α : Type} (act : Act α) (s : Session)
    (worked : ∀ h : Hub, h.compositor.OnlyAddsNew (act h).2.compositor) :
    s.hub.compositor.OnlyAddsNew (s.directly act).2.hub.compositor := by
  unfold directly
  split
  · exact .rfl
  · exact worked s.hub

theorem onlyAddsNew_takeUpWith (resource : Resource) (extension : Bool) (h : Hub) :
    h.compositor.OnlyAddsNew (takeUpWith resource extension h).2.compositor := by
  have taken (e : Option Extension) (u : Hub) :
      u.compositor.OnlyAddsNew (Act.takeUp resource e u).2.compositor := by
    rw [Act.compositor_takeUp]
    exact Compositor.onlyAddsNew_settle Compositor.onlyAddsNew_start
  cases extension with
  | false => exact taken none h
  | true =>
      -- a stand-in is handed out first, and let go if it is not taken up
      let e : Extension := ⟨h.extensions, none⟩
      let u : Hub := { h with extensions := h.extensions + 1 }
      change u.compositor.OnlyAddsNew
        (Act.onStop (Hub.letGo e) (Act.takeUp resource (some e)) u).2.compositor
      have tried := taken (some e) u
      unfold Act.onStop
      rcases ending : Act.takeUp resource (some e) u with ⟨stop | _, w⟩
      all_goals rw [ending] at tried
      · have same : (w.letGo e).compositor = w.compositor :=
          Hub.compositor_of_ground (Hub.ground_letGo e w)
        change u.compositor.OnlyAddsNew (w.letGo e).compositor
        rw [same]
        exact tried
      · exact tried

theorem onlyAddsNew_serve {α : Type} {act : Serve α} {slot : Nat}
    (served : ∀ {d r e h'}, act (d, s.hub) = (r, e, h') →
    s.hub.compositor.OnlyAddsNew h'.compositor) (reply : α → Reply) (shows : Bool) :
    s.hub.compositor.OnlyAddsNew (s.serve slot act reply shows).2.hub.compositor := by
  cases held : s.hub.display? slot with
  | none =>
      rw [serve_vacant held]
      exact .rfl
  | some d =>
      rcases ending : act (d, s.hub) with ⟨r, e, h'⟩
      rw [hub_serve held ending]
      change s.hub.compositor.OnlyAddsNew h'.compositor
      exact served ending

/-- Whatever is done, no token is granted twice. -/
theorem onlyAddsNew_step (s : Session) (step : Step) :
    s.hub.compositor.OnlyAddsNew (s.step step).2.hub.compositor := by
  -- an ordinary step is in the ledger, and the others work on the compositor directly
  by_cases ordinary : step.ordinary = true
  · exact upholds_step (P := fun l => s.hub.compositor.OnlyAddsNew l.stock.compositor)
      (fun _ => True)
      (fun move before => before.trans move.adds) (fun _ before => before) (f := 0) (n := 0)
      Compositor.OnlyAddsNew.rfl ordinary trivial
  have past : step.ordinary = false := Bool.eq_false_iff.mpr ordinary
  cases step with
  | makeBare v id => exact .rfl
  | resolve slot connected =>
      refine onlyAddsNew_serve (fun run => ?_) _ _
      rw [Hub.compositor_of_ground (Serve.resolve_cases run).1]
      exact .rfl
  | register slot =>
      refine onlyAddsNew_serve (fun {d r e h'} run => ?_) _ _
      rcases Serve.register_cases run with ⟨_, -, -, same, -⟩ | ⟨-, -, -, -, dealt⟩
      · rw [Hub.compositor_of_ground same]
        exact .rfl
      · rw [Hub.compositor_of_ground dealt]
        exact Compositor.onlyAddsNew_grant _ _ _
  | unregister slot =>
      refine onlyAddsNew_serve (fun {d r e h'} run => ?_) _ _
      obtain ⟨-, -, returned⟩ : _ ∧ _ ∧ (d.returnToken s.hub).2 = h' := Serve.ended run
      rw [← returned, Hub.compositor_of_ground (d.ground_returnToken s.hub)]
      exact d.onlyAddsNew_release _
  | takeUp resource extension =>
      exact onlyAddsNew_directly _ s (onlyAddsNew_takeUpWith resource extension)
  | leave =>
      have left (h : Hub) : h.compositor.OnlyAddsNew h.leave.compositor := by
        rw [h.compositor_leave]
        exact Compositor.onlyAddsNew_stop _
      exact onlyAddsNew_directly (modify Hub.leave) s left
  | chooseMode mode =>
      have chosen (h : Hub) : h.compositor.OnlyAddsNew (Act.chooseMode mode h).2.compositor := by
        rw [Act.compositor_chooseMode]
        exact Compositor.onlyAddsNew_settle Compositor.onlyAddsNew_setMode
      exact onlyAddsNew_directly (Act.chooseMode mode) s chosen
  | canRotate format =>
      exact onlyAddsNew_directly (do return (← get).compositor.rotates format) s fun _ => .rfl
  | grant v id =>
      have granted (h : Hub) : h.compositor.OnlyAddsNew (Act.grant v id h).2.compositor := by
        rcases ending : Act.grant v id h with ⟨r, u⟩
        rcases Act.grant_cases ending with ⟨_, -, same⟩ | ⟨-, -, dealt⟩
        · rw [Hub.compositor_of_ground same]
          exact .rfl
        · rw [Hub.compositor_of_ground dealt]
          exact Compositor.onlyAddsNew_grant _ _ _
      rw [s.hub_grant]
      exact onlyAddsNew_directly (Act.grant v id) s granted
  | revoke place =>
      have revoked (token : Nat) (h : Hub) : h.compositor.OnlyAddsNew
        (h.revoke token).compositor := by
        rw [h.compositor_revoke]
        exact Compositor.onlyAddsNew_unregister _ token
      rcases s.hub_revoke place with same | ⟨token, directly⟩
      · rw [same]
        exact .rfl
      · rw [directly]
        exact onlyAddsNew_directly (modify (Hub.revoke token)) s (revoked token)
  | brighten resource =>
      have lit (h : Hub) : (Act.brighten resource h).2.compositor = h.compositor :=
        congrArg (fun held => held.1.compositor) (Act.holds_brighten resource h)
      refine onlyAddsNew_directly (Act.brighten resource) s fun h => ?_
      rw [lit]
      exact .rfl
  | darken =>
      have dimmed (h : Hub) : h.darken.compositor = h.compositor := by
        unfold Hub.darken
        split <;> rfl
      refine onlyAddsNew_directly (modify Hub.darken) s fun h => ?_
      change h.compositor.OnlyAddsNew h.darken.compositor
      rw [dimmed]
      exact .rfl
  | _ => nomatch past

end Session

/-! ### What can be done with a display -/

namespace Display

variable {c c' : Compositor} {d e f : Display}

/-- The display `e` is what became of `d`. A number stays, and a display that is
    off-screen does not come by one. A name that agreed agrees still. -/
structure SameIdentity (d e : Display) : Prop where
  variant : e.variant = d.variant
  plain : e.body.plain = d.body.plain
  id : ∀ k, d.id = some k → e.id = some k
  unbound : d.body.plain = false → d.variant = .offscreen → d.id = none → e.id = none
  named : d.NameAgrees → e.NameAgrees

theorem SameIdentity.rfl : d.SameIdentity d :=
  ⟨Eq.refl _, Eq.refl _, fun _ known => known, fun _ _ unknown => unknown, fun agrees => agrees⟩

theorem SameIdentity.trans (first : d.SameIdentity e) (rest : e.SameIdentity f) :
    d.SameIdentity f where
  variant := rest.variant.trans first.variant
  plain := rest.plain.trans first.plain
  id k known := rest.id k (first.id k known)
  unbound kind offscreen unknown := rest.unbound (first.plain.trans kind)
    (first.variant.trans offscreen) (first.unbound kind offscreen unknown)
  named agrees := rest.named (first.named agrees)

theorem nameAgrees_of_same (variant : e.variant = d.variant) (id : e.id = d.id)
    (name : e.name = d.name) (agrees : d.NameAgrees) : e.NameAgrees := by
  unfold NameAgrees
  rw [variant, id, name]
  exact agrees

/-- What has the same kind, number and name is the same display. -/
theorem sameIdentity_of_same (variant : e.variant = d.variant) (plain : e.body.plain = d.body.plain)
    (id : e.id = d.id) (name : e.name = d.name) : d.SameIdentity e where
  variant := variant
  plain := plain
  id _ known := id.trans known
  unbound _ _ unknown := id.trans unknown
  named := nameAgrees_of_same variant id name

/-- What can be done with a display, while the compositor goes from `c` to
    `c'`. -/
inductive ChangesTo (c : Compositor) (d : Display) : Display → Compositor → Prop where
  /-- Nothing is done with it, whatever is done elsewhere. -/
  | left (c' : Compositor) : ChangesTo c d d c'
  /-- It changes in something else. -/
  | touched (e : Display) (sameIdentity : d.SameIdentity e) (id : e.id = d.id)
      (token : e.token = d.token) : ChangesTo c d e c
  /-- It is looked for and found. One of the off-screen kind is not looked for,
      unless its number is known. -/
  | found (n : Int32) (looks : d.body.plain = true ∨ d.variant ≠ .offscreen) :
      ChangesTo c d (d.bind n) c
  /-- It gets the next token, as what it is then. -/
  | enrolled (e : Display) (sameIdentity : d.SameIdentity e) (idle : d.token = none)
      (token : e.token = some c.nextToken)
      (bound : d.body.plain = false → d.variant ≠ .offscreen → e.id.isSome = true) :
      ChangesTo c d e (c.grant e.variant e.id)
  /-- It has no token any more. -/
  | retired (e : Display) (sameIdentity : d.SameIdentity e) (token : e.token = none)
      (c' : Compositor) : ChangesTo c d e c'

theorem sameIdentity_bind (n : Int32) (looks : d.body.plain = true ∨ d.variant ≠ .offscreen) :
    d.SameIdentity (d.bind n) where
  variant := rfl
  plain := rfl
  id k known := by
    rw [bind_of_bound (Option.isSome_iff_exists.mpr ⟨k, known⟩), known]
  unbound kind offscreen _ := by
    rcases looks with plain | panel
    · rw [kind] at plain
      nomatch plain
    · exact absurd offscreen panel
  named agrees := agrees.bind n

/-- Whatever is done with a display, it remains what it is. -/
theorem ChangesTo.sameIdentity (changes : d.ChangesTo c e c') : d.SameIdentity e := by
  cases changes with
  | left => exact .rfl
  | touched _ sameIdentity _ _ => exact sameIdentity
  | found n looks => exact sameIdentity_bind n looks
  | enrolled _ sameIdentity _ _ _ => exact sameIdentity
  | retired _ sameIdentity _ _ => exact sameIdentity

/-- A token that a display did not have before is the next one, and the
    compositor has the display as what it is then. -/
theorem ChangesTo.registers (changes : d.ChangesTo c e c') {t : Nat} (holds : e.token = some t)
    (new : d.token ≠ some t) : t = c.nextToken ∧ c' = c.grant e.variant e.id := by
  cases changes with
  | left => exact absurd holds new
  | touched _ _ _ token => exact absurd (token.symm.trans holds) new
  | found n looks => exact absurd holds new
  | enrolled _ _ _ token _ => exact ⟨Option.some.inj (holds.symm.trans token), rfl⟩
  | retired _ _ token _ =>
      rw [token] at holds
      nomatch holds

end Display

namespace Serve

variable {d e : Display} {h h' : Hub}

/-- So it is with a display that is brought into service, whatever comes of
    it. -/
theorem BringUpOutcome.changes {r : Except Stop Unit} (raised : BringUpOutcome d h r e h') :
    d.ChangesTo h.compositor e h'.compositor := by
  have offscreen {b : Option Buffer} (kind : d.body = .offscreen b) (b' : Option Buffer) :
      (Body.offscreen b').variant = d.variant ∧ (Body.offscreen b').plain = d.body.plain := by
    unfold Display.variant
    rw [kind]
    exact ⟨rfl, rfl⟩
  cases raised with
  | bare => exact .left _
  | missed => exact .left _
  | unregistered _ n _ panel same =>
      rw [Hub.compositor_of_ground same]
      exact .found n (Or.inr panel)
  | served entry _ panel idle _ dealt =>
      have variant : (d.body.served entry).variant = d.variant := Body.variant_served entry d.body
      have sameIdentity := Display.sameIdentity_bind entry.id (Or.inr panel)
      rw [Hub.compositor_of_ground dealt, ← variant]
      -- what it remembers of its entry is neither its number nor its name
      refine .enrolled _ (sameIdentity.trans (Display.sameIdentity_of_same variant ?_ rfl rfl))
        (Display.token_of_idle idle) rfl fun _ _ => rfl
      exact Body.plain_served entry d.body
  | wasted _ b _ kind dealt =>
      obtain ⟨variant, plain⟩ := offscreen kind none
      rw [Hub.compositor_of_ground dealt]
      exact .touched _ (Display.sameIdentity_of_same variant plain rfl rfl) rfl rfl
  | abandoned b _ kind _ _ dealt =>
      obtain ⟨variant, plain⟩ := offscreen kind (some ⟨h.allocator.nextId, Display.writebackSize⟩)
      rw [Hub.compositor_of_ground dealt]
      exact .touched _ (Display.sameIdentity_of_same variant plain rfl rfl) rfl rfl
  | composed b _ kind idle _ dealt =>
      obtain ⟨variant, plain⟩ := offscreen kind (some ⟨h.allocator.nextId, Display.writebackSize⟩)
      rw [Hub.compositor_of_ground dealt]
      exact .enrolled _ (Display.sameIdentity_of_same variant plain rfl rfl)
        (Display.token_of_idle idle) rfl fun _ panel => absurd variant.symm panel

/-- And with one that is taken out of service. -/
theorem changesTo_takeDown {r : Except Stop Unit} (run : takeDown (d, h) = (r, e, h')) :
    d.ChangesTo h.compositor e h'.compositor := by
  rcases takeDown_cases run with ⟨_, -, rfl, -⟩ | ⟨-, -, rfl, -⟩
  · exact .left _
  · have variant : d.shelved.variant = d.variant := by
      unfold Display.variant Display.shelved
      cases d.body <;> rfl
    exact .retired _ (Display.sameIdentity_of_same variant (Body.plain_shelved d.body) rfl rfl) rfl
      _

/-- And with one that is switched. -/
theorem changesTo_setPower {power : Power} {r : Except Stop Unit}
    (run : setPower power (d, h) = (r, e, h')) : d.ChangesTo h.compositor e h'.compositor := by
  have same := keeps_setPower power (d, h)
  rw [run] at same
  have stays := congrArg Prod.fst same
  have variant := congrArg Display.variant stays
  have plain := congrArg (fun d => d.body.plain) stays
  have id := congrArg Display.id stays
  have name := congrArg Display.name stays
  have token := congrArg Display.token stays
  rw [Hub.compositor_of_ground (congrArg Prod.snd same : h'.ground = h.ground)]
  exact .touched e (Display.sameIdentity_of_same variant plain id name) id token

/-- The pieces of coming into service, done with a bare display. -/
theorem changesTo_resolve {connected : Bool} {r : Except Stop Entry} (plain : d.body.plain = true)
    (run : resolve connected (d, h) = (r, e, h')) : d.ChangesTo h.compositor e h'.compositor := by
  obtain ⟨same, ⟨_, -, rfl⟩ | ⟨entry, -, rfl⟩⟩ := resolve_cases run
  · exact .left _
  · rw [Hub.compositor_of_ground same]
    exact .found entry.id (Or.inl plain)

theorem changesTo_register {r : Except Stop Unit} (plain : d.body.plain = true)
    (run : register (d, h) = (r, e, h')) : d.ChangesTo h.compositor e h'.compositor := by
  rcases register_cases run with ⟨_, -, rfl, -, -⟩ | ⟨-, idle, -, rfl, dealt⟩
  · exact .left _
  · rw [Hub.compositor_of_ground dealt]
    refine .enrolled { d with token := some h.compositor.nextToken }
      (Display.sameIdentity_of_same rfl rfl rfl rfl)
      (Display.token_of_idle idle) rfl fun kind _ => ?_
    rw [plain] at kind
    nomatch kind

theorem changesTo_unregister {r : Except Stop Unit} (run : unregister (d, h) = (r, e, h')) :
    d.ChangesTo h.compositor e h'.compositor := by
  obtain ⟨-, returned, -⟩ : _ ∧ (d.returnToken h).1 = e ∧ _ := ended run
  rw [Display.returnToken_fst] at returned
  have sameIdentity : d.SameIdentity { d with token := none } :=
    Display.sameIdentity_of_same rfl rfl rfl rfl
  rw [← returned]
  exact .retired _ sameIdentity rfl _

/-- Whatever comes of bringing a display into service, the compositor is asked
    for nothing or has the display as what it is then. -/
theorem registers_bringUp {r : Except Stop Unit} (run : bringUp (d, h) = (r, e, h')) :
    d.SameIdentity e ∧ (h'.compositor = h.compositor ∨ d.token = none ∧
      e.token = some h.compositor.nextToken ∧
      h'.compositor = h.compositor.grant e.variant e.id) := by
  have raised := bringUpOutcome_bringUp run
  have changes := raised.changes
  -- a token that was granted is new to a display that had none
  have granted (idle : d.initialized = false) (holds : e.token = some h.compositor.nextToken) :
      d.token = none ∧ e.token = some h.compositor.nextToken ∧
        h'.compositor = h.compositor.grant e.variant e.id := by
    have none_held := Display.token_of_idle idle
    exact ⟨none_held, holds, (changes.registers holds (by rw [none_held]; nofun)).2⟩
  refine ⟨changes.sameIdentity, ?_⟩
  cases raised with
  | bare => exact Or.inl rfl
  | missed _ _ same => exact Or.inl (Hub.compositor_of_ground same)
  | unregistered _ _ _ _ same => exact Or.inl (Hub.compositor_of_ground same)
  | served _ _ _ idle _ _ => exact Or.inr (granted idle rfl)
  | wasted _ _ _ _ dealt => exact Or.inl (Hub.compositor_of_ground dealt)
  | abandoned _ _ _ _ _ dealt => exact Or.inl (Hub.compositor_of_ground dealt)
  | composed _ _ _ idle _ _ => exact Or.inr (granted idle rfl)

end Serve

/-! ### What a step does with displays -/

namespace Session

variable {s t : Session}

/-- The displays of a later session are those of an earlier one, with whatever
    was done with them, and new ones in new slots. -/
structure DisplaysEvolve (s t : Session) : Prop where
  longer : s.hub.slots.length ≤ t.hub.slots.length
  stems : ∀ slot e, t.hub.display? slot = some e → ∃ d : Display,
    d.ChangesTo s.hub.compositor e t.hub.compositor ∧
      (s.hub.display? slot = some d ∨
        s.hub.slots.length ≤ slot ∧ d.token = none ∧ d.NameAgrees)

/-- The pieces of coming into service and of leaving it are within reach for
    bare displays only. -/
def allows (s : Session) : Step → Bool
  | .resolve slot _ | .register slot | .unregister slot =>
    (s.hub.display? slot).all fun d => d.body.plain
  | _ => true

/-- The same of every step of a run. -/
def allowsAll (s : Session) : List Step → Bool
  | [] => true
  | step :: rest => s.allows step && (s.step step).2.allowsAll rest

namespace DisplaysEvolve

/-- What leaves the displays in their slots does nothing with them. -/
theorem of_slots (same : t.hub.slots = s.hub.slots) : s.DisplaysEvolve t where
  longer := Nat.le_of_eq (congrArg List.length same.symm)
  stems slot e there := by
    refine ⟨e, .left _, Or.inl ?_⟩
    unfold Hub.display? at there ⊢
    rwa [← same]

/-- Nor does emptying a slot. -/
theorem of_setSlot (place : Nat) (same : t.hub.slots = (s.hub.setSlot place none).slots) :
    s.DisplaysEvolve t where
  longer := by
    rw [same]
    exact Nat.le_of_eq List.length_set.symm
  stems slot e there := by
    have here : (s.hub.setSlot place none).display? slot = some e := by
      unfold Hub.display? at there ⊢
      rwa [← same]
    rw [Hub.display?_setSlot] at here
    split at here
    · nomatch here
    · exact ⟨e, .left _, Or.inl here⟩

/-- A display in a new slot had no token before, and a name that agreed. -/
theorem of_addSlot {h : Hub} {d e : Display} (same : h.slots = s.hub.slots)
    (idle : d.token = none) (agrees : d.NameAgrees)
    (changes : d.ChangesTo s.hub.compositor e h.compositor) :
    s.DisplaysEvolve { s with hub := h.addSlot e } where
  longer := by
    unfold Hub.addSlot
    rw [List.length_append, same]
    exact Nat.le_add_right _ _
  stems slot f there := by
    change (h.addSlot e).display? slot = some f at there
    rw [Hub.display?_addSlot] at there
    split at there
    · next last =>
      obtain rfl := Option.some.inj there
      exact ⟨d, changes, Or.inr ⟨Nat.le_of_eq (same ▸ last.symm), idle, agrees⟩⟩
    · refine ⟨f, .left _, Or.inl ?_⟩
      unfold Hub.display? at there ⊢
      rwa [← same]

/-- What is done with the display in one slot is done with no other. -/
theorem of_serve {α : Type} {act : Serve α} {place : Nat}
    (served : ∀ {d r e h'}, s.hub.display? place = some d → act (d, s.hub) = (r, e, h') →
      h'.slots = s.hub.slots ∧ d.ChangesTo s.hub.compositor e h'.compositor)
    (reply : α → Reply) (shows : Bool) : s.DisplaysEvolve (s.serve place act reply shows).2 := by
  cases held : s.hub.display? place with
  | none =>
      rw [serve_vacant held]
      exact of_slots rfl
  | some d =>
      rcases ending : act (d, s.hub) with ⟨r, e, h'⟩
      obtain ⟨slots, changes⟩ := served held ending
      have hub := hub_serve held ending reply shows
      -- the display that is served is put back into its slot, and all others are as they were
      refine ⟨?_, fun slot f there => ?_⟩
      · rw [hub, ← slots]
        exact Nat.le_of_eq List.length_set.symm
      · rw [hub] at there ⊢
        rw [Hub.display?_setSlot] at there
        split at there
        · next here =>
          obtain rfl := Option.some.inj there
          rw [here.1]
          exact ⟨d, changes, Or.inl held⟩
        · refine ⟨f, .left _, Or.inl ?_⟩
          unfold Hub.display? at there ⊢
          rwa [← slots]

/-- A display that the hub creates is brought into service at once. -/
theorem of_keepCreated {act : Act Display} (keeps : Keeps Hub.slots act)
    (created : ∀ {r h'}, act s.hub = (r, h') → Act.CreateOutcome s.hub r h') :
    s.DisplaysEvolve (s.keepCreated act).2 := by
  have slots := keeps s.hub
  unfold Session.keepCreated Session.run
  rcases ending : act s.hub with ⟨_ | e, h'⟩
  all_goals rw [ending] at slots
  · exact of_slots slots
  cases created ending with
  | tried v id handler provider _ _ run =>
      rcases Act.commission_cases run with ⟨e', g, raised, made, same⟩ | ⟨_, _, _, -, failed, -⟩
      · obtain rfl := Except.ok.inj made
        have changes := raised.changes
        rw [← Hub.compositor_of_ground same] at changes
        exact of_addSlot slots (d := Display.fresh v id handler provider) rfl
          (Display.nameAgrees_fresh v id handler provider) changes
      · nomatch failed

end DisplaysEvolve

/-- Every step does one of these things with each display, or nothing. -/
theorem displaysEvolve_step (s : Session) {step : Step} (allowed : s.allows step = true) :
    s.DisplaysEvolve (s.step step).2 := by
  have ignores := Hub.ignoresService_slots
  -- a display that is served is the one that the piece is allowed for
  have bare {slot : Nat} {d : Display} (held : s.hub.display? slot = some d)
      (all : ((s.hub.display? slot).all fun d => d.body.plain) = true) : d.body.plain = true := by
    rw [held] at all
    exact all
  -- served displays, new ones and emptied slots; everything else leaves them where they are
  cases step with
  | create v handler => exact .of_keepCreated (ignores.create v handler) Act.created_create
  | createByCode code handler =>
      exact .of_keepCreated (ignores.createByCode code handler) Act.created_createByCode
  | createById id handler =>
      exact .of_keepCreated (ignores.createById id handler) Act.created_createById
  | make v id concrete =>
      exact .of_addSlot rfl (d := { Display.fresh v id .record none with concrete }) rfl
        (Display.nameAgrees_fresh v id .record none) (.left _)
  | makeBare v id =>
      exact .of_addSlot rfl (d := { Display.fresh v id .record none with body := .bare v }) rfl
        rfl (.left _)
  | destroy slot =>
      cases slot with
      | none => exact .of_slots (ignores.destroy none s.hub)
      | some slot => exact .of_setSlot slot (ignores.destroy (s.hub.display? slot) _)
  | drop slot =>
      change s.DisplaysEvolve (s.withDisplay slot fun d => s.change _).2
      unfold withDisplay
      cases s.hub.display? slot with
      | none => exact .of_slots rfl
      | some d => exact .of_setSlot slot (ignores.drop d _)
  | bringUp slot =>
      refine .of_serve (fun _ run => ?_) _ _
      have raised := Serve.bringUpOutcome_bringUp run
      exact ⟨raised.slots, raised.changes⟩
  | takeDown slot =>
      refine .of_serve (fun {d r e h'} _ run => ⟨?_, Serve.changesTo_takeDown run⟩) _ _
      have slots := ignores.takeDown (d, s.hub)
      rw [run] at slots
      exact slots
  | setPower slot power =>
      refine .of_serve (fun {d r e h'} _ run => ⟨?_, Serve.changesTo_setPower run⟩) _ _
      have slots := ignores.setPower (fun _ _ _ => rfl) power (d, s.hub)
      rw [run] at slots
      exact slots
  | stick slot f =>
      refine .of_serve (fun {d r e h'} _ run => ?_) _ _
      obtain ⟨-, rfl, rfl⟩ := Serve.ended run
      exact ⟨rfl, .touched _ (Display.sameIdentity_of_same rfl rfl rfl rfl) rfl rfl⟩
  | resolve slot connected =>
      refine .of_serve (fun {d r e h'} held run =>
        ⟨?_, Serve.changesTo_resolve (bare held allowed) run⟩) _ _
      have slots := ignores.resolve connected (d, s.hub)
      rw [run] at slots
      exact slots
  | register slot =>
      refine .of_serve (fun {d r e h'} held run =>
        ⟨?_, Serve.changesTo_register (bare held allowed) run⟩) _ _
      have slots := ignores.registerBeside (d, s.hub)
      rw [run] at slots
      exact slots
  | unregister slot =>
      refine .of_serve (fun {d r e h'} _ run => ⟨?_, Serve.changesTo_unregister run⟩) _ _
      have slots := ignores.returnToken d s.hub
      obtain ⟨-, -, returned⟩ : _ ∧ _ ∧ (d.returnToken s.hub).2 = h' := Serve.ended run
      rw [← returned]
      exact slots
  | _ => exact .of_slots (Hub.slots_step s rfl)

end Session

/-! ### What the compositor has of a display -/

namespace Display

variable {c c' : Compositor} {d e : Display}

/-- What the compositor has under the token of a display is what the display
    shows. A bare display may have been bound since. -/
structure RegisteredAsShown (c : Compositor) (d : Display) : Prop where
  granted : ∀ t, d.token = some t → t < c.nextToken
  bound : d.body.plain = false → d.variant ≠ .offscreen → d.token.isSome = true →
    d.id.isSome = true
  entry : ∀ a ∈ c.active, d.token = some a.token →
    a.variant = d.variant ∧ (a.id = d.id ∨ d.body.plain = true ∧ a.id = none)

/-- Nothing is there of a display without a token. -/
theorem registeredAsShown_of_idle (idle : d.token = none) : d.RegisteredAsShown c := by
  refine ⟨fun t holds => ?_, fun _ _ holds => ?_, fun a _ holds => ?_⟩
  all_goals
    rw [idle] at holds
    nomatch holds

/-- Whatever is granted later has another token. -/
theorem RegisteredAsShown.adds (listed : d.RegisteredAsShown c) (adds : c.OnlyAddsNew c') :
    d.RegisteredAsShown c' where
  granted t holds := Nat.lt_of_lt_of_le (listed.granted t holds) adds.later
  bound := listed.bound
  entry a among holds := by
    rcases adds.active a among with old | ⟨new, -⟩
    · exact listed.entry a old holds
    · exact absurd (listed.granted a.token holds) (Nat.not_lt_of_le new)

/-- Whatever is done with a display, what is there of it is what it shows. -/
theorem ChangesTo.listed (changes : d.ChangesTo c e c') (listed : d.RegisteredAsShown c)
    (adds : c.OnlyAddsNew c')
    (numbered : ∀ a ∈ c.active, a.token < c.nextToken) : e.RegisteredAsShown c' := by
  -- what is done elsewhere only adds tokens, so whoever keeps a token keeps its entry
  cases changes with
  | left => exact listed.adds adds
  | touched _ sameIdentity id token =>
      refine ⟨fun t holds => listed.granted t (token ▸ holds), fun kind panel holds => ?_,
        fun a among holds => ?_⟩
      · rw [id]
        exact listed.bound (sameIdentity.plain ▸ kind) (sameIdentity.variant ▸ panel)
          (token ▸ holds)
      · rw [id, sameIdentity.variant, sameIdentity.plain]
        exact listed.entry a among (token ▸ holds)
  | found n looks =>
      refine ⟨listed.granted, fun _ _ _ => rfl, fun a among holds => ?_⟩
      obtain ⟨variant, id⟩ := listed.entry a among holds
      by_cases bound : d.id.isSome = true
      · rw [bind_of_bound bound]
        exact ⟨variant, id⟩
      · have unbound : d.id = none := Option.not_isSome_iff_eq_none.mp bound
        have kind : d.body.plain = true := by
          rcases looks with plain | panel
          · exact plain
          · -- a panel would have been bound when it got its token
            by_contra other
            exact bound (listed.bound (Bool.not_eq_true _ ▸ other) panel
              (Option.isSome_iff_exists.mpr ⟨_, holds⟩))
        rw [unbound] at id
        exact ⟨variant, Or.inr ⟨kind, id.elim (fun same => same) And.right⟩⟩
  | enrolled _ sameIdentity idle token bound =>
      refine ⟨fun t holds => ?_, fun kind panel _ => ?_, fun a among holds => ?_⟩
      · obtain rfl := Option.some.inj (token.symm.trans holds)
        exact Nat.lt_succ_self _
      · exact bound (sameIdentity.plain ▸ kind) (sameIdentity.variant ▸ panel)
      · rcases List.mem_append.mp among with old | new
        · -- whatever was active before has a token that was granted before
          have same : c.nextToken = a.token := Option.some.inj (token.symm.trans holds)
          exact absurd (numbered a old) (same ▸ Nat.lt_irrefl _)
        · obtain rfl := List.mem_singleton.mp new
          exact ⟨rfl, Or.inl rfl⟩
  | retired _ _ token _ => exact registeredAsShown_of_idle token

end Display

/-- What the compositor has of the displays that are held is what they show. -/
structure Hub.RegisteredAsShown (h : Hub) : Prop where
  numbered : ∀ a ∈ h.compositor.active, a.token < h.compositor.nextToken
  displays : ∀ slot d, h.display? slot = some d → d.RegisteredAsShown h.compositor

namespace Session

variable {s : Session} {steps : List Step}

theorem registeredAsShown_of_fresh (fresh : s.hub.Fresh) : s.hub.RegisteredAsShown where
  numbered a among := by
    rw [fresh.compositor] at among
    nomatch among
  displays slot d there := by
    unfold Hub.display? at there
    rw [fresh.slots] at there
    nomatch there

theorem registeredAsShown_step (listed : s.hub.RegisteredAsShown) {step : Step}
    (allowed : s.allows step = true) : (s.step step).2.hub.RegisteredAsShown where
  numbered a among := by
    have adds := onlyAddsNew_step s step
    rcases adds.active a among with old | ⟨-, below⟩
    · exact Nat.lt_of_lt_of_le (listed.numbered a old) adds.later
    · exact below
  displays slot e there := by
    obtain ⟨d, changes, from_slot | ⟨-, idle, -⟩⟩ :=
      (displaysEvolve_step s allowed).stems slot e there
    · exact changes.listed (listed.displays slot d from_slot)
        (onlyAddsNew_step s step) listed.numbered
    · exact changes.listed (Display.registeredAsShown_of_idle idle)
        (onlyAddsNew_step s step) listed.numbered

theorem registeredAsShown_after (listed : s.hub.RegisteredAsShown)
    (allowed : s.allowsAll steps = true) :
    (s.after steps).hub.RegisteredAsShown := by
  induction steps generalizing s with
  | nil => exact listed
  | cons step rest ih =>
      obtain ⟨one, others⟩ := Bool.and_eq_true_iff.mp allowed
      exact ih (registeredAsShown_step listed one) others

/-- A display that is in a slot after a run was there before it, if the slot was,
    and it remained what it was. -/
theorem sameIdentity_after (allowed : s.allowsAll steps = true) {slot : Nat}
    (inside : slot < s.hub.slots.length) {e : Display}
    (there : (s.after steps).hub.display? slot = some e) :
    ∃ d : Display, s.hub.display? slot = some d ∧ d.SameIdentity e := by
  induction steps generalizing s with
  | nil => exact ⟨e, there, .rfl⟩
  | cons step rest ih =>
      obtain ⟨one, others⟩ := Bool.and_eq_true_iff.mp allowed
      have evolves := displaysEvolve_step s one
      obtain ⟨d', between, rest_sameIdentity⟩ :=
        ih others (Nat.lt_of_lt_of_le inside evolves.longer) there
      -- an emptied slot is not filled again, so it was this display all the time
      obtain ⟨d, changes, before | ⟨beyond, -⟩⟩ := evolves.stems slot d' between
      · exact ⟨d, before, changes.sameIdentity.trans rest_sameIdentity⟩
      · exact absurd inside (Nat.not_lt_of_le beyond)

/-- If the names of all displays agree, they do after another step. -/
theorem nameAgrees_step (agree : ∀ slot d, s.hub.display? slot = some d → d.NameAgrees)
    {step : Step} (allowed : s.allows step = true) (slot : Nat) (e : Display)
    (there : (s.step step).2.hub.display? slot = some e) : e.NameAgrees := by
  obtain ⟨d, changes, before | ⟨-, -, agrees⟩⟩ := (displaysEvolve_step s allowed).stems slot e there
  · exact changes.sameIdentity.named (agree slot d before)
  · exact changes.sameIdentity.named agrees

theorem nameAgrees_after (agree : ∀ slot d, s.hub.display? slot = some d → d.NameAgrees)
    (allowed : s.allowsAll steps = true) :
    ∀ slot d, (s.after steps).hub.display? slot = some d → d.NameAgrees := by
  induction steps generalizing s with
  | nil => exact agree
  | cons step rest ih =>
      obtain ⟨one, others⟩ := Bool.and_eq_true_iff.mp allowed
      exact ih (nameAgrees_step agree one) others

theorem allowsAll_append (s : Session) (early late : List Step) :
    s.allowsAll (early ++ late) = (s.allowsAll early && (s.after early).allowsAll late) := by
  induction early generalizing s with
  | nil => rfl
  | cons step rest ih =>
      change (s.allows step && (s.step step).2.allowsAll (rest ++ late)) = _
      rw [ih, ← Bool.and_assoc]
      rfl

/-- What is known of displays over a run. -/
structure IdentityKept (s : Session) (steps : List Step) : Prop where
  /-- From any point of the run on, a display remains what it is. -/
  sameIdentity : ∀ early late, steps = early ++ late → ∀ slot d e,
    (s.after early).hub.display? slot = some d → (s.after steps).hub.display? slot = some e →
      d.SameIdentity e
  /-- Its name is the word for its kind, with its number once it is bound. -/
  named : ∀ slot d, (s.after steps).hub.display? slot = some d →
    d.name = match d.id with
      | none => d.variant.word
      | some k => d.variant.word ++ "-" ++ toString k.toInt
  /-- Wherever it came by a token, it got the next one, as what it was then. -/
  registered : ∀ early step late, steps = early ++ step :: late → ∀ slot e t,
    ((s.after early).step step).2.hub.display? slot = some e → e.token = some t →
      (∀ d, (s.after early).hub.display? slot = some d → d.token ≠ some t) →
        t = (s.after early).hub.compositor.nextToken ∧
          ((s.after early).step step).2.hub.compositor
            = (s.after early).hub.compositor.grant e.variant e.id
  /-- Whatever the compositor has under its token is what it shows, unless it is
      bare and was bound since. -/
  listed : ∀ slot d a, (s.after steps).hub.display? slot = some d →
    a ∈ (s.after steps).hub.compositor.active → d.token = some a.token →
      a.variant = d.variant ∧ (a.id = d.id ∨ d.body.plain = true ∧ a.id = none)

/-- Displays can be told by their kinds, numbers and names over any run from a
    fresh hub, whatever fails on the way and whatever becomes of the hardware.
    And whenever one is brought into service, in a run or not, the compositor
    gets it under its kind and the number it has then. -/
theorem identityKept_after (fresh : s.hub.Fresh) (allowed : s.allowsAll steps = true) :
    s.IdentityKept steps ∧ ∀ d h r e h', Serve.bringUp (d, h) = (r, e, h') →
      d.SameIdentity e ∧ (h'.compositor = h.compositor ∨ d.token = none ∧
        e.token = some h.compositor.nextToken ∧
        h'.compositor = h.compositor.grant e.variant e.id) := by
  refine ⟨⟨?_, ?_, ?_, ?_⟩, fun d h r e h' run => Serve.registers_bringUp run⟩
  · rintro early late rfl slot d e before there
    rw [allowsAll_append] at allowed
    rw [after_append] at there
    obtain ⟨d', same, sameIdentity⟩ := sameIdentity_after (Bool.and_eq_true_iff.mp allowed).2
      (Hub.inside_of_display? before) there
    obtain rfl := Option.some.inj (before.symm.trans same)
    exact sameIdentity
  · intro slot d there
    -- a fresh hub holds nobody whose name could be wrong
    have agrees : d.NameAgrees := by
      refine nameAgrees_after (fun slot d held => ?_) allowed slot d there
      unfold Hub.display? at held
      rw [fresh.slots] at held
      nomatch held
    rw [agrees]
    cases d.id <;> rfl
  · rintro early step late rfl slot e t there holds new
    rw [allowsAll_append] at allowed
    have one := (Bool.and_eq_true_iff.mp (Bool.and_eq_true_iff.mp allowed).2).1
    obtain ⟨d, changes, before | ⟨-, idle, -⟩⟩ := (displaysEvolve_step _ one).stems slot e there
    · exact changes.registers holds (new d before)
    · exact changes.registers holds (by rw [idle]; nofun)
  · intro slot d a there among holds
    exact ((registeredAsShown_after (registeredAsShown_of_fresh fresh) allowed).displays slot d
      there).entry a among holds

/-- A panel finds its entry and gets no token, then gets one, and comes back when
    other hardware has come and gone. An off-screen display is there all the
    time. -/
def rebinding : List Step :=
  [.bootstrap, .make .builtIn none false, .make .offscreen none false,
    .setFault .register (some (.failure .memory)), .bringUp 0, .setFault .register none,
    .bringUp 0, .bringUp 1, .takeDown 0, .setDisplays [.scripted 5 .builtIn true], .bringUp 0,
    .setDisplays [.scripted 0 .builtIn true], .bringUp 0]

theorem identityKept_after_rebinding : bench.hub.Fresh ∧ bench.allowsAll rebinding = true ∧
    ((bench.after (rebinding.take 5)).hub.display? 0).map (fun d => (d.id, d.token))
      = some (some 0, none) ∧
    (bench.after rebinding).hub.live.map (fun d => (d.variant, d.id, d.name, d.token))
      = [(.builtIn, some 0, "builtin-0", some 2), (.offscreen, none, "virtual", some 1)] ∧
    (bench.after rebinding).hub.compositor.active
      = [⟨1, .offscreen, none⟩, ⟨2, .builtIn, some 0⟩] ∧
    bench.IdentityKept rebinding := by
  have fresh : bench.hub.Fresh := fresh_recording _ _ _ _
  have allowed : bench.allowsAll rebinding = true := by decide
  exact ⟨fresh, allowed, by decide, by decide, by decide, (identityKept_after fresh allowed).1⟩

end Session

end DisplayHub
