import DisplayHub.Proofs.Renaming

/-!
# Operations on Images

Everything that is done with a hub, done to two images of it at once.

`Renaming` has the collaborators. Here they are put together as the hub does it,
and there is hardly anything to say about that, because an operation that is
made of parallel parts is parallel. What takes an argument is where the two
sides do not do the same: one of them may note something that the other does
not, an interface may be destroyed on one side only, and the process may have
been told before what to do about broken pipes.

Displays are images of each other under the same translation of tokens. The
side effects of serving them are seen in the hub beside them (`BothSameUpTo`).

## Main definitions

* `BothSameUpTo`: A display and a hub, and their images.

## Theorems

* `Act.parallel_bootstrap`, `Hub.SameUpTo.teardown`: Coming up and going down.
* `Serve.parallel_bringUp`, `Serve.parallel_takeDown`,
  `Serve.parallel_setPower`, `Display.SameUpTo.drop`: Serving displays.
* `Act.parallel_create`, `Act.parallel_createByCode`,
  `Act.parallel_createById`, `Act.parallel_decommission`: Making them.
* `Act.parallel_setBandwidth`, `Act.parallel_refresh`, …: Questions.
-/

namespace DisplayHub

namespace Hub.SameUpTo

variable {ρ : Nat → Nat} {agreed : Prop} {h u : Hub}

/-- Both are up, or both are down. -/
theorem provider (images : h.SameUpTo ρ agreed u) :
    h.core.provider.isSome = u.core.provider.isSome := by
  have same := congrArg (fun f : Observed => f.core.provider.isSome) images.observed
  change (h.core.provider.map fun _ => 0).isSome = (u.core.provider.map fun _ => 0).isSome at same
  rwa [Option.isSome_map, Option.isSome_map] at same

theorem initialized (images : h.SameUpTo ρ agreed u) : h.initialized = u.initialized :=
  images.provider

theorem topology (images : h.SameUpTo ρ agreed u) : h.core.topology = u.core.topology :=
  congrArg (fun f : Observed => f.core.topology) images.observed

/-- Cores that differ in numbers only keep images. -/
theorem know {c d : Core} (images : h.SameUpTo ρ agreed u) (erasures : c.erased = d.erased) :
    SameUpTo ρ agreed { h with core := c } { u with core := d } where
  observed := by
    have := congrArg (fun f : Observed => { f with core := c.erased }) images.observed
    refine this.trans ?_
    rw [erasures]
    rfl
  compositor := images.compositor

/-! ### Going down -/

theorem disableColor (images : h.SameUpTo ρ agreed u) :
    h.disableColor.SameUpTo ρ agreed u.disableColor := by
  have called := images.recordCall .stopColor .stopColor
  have color : h.color = u.color := congrArg Observed.color images.observed
  have same : (h.recordCall .stopColor).color = (u.recordCall .stopColor).color := color
  unfold Hub.disableColor darken
  rw [same]
  split
  · have dark : SameUpTo ρ agreed
        { h.recordCall .stopColor with
          color := { (u.recordCall .stopColor).color with active := false } }
        { u.recordCall .stopColor with
          color := { (u.recordCall .stopColor).color with active := false } } := by
      refine ⟨?_, called.compositor⟩
      have := congrArg (fun f : Observed => { f with color := { u.color with active := false } })
        called.observed
      exact this
    exact dark.note _ _ _ _
  · exact called

theorem stopCompositor (images : h.SameUpTo ρ agreed u) :
    h.stopCompositor.SameUpTo ρ agreed u.stopCompositor := by
  -- one side may warn of displays that the other does not have
  have warned (h : Hub) : ∃ h' : Hub, h.stopCompositor =
      (Hub.letGo? h.compositor.extension? { h' with compositor := h.compositor.stop }).note .info
        "ResourceCompManager: deinit" ∧ h'.observed = h.observed ∧
        h'.compositor = h.compositor := by
    unfold Hub.stopCompositor leave
    dsimp only
    split
    · exact ⟨_, rfl, rfl, rfl⟩
    · exact ⟨_, rfl, rfl, rfl⟩
  obtain ⟨h', one, left⟩ := warned h
  obtain ⟨u', other, right⟩ := warned u
  rw [one, other]
  exact (((images.of_same left.1 left.2 right.1 right.2).deal images.compositor.stop).letGo?
    _ _).note _ _ _ _

theorem clear (images : h.SameUpTo ρ agreed u) :
    h.dismissProvider.clearCore.SameUpTo ρ agreed u.dismissProvider.clearCore := by
  have dismissed : SameUpTo ρ agreed { h.dismissProvider with core := {} }
      { u.dismissProvider with core := {} } := by
    have same := images.provider
    unfold dismissProvider
    rcases one : h.core.provider with _ | p <;> rcases other : u.core.provider with _ | q
    all_goals rw [one, other] at same
    · exact (images.note _ _ _ _).know rfl
    · nomatch same
    · nomatch same
    · exact (images.know (c := {}) (d := {}) rfl).of_same rfl rfl rfl rfl
  exact dismissed.letGo? _ _

theorem teardown (images : h.SameUpTo ρ agreed u) : h.teardown.SameUpTo ρ agreed u.teardown :=
  images.disableColor.stopCompositor.clear.note _ _ _ _

end Hub.SameUpTo

namespace Act

variable {ρ : Nat → Nat} {agreed : Prop}

/-! ### Coming up -/

theorem parallel_handOut (opened : Option OpenInterface) :
    Parallel (Hub.SameUpTo ρ agreed) (fun e e' => e.erased = e'.erased) (handOut opened)
      (handOut opened) :=
  parallel_get fun _ _ _ =>
    (parallel_modify fun _ _ images => images.of_same rfl rfl rfl rfl).bind fun _ _ _ =>
      parallel_pure rfl

theorem parallel_loadExtension : Parallel (Hub.SameUpTo ρ agreed)
    (fun e e' => e.map Extension.erased = e'.map Extension.erased) loadExtension loadExtension := by
  have given (opened : Option OpenInterface) : Parallel (Hub.SameUpTo ρ agreed)
      (fun e e' => e.map Extension.erased = e'.map Extension.erased)
      (handOut opened >>= fun e => pure (some e)) (handOut opened >>= fun e => pure (some e)) :=
    (parallel_handOut opened).bind fun e e' erasures => parallel_pure (congrArg some erasures)
  refine (parallel_visit _).bind fun _ _ _ => parallel_get fun h u images => ?_
  have loader : h.loader = u.loader := congrArg Observed.loader images.observed
  have storage : h.storage = u.storage := congrArg Observed.storage images.observed
  have override : h.override = u.override := congrArg Observed.override images.observed
  -- so both find the same libraries, and only the number of the interface differs
  rw [loader, storage, override]
  cases u.loader with
  | disabled => exact parallel_pure rfl
  | standIn outcome =>
      refine (parallel_ofExcept outcome).bind ?_
      rintro offered _ rfl
      split
      · exact given none
      · exact parallel_pure rfl
  | library settings =>
      dsimp only
      generalize settings.attempt u.storage u.override = attempt
      refine (parallel_modify fun h u images => images.of_same rfl rfl rfl rfl).bind fun _ _ _ =>
        (parallel_ofExcept _).bind ?_
      rintro opened _ rfl
      cases opened with
      | none => exact parallel_pure rfl
      | some i => exact given (some i)

theorem parallel_noteExtension (e e' : Option Extension) :
    Parallel (Hub.SameUpTo ρ agreed) Eq (noteExtension e) (noteExtension e') := by
  cases e <;> cases e' <;> exact parallel_note _ _ _ _

theorem parallel_createProvider :
    Parallel (Hub.SameUpTo ρ agreed) (fun _ _ => True) createProvider createProvider := by
  refine (parallel_visit _).bind fun _ _ _ => parallel_get fun h u images => ?_
  have hardware : h.hardware = u.hardware := congrArg Observed.hardware images.observed
  have storage : h.storage = u.storage := congrArg Observed.storage images.observed
  -- providers are counted on, wherever they were counted to
  have count (p q : Nat) : Parallel (Hub.SameUpTo ρ agreed) (fun _ _ => True)
      (modify (fun h : Hub => { h with providers := h.providers + 1 }) >>= fun _ => pure p)
      (modify (fun h : Hub => { h with providers := h.providers + 1 }) >>= fun _ => pure q) :=
    (parallel_modify fun _ _ images => images.of_same rfl rfl rfl rfl).bind fun _ _ _ =>
      parallel_pure trivial
  rw [hardware, storage]
  dsimp only
  cases u.hardware.listing with
  | described entries =>
      dsimp only
      by_cases told : u.hardware.announced = true
      · rw [if_pos told, if_pos told]
        exact (parallel_note _ _ _ _).bind fun _ _ _ => count _ _
      · rw [if_neg told, if_neg told]
        exact count _ _
  | connectors root =>
      dsimp only
      by_cases missing : (!u.storage.isDirectory root) = true
      · rw [if_pos missing, if_pos missing]
        exact parallel_fail_bind _ _ _
      rw [if_neg missing, if_neg missing]
      by_cases told : u.hardware.announced = true
      · rw [if_pos told, if_pos told]
        exact (parallel_note _ _ _ _).bind fun _ _ _ => count _ _
      · rw [if_neg told, if_neg told]
        exact count _ _
  | scripted entries => exact count _ _

theorem parallel_tryColor (resource : Resource) :
    Parallel (Hub.SameUpTo ρ agreed) Eq (tryColor resource) (tryColor resource) := by
  refine (parallel_attempt (parallel_enableColor resource)).bind ?_
  rintro answer _ rfl
  cases answer with
  | ok _ => exact parallel_pure rfl
  | error f => exact parallel_note _ _ _ _

theorem parallel_tryStatus : Parallel (Hub.SameUpTo ρ agreed) Eq tryStatus tryStatus := by
  refine (parallel_attempt parallel_queryStatus).bind ?_
  rintro answer _ rfl
  cases answer with
  | ok t => exact parallel_pure rfl
  | error f => exact (parallel_note _ _ _ _).bind fun _ _ _ => parallel_pure rfl

theorem parallel_ignoreBrokenPipe :
    Parallel (Hub.SameUpTo ρ agreed) Eq ignoreBrokenPipe ignoreBrokenPipe := by
  intro h u images
  have unseen (h : Hub) : (ignoreBrokenPipe h).1 = .ok () ∧
      (ignoreBrokenPipe h).2.observed = h.observed ∧
      (ignoreBrokenPipe h).2.compositor = h.compositor := by
    unfold ignoreBrokenPipe
    rw [get_bind]
    cases h.pipeIgnored <;> exact ⟨rfl, rfl, rfl⟩
  obtain ⟨one, left⟩ := unseen h
  obtain ⟨other, right⟩ := unseen u
  rw [one, other]
  exact ⟨ResultsAgree.ok rfl, images.of_same left.1 left.2 right.1 right.2⟩

theorem parallel_describe {e e' : Option Extension}
    (erasures : e.map Extension.erased = e'.map Extension.erased) :
    Parallel (Hub.SameUpTo ρ agreed) Eq (describe e) (describe e') := by
  refine parallel_queryResource.bind ?_
  rintro resource _ rfl
  refine (parallel_note _ _ _ _).bind fun _ _ _ =>
    (parallel_startCompositor resource erasures).bind fun _ _ _ =>
    (parallel_tryColor resource).bind fun _ _ _ => parallel_tryStatus.bind ?_
  rintro topology _ rfl
  exact parallel_ignoreBrokenPipe.bind fun _ _ _ => (parallel_note _ _ _ _).bind fun _ _ _ =>
    parallel_pure rfl

theorem parallel_assemble {e e' : Option Extension}
    (erasures : e.map Extension.erased = e'.map Extension.erased) :
    Parallel (Hub.SameUpTo ρ agreed) Eq (assemble e) (assemble e') := by
  refine (parallel_noteExtension e e').bind fun _ _ _ => parallel_createProvider.bind fun p q _ =>
    (parallel_onStop (fun h u images => ?_) (parallel_describe erasures)).bind ?_
  · exact images.of_same rfl rfl rfl rfl
  · rintro ⟨resource, topology⟩ _ rfl
    refine parallel_modify fun h u images => images.know ?_
    unfold Core.erased
    dsimp only
    rw [erasures]
    rfl

theorem parallel_bootstrap : Parallel (Hub.SameUpTo ρ agreed) Eq bootstrap bootstrap := by
  refine parallel_get fun h u images => ?_
  dsimp only
  rw [images.initialized]
  split
  · exact (parallel_note _ _ _ _).bind fun _ _ _ => parallel_fail_bind _ _ _
  · exact parallel_loadExtension.bind fun e e' erasures =>
      parallel_onStop (fun _ _ images => images.letGo? e e') (parallel_assemble erasures)

end Act

/-! ### Displays -/

/-- A display and a hub, and their images. -/
def BothSameUpTo (ρ : Nat → Nat) (agreed : Prop) (s t : Display × Hub) : Prop :=
  s.1.SameUpTo ρ t.1 ∧ s.2.SameUpTo ρ agreed t.2

namespace Display.SameUpTo

variable {ρ : Nat → Nat} {agreed : Prop} {d e : Display} {h u : Hub}

theorem initialized (images : d.SameUpTo ρ e) : d.initialized = e.initialized := by
  unfold Display.initialized
  rw [images.token, Option.isSome_map]

theorem id (images : d.SameUpTo ρ e) : d.id = e.id := by
  have := congrArg Display.id images.erased
  exact this

theorem handler (images : d.SameUpTo ρ e) : d.handler = e.handler := by
  have := congrArg Display.handler images.erased
  exact this

theorem power (images : d.SameUpTo ρ e) : d.power = e.power := by
  have := congrArg Display.power images.erased
  exact this

theorem stuck (images : d.SameUpTo ρ e) : d.stuck = e.stuck := by
  have := congrArg Display.stuck images.erased
  exact this

theorem body (images : d.SameUpTo ρ e) : d.body.erased = e.body.erased :=
  congrArg Display.body images.erased

/-- Both are of the same kind, and are the same but for their buffers. -/
theorem body_cases (images : d.SameUpTo ρ e) : (∃ v, d.body = .bare v ∧ e.body = .bare v) ∨
    (∃ p, d.body = .builtIn p ∧ e.body = .builtIn p) ∨
    (∃ n, d.body = .pluggable n ∧ e.body = .pluggable n) ∨
    ∃ a b, d.body = .offscreen a ∧ e.body = .offscreen b := by
  have same := images.body
  rcases one : d.body <;> rcases other : e.body <;> rw [one, other] at same <;>
    simp_all [Body.erased]

theorem variant (images : d.SameUpTo ρ e) : d.variant = e.variant := by
  have same := congrArg Body.variant images.body
  rwa [Body.variant_erased, Body.variant_erased] at same

/-- Both hold a buffer, or neither does. -/
theorem writeback (images : d.SameUpTo ρ e) :
    d.writeback?.map Buffer.erased = e.writeback?.map Buffer.erased := by
  have same := images.body
  unfold writeback?
  rcases images.body_cases with ⟨v, one, other⟩ | ⟨p, one, other⟩ | ⟨n, one, other⟩ |
    ⟨a, b, one, other⟩
  all_goals rw [one, other] at same ⊢
  exact Body.offscreen.inj same

/-- Two displays that change in the same way, but for the numbers, stay images. -/
theorem alter {d' e' : Display} (images : d.SameUpTo ρ e) (left : d'.token = d.token)
    (right : e'.token = e.token) (erased : d'.erased = e'.erased) : d'.SameUpTo ρ e' where
  erased := erased
  token := by
    rw [left, right]
    exact images.token

/-- A display is given another body on both sides. -/
theorem reshape {b c : Body} (images : d.SameUpTo ρ e) (erasures : b.erased = c.erased) :
    SameUpTo ρ { d with body := b } { e with body := c } := by
  refine images.alter rfl rfl ?_
  have := congrArg (fun d : Display => { d with body := b.erased }) images.erased
  refine this.trans ?_
  rw [erasures]
  rfl

theorem bind (images : d.SameUpTo ρ e) (id : Int32) : (d.bind id).SameUpTo ρ (e.bind id) := by
  have erased_bind (d : Display) : (d.bind id).erased = d.erased.bind id := by
    unfold Display.bind Display.erased Display.variant
    dsimp only
    rw [Body.variant_erased]
  refine images.alter rfl rfl ?_
  rw [erased_bind, erased_bind, images.erased]

theorem off (images : d.SameUpTo ρ e) (power : Power) :
    SameUpTo ρ { d with power } { e with power } := by
  refine images.alter rfl rfl ?_
  have := congrArg (fun d : Display => { d with power }) images.erased
  exact this

theorem claim (images : d.SameUpTo ρ e) (token : Nat) :
    SameUpTo ρ { d with token := some (ρ token) } { e with token := some token } where
  erased := by
    have := congrArg (fun d : Display => { d with token := some 0 }) images.erased
    exact this
  token := rfl

theorem disclaim (images : d.SameUpTo ρ e) :
    SameUpTo ρ { d with token := none } { e with token := none } where
  erased := by
    have := congrArg (fun d : Display => { d with token := none }) images.erased
    exact this
  token := rfl

/-! ### Returning what is held -/

theorem returnToken (apart : Function.Injective ρ) (images : d.SameUpTo ρ e)
    (hubs : h.SameUpTo ρ agreed u) : BothSameUpTo ρ agreed (d.returnToken h) (e.returnToken u) := by
  have revoked (token : Nat) : (h.unregister (ρ token)).SameUpTo ρ agreed (u.unregister token) := by
    have taken := hubs.deal (hubs.compositor.unregister apart token)
    unfold Hub.unregister Hub.revoke
    refine taken.of_same ?_ ?_ ?_ ?_
    all_goals
      dsimp only
      split <;> rfl
  unfold Display.returnToken
  rw [images.token]
  cases e.token with
  | none => exact ⟨images, hubs⟩
  | some token => exact ⟨images.disclaim, (revoked token).note _ _ _ _⟩

theorem returnWriteback (images : d.SameUpTo ρ e) (hubs : h.SameUpTo ρ agreed u) :
    BothSameUpTo ρ agreed (d.returnWriteback h) (e.returnWriteback u) := by
  have limit : h.allocator.free.limit = u.allocator.free.limit :=
    congrArg Observed.limit hubs.observed
  have same := images.writeback
  unfold Display.returnWriteback
  rcases one : d.writeback? with _ | b <;> rcases other : e.writeback? with _ | c
  all_goals rw [one, other] at same
  · exact ⟨images, hubs⟩
  · nomatch same
  · nomatch same
  · exact ⟨images.reshape rfl, ((hubs.note _ _ _ _).count limit).noteAll _ _⟩

theorem drop (apart : Function.Injective ρ) (images : d.SameUpTo ρ e)
    (hubs : h.SameUpTo ρ agreed u) : (d.drop h).SameUpTo ρ agreed (e.drop u) := by
  obtain ⟨emptied, freed⟩ := images.returnWriteback hubs
  unfold Display.drop
  dsimp only
  rw [emptied.initialized]
  split
  · exact (emptied.returnToken apart (freed.note _ _ _ _)).2
  · exact (emptied.returnToken apart freed).2

end Display.SameUpTo

namespace Serve

variable {α β : Type} {ρ : Nat → Nat} {agreed : Prop} {V : α → β → Prop}

theorem parallel_onHub {f : Act α} {g : Act β} (parallel : Parallel (Hub.SameUpTo ρ agreed) V f g) :
    Parallel (BothSameUpTo ρ agreed) V (onHub f) (onHub g) :=
  fun s t beside => ⟨(parallel s.2 t.2 beside.2).1, beside.1, (parallel s.2 t.2 beside.2).2⟩

theorem parallel_fail (f : Failure) : Parallel (BothSameUpTo ρ agreed) V (fail f) (fail f) :=
  parallel_throw _

theorem parallel_fail_bind {γ : Type} (f : Failure) (rest : γ → Serve α) (other : γ → Serve β) :
    Parallel (BothSameUpTo ρ agreed) V (fail f >>= rest) (fail f >>= other) :=
  fun _ _ beside => ⟨ResultsAgree.error _, beside⟩

theorem parallel_note (l l' : Level) (x y : String) :
    Parallel (BothSameUpTo ρ agreed) Eq (note l x) (note l' y) :=
  parallel_onHub (Act.parallel_note l l' x y)

theorem parallel_display : Parallel (BothSameUpTo ρ agreed) (Display.SameUpTo ρ) display display :=
  fun _ _ beside => ⟨ResultsAgree.ok beside.1, beside⟩

theorem parallel_change {f g : Display → Display}
    (kept : ∀ d e, Display.SameUpTo ρ d e → Display.SameUpTo ρ (f d) (g e)) :
    Parallel (BothSameUpTo ρ agreed) Eq (change f) (change g) :=
  parallel_modify fun s t beside => ⟨kept s.1 t.1 beside.1, beside.2⟩

theorem parallel_resolve (connected : Bool) :
    Parallel (BothSameUpTo ρ agreed) Eq (resolve connected) (resolve connected) := by
  refine (parallel_onHub Act.parallel_queryStatus).bind ?_
  rintro topology _ rfl
  refine parallel_display.bind fun d e images => ?_
  -- both look for the same number, or for any of the same kind
  have choice : d.choose connected topology = e.choose connected topology := by
    unfold Display.choose
    rw [images.id, images.variant]
  rw [choice]
  cases e.choose connected topology with
  | ok entry =>
      exact (parallel_change fun _ _ images => images.bind entry.id).bind fun _ _ _ =>
        parallel_pure rfl
  | error f => exact parallel_fail f

theorem parallel_register : Parallel (BothSameUpTo ρ agreed) Eq register register := by
  refine parallel_display.bind fun d e images => ?_
  dsimp only
  rw [images.initialized, images.variant, images.id]
  split
  · exact parallel_fail_bind _ _ _
  · refine (parallel_onHub (Act.parallel_register _ _)).bind ?_
    rintro _ token rfl
    exact (parallel_change fun _ _ images => images.claim token).bind fun _ _ _ =>
      parallel_note _ _ _ _

theorem parallel_bringUpPanel : Parallel (BothSameUpTo ρ agreed) Eq bringUpPanel bringUpPanel := by
  refine (parallel_resolve true).bind ?_
  rintro entry _ rfl
  refine parallel_register.bind fun _ _ _ =>
    (parallel_change fun _ _ images => images.reshape rfl).bind fun _ _ _ => ?_
  split
  · exact parallel_note _ _ _ _
  · exact parallel_pure rfl

theorem parallel_bringUpConnector :
    Parallel (BothSameUpTo ρ agreed) Eq bringUpConnector bringUpConnector := by
  refine (parallel_resolve true).bind ?_
  rintro entry _ rfl
  exact parallel_register.bind fun _ _ _ => parallel_change fun _ _ images => images.reshape rfl

theorem parallel_registerOffscreen :
    Parallel (BothSameUpTo ρ agreed) Eq registerOffscreen registerOffscreen := by
  intro s t beside
  obtain ⟨alike, after⟩ := parallel_register s t beside
  unfold registerOffscreen
  rcases one : register s with ⟨r, d, h⟩
  rcases other : register t with ⟨q, e, u⟩
  rw [one, other] at alike after
  cases alike with
  | ok same => exact ⟨ResultsAgree.ok same, after⟩
  | error stop =>
      cases stop with
      | failure f => exact ⟨ResultsAgree.error _, after.1.returnWriteback after.2⟩
      | collapse => exact ⟨ResultsAgree.error _, after⟩

theorem parallel_bringUpOffscreen :
    Parallel (BothSameUpTo ρ agreed) Eq bringUpOffscreen bringUpOffscreen := by
  have place : Parallel (BothSameUpTo ρ agreed) Eq
      (onHub (Act.allocate Display.writebackSize) >>= fun buffer =>
        change (fun d => { d with body := .offscreen (some buffer) }) >>= fun _ =>
        registerOffscreen)
      (onHub (Act.allocate Display.writebackSize) >>= fun buffer =>
        change (fun d => { d with body := .offscreen (some buffer) }) >>= fun _ =>
        registerOffscreen) :=
    (parallel_onHub (Act.parallel_allocate _)).bind fun a b erasures =>
      (parallel_change fun _ _ images => images.reshape (by
        change Body.offscreen (some a.erased) = Body.offscreen (some b.erased)
        rw [erasures])).bind fun _ _ _ => parallel_registerOffscreen
  refine parallel_display.bind fun d e images => ?_
  dsimp only
  rw [images.id]
  split
  · exact (parallel_resolve false).bind fun _ _ _ => place
  · exact place

theorem parallel_bringUp : Parallel (BothSameUpTo ρ agreed) Eq bringUp bringUp := by
  refine parallel_display.bind fun d e images => ?_
  rcases images.body_cases with ⟨v, one, other⟩ | ⟨p, one, other⟩ | ⟨n, one, other⟩ |
    ⟨a, b, one, other⟩
  all_goals rw [one, other]
  · exact parallel_pure rfl
  · exact parallel_bringUpPanel
  · exact parallel_bringUpConnector
  · exact parallel_bringUpOffscreen

theorem parallel_retire (apart : Function.Injective ρ) :
    Parallel (BothSameUpTo ρ agreed) Eq retire retire := by
  refine parallel_display.bind fun d e images => ?_
  dsimp only
  rw [images.initialized]
  split
  · exact parallel_fail_bind _ _ _
  · exact (parallel_change fun _ _ images => images.off .off).bind fun _ _ _ =>
      (parallel_modify fun _ _ beside => beside.1.returnToken apart beside.2).bind fun _ _ _ =>
      parallel_note _ _ _ _

theorem parallel_takeDown (apart : Function.Injective ρ) :
    Parallel (BothSameUpTo ρ agreed) Eq takeDown takeDown := by
  refine parallel_display.bind fun d e images => ?_
  rw [images.stuck]
  cases e.stuck with
  | some f => exact parallel_fail f
  | none =>
      refine (parallel_retire apart).bind fun _ _ _ => parallel_display.bind fun d e images => ?_
      rcases images.body_cases with ⟨v, one, other⟩ | ⟨p, one, other⟩ | ⟨n, one, other⟩ |
        ⟨a, b, one, other⟩
      all_goals rw [one, other]
      · exact parallel_pure rfl
      · exact parallel_pure rfl
      · exact parallel_change fun _ _ images => images.reshape rfl
      · exact parallel_modify fun _ _ beside => beside.1.returnWriteback beside.2

theorem parallel_setPower (power : Power) :
    Parallel (BothSameUpTo ρ agreed) Eq (setPower power) (setPower power) := by
  -- what a handler is told is in the records, and is not compared
  have unseen (handler : Handler) (notice : Notice) (h : Hub) :
      (h.tell handler notice).observed = h.observed ∧
        (h.tell handler notice).compositor = h.compositor := by
    cases handler <;> cases notice <;> exact ⟨rfl, rfl⟩
  have tell (handler : Handler) (notice : Notice) : Parallel (BothSameUpTo ρ agreed) Eq
      (modify fun s => (s.1, s.2.tell handler notice) : Serve PUnit)
      (modify fun s => (s.1, s.2.tell handler notice) : Serve PUnit) :=
    parallel_modify fun s t beside => ⟨beside.1, beside.2.of_same (unseen _ _ _).1 (unseen _ _ _).2
      (unseen _ _ _).1 (unseen _ _ _).2⟩
  refine parallel_display.bind fun d e images => ?_
  dsimp only
  rw [images.initialized, images.power, images.handler, images.variant, images.id]
  by_cases idle : (!e.initialized) = true
  · rw [if_pos idle, if_pos idle]
    exact parallel_fail_bind _ _ _
  rw [if_neg idle, if_neg idle]
  by_cases same : e.power = power
  · rw [if_pos same, if_pos same]
    exact parallel_pure rfl
  rw [if_neg same, if_neg same]
  refine (parallel_note _ _ _ _).bind fun _ _ _ =>
    (parallel_change fun _ _ images => images.off power).bind fun _ _ _ =>
    (tell _ _).bind fun _ _ _ => ?_
  by_cases on : power = .on
  · rw [if_pos on]
    exact tell _ _
  · rw [if_neg on]
    exact parallel_pure rfl

end Serve

namespace Act

variable {ρ : Nat → Nat} {agreed : Prop}

/-! ### Making displays -/

section Apart

variable (apart : Function.Injective ρ)

include apart

theorem parallel_commission {d e : Display} (images : d.SameUpTo ρ e) (v : Variant)
    (id : Option Int32) : Parallel (Hub.SameUpTo ρ agreed) (Display.SameUpTo ρ) (commission d v id)
      (commission e v id) := by
  intro h u hubs
  obtain ⟨alike, after⟩ := Serve.parallel_bringUp (d, h) (e, u) ⟨images, hubs⟩
  unfold commission
  rcases one : Serve.bringUp (d, h) with ⟨r, d', h'⟩
  rcases other : Serve.bringUp (e, u) with ⟨q, e', u'⟩
  rw [one, other] at alike after
  -- a display that could not be brought into service is let go on both sides
  cases alike with
  | ok _ => exact ⟨ResultsAgree.ok after.1, after.2.note _ _ _ _⟩
  | error stop =>
      cases stop with
      | failure f => exact ⟨ResultsAgree.error _, after.1.drop apart (after.2.note _ _ _ _)⟩
      | collapse => exact ⟨ResultsAgree.error _, after.1.drop apart after.2⟩

theorem parallel_construct (v : Variant) (id : Option Int32) (handler : Handler) :
    Parallel (Hub.SameUpTo ρ agreed) (Display.SameUpTo ρ) (construct v id handler)
      (construct v id handler) := by
  refine parallel_get fun h u images => ?_
  have same := images.provider
  rcases one : h.core.provider with _ | p <;> rcases other : u.core.provider with _ | q
  all_goals rw [one, other] at same
  · exact parallel_fail _
  · nomatch same
  · nomatch same
  · have images : Display.SameUpTo ρ (.fresh v id handler (some p))
        (.fresh v id handler (some q)) := ⟨rfl, rfl⟩
    exact parallel_commission apart images v id

theorem parallel_create (v : Variant) (handler : Option Handler) :
    Parallel (Hub.SameUpTo ρ agreed) (Display.SameUpTo ρ) (create v handler)
    (create v handler) := by
  cases handler with
  | none => exact parallel_fail _
  | some handler => exact parallel_construct apart v none handler

theorem parallel_createByCode (code : Int32) (handler : Option Handler) :
    Parallel (Hub.SameUpTo ρ agreed) (Display.SameUpTo ρ) (createByCode code handler)
      (createByCode code handler) := by
  cases handler with
  | none => exact parallel_fail _
  | some handler =>
      refine (parallel_pure rfl : Parallel _ Eq _ _).bind ?_
      rintro handler _ rfl
      cases Variant.ofCode code with
      | none => exact (parallel_note _ _ _ _).bind fun _ _ _ => parallel_fail _
      | some v => exact parallel_construct apart v none handler

theorem parallel_createById (id : Int32) (handler : Option Handler) :
    Parallel (Hub.SameUpTo ρ agreed) (Display.SameUpTo ρ) (createById id handler)
      (createById id handler) := by
  cases handler with
  | none => exact parallel_fail _
  | some handler =>
      refine (parallel_pure rfl : Parallel _ Eq _ _).bind ?_
      rintro handler _ rfl
      refine parallel_get fun h u images => ?_
      rw [images.topology]
      cases u.core.topology.find? id with
      | none => exact (parallel_note _ _ _ _).bind fun _ _ _ => parallel_fail _
      | some entry => exact parallel_construct apart entry.variant (some id) handler

theorem parallel_decommission {d e : Display} (images : d.SameUpTo ρ e) :
    Parallel (Hub.SameUpTo ρ agreed) Eq (decommission d) (decommission e) := by
  intro h u hubs
  obtain ⟨alike, after⟩ := Serve.parallel_takeDown apart (d, h) (e, u) ⟨images, hubs⟩
  unfold decommission
  rcases one : Serve.takeDown (d, h) with ⟨r, d', h'⟩
  rcases other : Serve.takeDown (e, u) with ⟨q, e', u'⟩
  rw [one, other] at alike after
  have dropped := after.1.drop apart after.2
  cases alike with
  | ok same => exact ⟨ResultsAgree.ok same, dropped.note _ _ _ _⟩
  | error stop =>
      cases stop with
      | failure f => exact ⟨ResultsAgree.error _, dropped.note _ _ _ _⟩
      | collapse => exact ⟨ResultsAgree.error _, dropped⟩

end Apart

/-! ### Questions to the hub -/

theorem parallel_requireProvider :
    Parallel (Hub.SameUpTo ρ agreed) Eq requireProvider requireProvider := by
  refine parallel_get fun h u images => ?_
  rw [images.initialized]
  split
  · exact parallel_fail _
  · exact parallel_pure rfl

theorem parallel_setBandwidth (mode : BandwidthMode) :
    Parallel (Hub.SameUpTo ρ agreed) Eq (setBandwidth mode) (setBandwidth mode) :=
  (parallel_visit _).bind fun _ _ _ => parallel_chooseMode mode

theorem parallel_rotates (format : PixelFormat) :
    Parallel (Hub.SameUpTo ρ agreed) Eq (rotates format) (rotates format) :=
  (parallel_visit _).bind fun _ _ _ => parallel_get fun _ _ images =>
    parallel_pure (images.compositor.rotates format)

theorem parallel_firstInterface :
    Parallel (Hub.SameUpTo ρ agreed) Eq firstInterface firstInterface :=
  parallel_requireProvider.bind fun _ _ _ => parallel_queryFirst

theorem parallel_limit (v : Variant) : Parallel (Hub.SameUpTo ρ agreed) Eq (limit v) (limit v) :=
  parallel_requireProvider.bind fun _ _ _ => parallel_queryLimit v

theorem parallel_refresh : Parallel (Hub.SameUpTo ρ agreed) Eq refresh refresh := by
  refine parallel_requireProvider.bind fun _ _ _ => parallel_queryStatus.bind ?_
  rintro topology _ rfl
  refine (parallel_modify fun h u images => images.know ?_).bind fun _ _ _ => parallel_pure rfl
  have := congrArg (fun f : Observed => { f.core with topology }) images.observed
  exact this

end Act

end DisplayHub
