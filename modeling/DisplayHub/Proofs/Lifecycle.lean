import DisplayHub.Proofs.Service

/-!
# Coming Up, Going Down and Making Displays

What every operation of the hub itself does to the holdings.

Coming up asks one collaborator after the other, and any of them can stop it.
All of them but the compositor deal nothing out, so only one question matters
for the holdings: whether the compositor had started by then. What was
acquired before is undone, but a compositor that started is not stopped again,
and `BootstrapHoldings` has a case of its own for that.

A display is created in three ways, which differ in what they ask first and in
nothing else. `CreateOutcome` forgets the difference. A display that could not be
brought into service is let go as it then is, with whatever it got on the way,
so creating one never leaves anything behind that nobody holds.

Destroying a display returns what it holds even where leaving service failed.
That is why `ground_decommission` says nothing about the answer.

## Main definitions

* `Stock.broughtUp`, `Stock.takenDown`: The stock of a hub that came up or went down.
* `Act.BootstrapHoldings`: How coming up ends.
* `Act.CreateOutcome`: How creating a display ends.

## Theorems

* `Act.bootstrapHoldings_bootstrap`: `BootstrapHoldings` leaves nothing out.
* `Act.created_create`, `Act.created_createByCode`, `Act.created_createById`:
  Nor does `CreateOutcome`.
* `Act.commission_cases`: A new display and what becomes of it.
* `Act.ground_decommission`: Destroying a display.
* `Act.setBandwidth_cases`, `Act.holds_refresh`: While the hub is up.
* `Hub.holdings_teardown`: Going down.
-/

namespace DisplayHub

/-- The stock of a hub that came up. -/
def Stock.broughtUp (c : Compositor) (resource : Resource) (s : Stock) : Stock :=
  { s with compositor := c, up := true, resource := some resource }

/-- The stock of a hub that was taken down. -/
def Stock.takenDown (s : Stock) : Stock :=
  { s with compositor := s.compositor.stop, up := false, resource := none }

namespace Act

/-! ### Coming up -/

/-- The compositor takes up work, or nothing changes but the records. -/
theorem takeUp_cases {resource : Resource} {extension : Option Extension} {h h' : Hub}
    {r : Except Stop Unit} (run : takeUp resource extension h = (r, h')) :
    (∃ stop, r = .error stop ∧ h'.ground = h.ground) ∨
      (r = .ok () ∧ ∃ c, h.compositor.start resource extension = .ok c ∧
        h'.ground = h.dealing c h.allocator) := by
  change (ofCompositor (h.compositor.start resource extension) >>= fun c => _) h = _ at run
  rcases bind_cases run with ⟨c, h₁, answered, rest⟩ | ⟨stop, refused, rfl⟩
  · rcases ofCompositor_cases answered with ⟨_, started, ⟨⟩, rfl⟩ | ⟨_, ⟨⟩, -⟩
    obtain ⟨rfl, rfl⟩ := Prod.mk.inj rest
    exact Or.inr ⟨rfl, c, started, rfl⟩
  · rcases ofCompositor_cases refused with ⟨_, -, ⟨⟩, -⟩ | ⟨f, ⟨⟩, same⟩
    exact Or.inl ⟨_, rfl, same⟩

/-- A call for the compositor to take up work ends in the same ways, or where a
    fault is set. -/
theorem startCompositor_cases {resource : Resource} {extension : Option Extension} {h h' : Hub}
    {r : Except Stop Unit} (run : startCompositor resource extension h = (r, h')) :
    (∃ stop, r = .error stop ∧ h'.ground = h.ground) ∨
      (r = .ok () ∧ ∃ c, h.compositor.start resource extension = .ok c ∧
        h'.ground = h.dealing c h.allocator) := by
  -- what the compositor was offered is in the records
  have offered : Keeps Hub.ground (do
      modify fun h : Hub => { h with offered := some extension.isSome }
      visit .startCompositor : Act Unit) :=
    (keeps_modify fun _ => by rfl).bind fun _ => keeps_visit _
  rcases offered.bind_cases run with ⟨_, h₁, same, rest⟩ | stopped
  · rcases takeUp_cases rest with ⟨stop, rfl, noted⟩ | ⟨rfl, c, started, dealt⟩
    · exact Or.inl ⟨stop, rfl, noted.trans same⟩
    · rw [Hub.compositor_of_ground same] at started
      rw [Hub.dealing_of_same same, Hub.allocator_of_ground same] at dealt
      exact Or.inr ⟨rfl, c, started, dealt⟩
  · exact Or.inl stopped

/-- Once the compositor has started, only the color service and the records
    change, and what was found out is passed on. -/
theorem finish_cases {resource : Resource} {h h' : Hub} {r : Except Stop (Resource × Topology)}
    (run : (tryColor resource >>= fun _ => tryStatus >>= fun topology =>
      ignoreBrokenPipe >>= fun _ =>
      note .info ("DisplayCore: initialized with " ++ toString topology.size
        ++ " displays in topology") >>= fun _ => pure (resource, topology) : Act _) h = (r, h')) :
    h'.holdings = h.holdings ∧ ((∃ stop, r = .error stop) ∨ ∃ t, r = .ok (resource, t)) := by
  rcases (holds_tryColor resource).bind_cases run with ⟨_, h₁, same, rest⟩ | ⟨stop, rfl, same⟩
  · rcases (holds_of_keeps keeps_tryStatus).bind_cases rest with
      ⟨topology, h₂, asked, rest⟩ | ⟨stop, rfl, asked⟩
    · rcases (holds_of_keeps keeps_ignoreBrokenPipe).bind_cases rest with
        ⟨_, h₃, ignored, rest⟩ | ⟨stop, rfl, ignored⟩
      · obtain ⟨rfl, rfl⟩ := Prod.mk.inj rest
        exact ⟨ignored.trans (asked.trans same), Or.inr ⟨topology, rfl⟩⟩
      · exact ⟨ignored.trans (asked.trans same), Or.inl ⟨stop, rfl⟩⟩
    · exact ⟨asked.trans same, Or.inl ⟨stop, rfl⟩⟩
  · exact ⟨same, Or.inl ⟨stop, rfl⟩⟩

/-- What the hub does once it has a provider starts the compositor, or leaves
    everything as it was. It can still stop after that. -/
theorem describe_cases {extension : Option Extension} {h h' : Hub}
    {r : Except Stop (Resource × Topology)} (run : describe extension h = (r, h')) :
    (∃ stop, r = .error stop ∧ h'.holdings = h.holdings) ∨
      ∃ resource c, h.compositor.start resource extension = .ok c ∧
        h'.holdings = (h.stock.dealing c h.allocator, h.slots) ∧
        ((∃ stop, r = .error stop) ∨ ∃ t, r = .ok (resource, t)) := by
  unfold describe at run
  rcases keeps_queryResource.bind_cases run with ⟨resource, h₁, same, rest⟩ | ⟨stop, rfl, same⟩
  · rcases (keeps_note _ _).bind_cases rest with ⟨_, h₂, noted, rest⟩ | ⟨stop, rfl, noted⟩
    · have untouched := noted.trans same
      rcases bind_cases rest with ⟨_, h₃, started, rest⟩ | ⟨stop, failed, rfl⟩
      · rcases startCompositor_cases started with ⟨_, ⟨⟩, -⟩ | ⟨-, c, began, dealt⟩
        rw [Hub.compositor_of_ground untouched] at began
        rw [Hub.dealing_of_same untouched, Hub.allocator_of_ground untouched] at dealt
        obtain ⟨kept, ending⟩ := finish_cases rest
        exact Or.inr ⟨resource, c, began, kept.trans (Hub.holdings_of_ground dealt), ending⟩
      · rcases startCompositor_cases failed with ⟨_, -, noted⟩ | ⟨⟨⟩, -⟩
        exact Or.inl ⟨stop, rfl, Hub.holdings_of_same (noted.trans untouched)⟩
    · exact Or.inl ⟨stop, rfl, Hub.holdings_of_same (noted.trans same)⟩
  · exact Or.inl ⟨stop, rfl, Hub.holdings_of_same same⟩

/-- How coming up ends. Nothing was dealt out, or the compositor started, and
    the hub is up only if nothing stopped it after that. -/
inductive BootstrapHoldings (h : Hub) : Except Stop Unit → Hub → Prop where
  | refused (stop : Stop) (h' : Hub) (same : h'.holdings = h.holdings) :
      BootstrapHoldings h (.error stop) h'
  | stopped (stop : Stop) (resource : Resource) (extension : Option Extension) (c : Compositor)
      (h' : Hub) (started : h.compositor.start resource extension = .ok c)
      (dealt : h'.holdings = (h.stock.dealing c h.allocator, h.slots)) :
      BootstrapHoldings h (.error stop) h'
  | up (resource : Resource) (extension : Option Extension) (c : Compositor) (h' : Hub)
      (started : h.compositor.start resource extension = .ok c)
      (dealt : h'.holdings = (h.stock.broughtUp c resource, h.slots)) :
      BootstrapHoldings h (.ok ()) h'

/-- It does not matter to how coming up ends what is noted before and after. -/
theorem BootstrapHoldings.between {h h₁ h₂ h' : Hub} {r : Except Stop Unit}
    (risen : BootstrapHoldings h₁ r h₂)
    (before : h₁.holdings = h.holdings) (after : h'.holdings = h₂.holdings) :
    BootstrapHoldings h r h' := by
  have stock : h₁.stock = h.stock := congrArg Prod.fst before
  have slots : h₁.slots = h.slots := congrArg Prod.snd before
  have compositor : h₁.compositor = h.compositor := congrArg Stock.compositor stock
  have allocator : h₁.allocator = h.allocator := congrArg Stock.allocator stock
  cases risen with
  | refused stop _ same => exact BootstrapHoldings.refused stop h' (after.trans (same.trans before))
  | stopped stop resource extension c _ started dealt =>
      rw [compositor] at started
      rw [stock, allocator, slots] at dealt
      exact BootstrapHoldings.stopped stop resource extension c h' started (after.trans dealt)
  | up resource extension c _ started dealt =>
      rw [compositor] at started
      rw [stock, slots] at dealt
      exact BootstrapHoldings.up resource extension c h' started (after.trans dealt)

/-- What the hub does once it knows whether there is an extension. -/
theorem bootstrapHoldings_assemble {extension : Option Extension} {h h' : Hub}
    {r : Except Stop Unit} (run : assemble extension h = (r, h')) : BootstrapHoldings h r h' := by
  unfold assemble at run
  rcases (keeps_noteExtension extension).bind_cases run with
    ⟨_, h₁, noted, rest⟩ | ⟨stop, rfl, noted⟩
  · rcases keeps_createProvider.bind_cases rest with
      ⟨provider, h₂, created, rest⟩ | ⟨stop, rfl, created⟩
    · refine BootstrapHoldings.between ?_ (Hub.holdings_of_same (created.trans noted)) rfl
      rcases bind_cases rest with ⟨found, h₃, described, last⟩ | ⟨stop, aborted, rfl⟩
      · rcases onStop_cases described with ⟨_, described, ⟨⟩⟩ | ⟨_, _, -, ⟨⟩, -⟩
        rcases describe_cases described with ⟨_, ⟨⟩, -⟩ | ⟨resource, c, started, dealt, ending⟩
        rcases ending with ⟨_, ⟨⟩⟩ | ⟨t, ⟨⟩⟩
        obtain ⟨rfl, rfl⟩ := Prod.mk.inj last
        -- the core is written last, when everything is there
        refine BootstrapHoldings.up resource extension c _ started ?_
        have stock : h₃.stock = h₂.stock.dealing c h₂.allocator := congrArg Prod.fst dealt
        have compositor : h₃.compositor = c := congrArg Stock.compositor stock
        have slots : h₃.slots = h₂.slots := congrArg Prod.snd dealt
        change (h₃.stock.broughtUp h₃.compositor resource, h₃.slots) = _
        rw [compositor, stock, slots]
        rfl
      · rcases onStop_cases aborted with ⟨_, -, ⟨⟩⟩ | ⟨_, h₃, described, ⟨⟩, rfl⟩
        -- releasing the provider does not stop a compositor that started
        have undone := Hub.holdings_of_same (Hub.ground_abandonProvider provider h₃)
        rcases describe_cases described with ⟨_, ⟨⟩, same⟩ | ⟨resource, c, started, dealt, -⟩
        · exact BootstrapHoldings.refused stop _ (undone.trans same)
        · exact BootstrapHoldings.stopped stop resource extension c _ started (undone.trans dealt)
    · exact BootstrapHoldings.refused stop h' (Hub.holdings_of_same (created.trans noted))
  · exact BootstrapHoldings.refused stop h' (Hub.holdings_of_same noted)

/-- Bringing the hub up ends in one of these ways, and one that is up already
    is left as it is. -/
theorem bootstrapHoldings_bootstrap {h h' : Hub} {r : Except Stop Unit}
    (run : bootstrap h = (r, h')) : BootstrapHoldings h r h' := by
  unfold bootstrap at run
  change ite (h.initialized = true) (note _ _ >>= fun _ => fail .parameters >>= _)
    (loadExtension >>= fun extension => onStop (Hub.letGo? extension) (assemble extension)) h
    = _ at run
  by_cases up : h.initialized = true
  · -- a hub that is up asks nobody
    rw [if_pos up] at run
    obtain ⟨rfl, rfl⟩ := Prod.mk.inj run
    exact BootstrapHoldings.refused _ _ rfl
  · rw [if_neg up] at run
    rcases keeps_loadExtension.bind_cases
      run with ⟨extension, h₁, loaded, rest⟩ | ⟨stop, rfl, loaded⟩
    · rcases onStop_cases rest with ⟨_, assembled, rfl⟩ | ⟨stop, u, assembled, rfl, rfl⟩
      · exact (bootstrapHoldings_assemble assembled).between (Hub.holdings_of_same loaded) rfl
      · exact (bootstrapHoldings_assemble assembled).between (Hub.holdings_of_same loaded)
          (Hub.holdings_of_same (Hub.ground_letGo? extension u))
    · exact BootstrapHoldings.refused stop h' (Hub.holdings_of_same loaded)

/-! ### Up and running -/

/-- A fresh report is remembered, and that is no part of the holdings. -/
theorem holds_refresh : Keeps Hub.holdings refresh :=
  (holds_of_keeps keeps_requireProvider).bind fun _ =>
    (holds_of_keeps keeps_queryStatus).bind fun _ =>
    (keeps_modify fun _ => by rfl).bind fun _ => keeps_pure _

/-- A policy for bandwidth is chosen, or nothing changes but the records. -/
theorem setBandwidth_cases {mode : BandwidthMode} {h h' : Hub} {r : Except Stop Unit}
    (run : setBandwidth mode h = (r, h')) :
    h'.holdings = h.holdings ∨ ∃ c, h.compositor.setMode mode = .ok c ∧
      h'.holdings = (h.stock.dealing c h.allocator, h.slots) := by
  rcases (keeps_visit .setBandwidth).bind_cases run with ⟨_, h₁, same, rest⟩ | ⟨stop, -, same⟩
  · change (ofCompositor (h₁.compositor.setMode mode) >>= fun c => _) h₁ = _ at rest
    rcases bind_cases rest with ⟨c, h₂, answered, last⟩ | ⟨stop, refused, rfl⟩
    · rcases ofCompositor_cases answered with ⟨_, chosen, ⟨⟩, rfl⟩ | ⟨_, ⟨⟩, -⟩
      obtain ⟨rfl, rfl⟩ := Prod.mk.inj last
      rw [Hub.compositor_of_ground same] at chosen
      refine Or.inr ⟨c, chosen, Hub.holdings_of_ground ?_⟩
      rw [← Hub.dealing_of_same same, ← Hub.allocator_of_ground same]
      rfl
    · rcases ofCompositor_cases refused with ⟨_, -, ⟨⟩, -⟩ | ⟨f, ⟨⟩, noted⟩
      exact Or.inl (Hub.holdings_of_same (noted.trans same))
  · exact Or.inl (Hub.holdings_of_same same)

/-! ### Displays -/

/-- A new display comes into service, or is let go as it then is. -/
theorem commission_cases {d : Display} {v : Variant} {id : Option Int32} {h h' : Hub}
    {r : Except Stop Display} (run : commission d v id h = (r, h')) :
    (∃ e g, Serve.BringUpOutcome d h (.ok ()) e g ∧ r = .ok e ∧ h'.ground = g.ground) ∨
      ∃ stop e g, Serve.BringUpOutcome d h (.error stop) e g ∧ r = .error stop ∧
        h'.ground = (e.drop g).ground := by
  unfold commission at run
  rcases ending : Serve.bringUp (d, h) with ⟨answer, e, g⟩
  have raised := Serve.bringUpOutcome_bringUp ending
  rw [ending] at run
  -- a failure is noted before the display is let go, a collapse is not
  rcases answer with (f | _) | _
  · obtain ⟨rfl, rfl⟩ := Prod.mk.inj run
    refine Or.inr ⟨_, e, g, raised, rfl, ?_⟩
    rw [e.ground_drop, e.ground_drop]
    rfl
  · obtain ⟨rfl, rfl⟩ := Prod.mk.inj run
    exact Or.inr ⟨_, e, g, raised, rfl, rfl⟩
  · obtain ⟨rfl, rfl⟩ := Prod.mk.inj run
    exact Or.inl ⟨e, g, raised, rfl, rfl⟩

/-- What the three ways to create a display have in common. They turn the
    request down, or bring a new display into service. -/
inductive CreateOutcome (h : Hub) : Except Stop Display → Hub → Prop where
  | refused (stop : Stop) (h' : Hub) (same : h'.ground = h.ground) : CreateOutcome h
      (.error stop) h'
  | tried (v : Variant) (id : Option Int32) (handler : Handler) (provider : Option Nat)
      (r : Except Stop Display) (h' : Hub)
      (run : commission (.fresh v id handler provider) v id h = (r, h')) : CreateOutcome h r h'

theorem created_construct {v : Variant} {id : Option Int32} {handler : Handler} {h h' : Hub}
    {r : Except Stop Display} (run : construct v id handler h = (r, h')) :
    CreateOutcome h r h' := by
  unfold construct at run
  rw [get_bind] at run
  cases up : h.core.provider with
  | none =>
      rw [up] at run
      obtain ⟨rfl, rfl⟩ := Prod.mk.inj run
      exact CreateOutcome.refused _ _ rfl
  | some provider =>
      rw [up] at run
      exact CreateOutcome.tried v id handler (some provider) r h' run

theorem created_create {v : Variant} {handler : Option Handler} {h h' : Hub}
    {r : Except Stop Display} (run : create v handler h = (r, h')) : CreateOutcome h r h' := by
  cases handler with
  | none =>
      obtain ⟨rfl, rfl⟩ := Prod.mk.inj run
      exact CreateOutcome.refused _ _ rfl
  | some handler => exact created_construct run

theorem created_createByCode {code : Int32} {handler : Option Handler} {h h' : Hub}
    {r : Except Stop Display} (run : createByCode code handler h = (r, h')) :
    CreateOutcome h r h' := by
  cases handler with
  | none =>
      obtain ⟨rfl, rfl⟩ := Prod.mk.inj run
      exact CreateOutcome.refused _ _ rfl
  | some handler =>
      unfold createByCode requireHandler at run
      dsimp only at run
      rw [return_bind] at run
      cases known : Variant.ofCode code with
      | none =>
          rw [known] at run
          obtain ⟨rfl, rfl⟩ := Prod.mk.inj run
          exact CreateOutcome.refused _ _ rfl
      | some v =>
          rw [known] at run
          exact created_construct run

theorem created_createById {id : Int32} {handler : Option Handler} {h h' : Hub}
    {r : Except Stop Display} (run : createById id handler h = (r, h')) : CreateOutcome h r h' := by
  cases handler with
  | none =>
      obtain ⟨rfl, rfl⟩ := Prod.mk.inj run
      exact CreateOutcome.refused _ _ rfl
  | some handler =>
      unfold createById requireHandler at run
      dsimp only at run
      rw [return_bind] at run
      rw [get_bind] at run
      cases found : h.core.topology.find? id with
      | none =>
          rw [found] at run
          obtain ⟨rfl, rfl⟩ := Prod.mk.inj run
          exact CreateOutcome.refused _ _ rfl
      | some entry =>
          rw [found] at run
          exact created_construct run

/-- A display that is destroyed returns what it holds, whatever is answered. -/
theorem ground_decommission (d : Display) (h : Hub) : (decommission d h).2.ground =
    h.dealing (d.release h.compositor) (d.vacate h.allocator) := by
  unfold decommission
  rcases ending : Serve.takeDown (d, h) with ⟨answer, e, g⟩
  rcases Serve.takeDown_cases ending with ⟨f, rfl, rfl, same⟩ | ⟨rfl, -, rfl, dealt⟩
  · -- it is still what it was, and returns everything now
    have dropped := e.ground_drop g
    rw [Hub.dealing_of_same same, Hub.compositor_of_ground same,
      Hub.allocator_of_ground same] at dropped
    exact dropped
  · -- it returned everything on leaving service, and nothing is left
    have dropped := d.shelved.ground_drop g
    rw [Hub.dealing_of_ground dealt, Hub.compositor_of_ground dealt,
      Hub.allocator_of_ground dealt, Display.vacate_shelved] at dropped
    exact dropped

end Act

namespace Hub

/-! ### Going down -/

theorem ground_leave (h : Hub) :
    h.leave.ground = h.dealing h.compositor.stop h.allocator := by
  unfold leave
  dsimp only
  rw [ground_note, ground_letGo?]
  split <;> rfl

/-- Without its provider and its core the hub knows nothing of the hardware. -/
theorem ground_clear (h : Hub) :
    h.dismissProvider.clearCore.ground = { h.ground with core := {} } := by
  unfold clearCore
  dsimp only
  rw [ground_letGo?]
  unfold dismissProvider
  split <;> rfl

theorem holdings_clear (h : Hub) : h.dismissProvider.clearCore.holdings =
    ({ h.stock with up := false, resource := none }, h.slots) :=
  Hub.told_of_ground holdings (ground_clear h) rfl rfl

/-- Taking the hub down revokes every token and lets everybody keep what they
    have. -/
theorem holdings_teardown (h : Hub) : h.teardown.holdings = (h.stock.takenDown, h.slots) := by
  -- the color service goes first, and nobody holds anything of it
  have stopped : h.disableColor.stopCompositor.holdings =
      (h.stock.dealing h.compositor.stop h.allocator, h.slots) := by
    refine (holdings_of_ground (ground_leave _)).trans ?_
    unfold disableColor darken
    split <;> rfl
  refine (holdings_clear h.disableColor.stopCompositor).trans ?_
  change ({ h.disableColor.stopCompositor.holdings.1 with up := false, resource := none },
    h.disableColor.stopCompositor.holdings.2) = _
  rw [stopped]
  rfl

end Hub

end DisplayHub
