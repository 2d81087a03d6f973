import DisplayHub.Proofs.Creation
import DisplayHub.Proofs.Report

/-!
# Admission

Which displays are created, and as what.

A display that is asked for by its number was seen in the last report, and that
report may be out of date. Its kind comes from there, and nothing else does: the
display looks for its entry in a report that is made on the spot, and whether it
is in service afterwards depends on that one. A display of a kind does the same
without a number in mind. Only an off-screen display without a number looks for
nothing, since there is nothing that it would drive.

After that the allocator is asked, if the display is off-screen, and the
compositor at last. `Hub.admission` asks the three in this order, each as the hub
found it. It may do so because none of them changes what the next one answers
from: a report changes the files, a buffer the allocator, and a token the
compositor. What is answered decides alone whether there is a display
(`Act.commission_of_error`, `Act.commission_of_ok`).

So a number that is out of date gives no wrong display. Either the entry is still
there, of the same kind and connected where it has to be, or there is none.

## Main definitions

* `Hub.finding`, `Hub.roomAnswer`, `Hub.tokenAnswer`: What the three answer.
* `Hub.admission`: The first of them to stop, or the entry that was found.
* `Hub.Admits`: What a display is once it was created, and what that left behind.
* `Hub.CollaboratorStops`: A collaborator that fails for a reason of its own.
* `Hub.CreatedAsReported`: What a display that was created can be relied on for.

## Theorems

* `Act.commission_of_error`, `Act.commission_of_ok`: The answers decide.
* `Act.createById_parameters_iff`: When a number is turned down.
* `Act.createdAsReported_fulfil`: No display is created from an old report alone.
-/

namespace DisplayHub

/-- The entry that a display of a kind drives: the one with its number, or one
    that is chosen for it. It has to be connected unless it is off-screen. -/
def Topology.entryFor (t : Topology) (v : Variant) (id : Option Int32) : Except Failure Entry :=
  match id with
  | some id => Display.chooseBound v (v ≠ .offscreen) id t
  | none => Display.chooseUnbound v (v ≠ .offscreen) t

namespace Hub

/-! ### What is answered -/

/-- What the provider answers to a display that looks for its entry. One that is
    off-screen and has no number does not look. -/
def finding (h : Hub) (v : Variant) (id : Option Int32) : Except Stop (Option Entry) :=
  if v = .offscreen ∧ id = none then .ok none
  else match h.report with
    | .error stop => .error stop
    | .ok t => match t.entryFor v id with
      | .error f => .error (.failure f)
      | .ok entry => .ok (some entry)

/-- What the allocator answers to an off-screen display. -/
def roomAnswer (h : Hub) : Except Stop Buffer :=
  match h.allocator.allocate Display.writebackSize true with
  | .refused f => .error (.failure f)
  | .granted buffer _ => .ok buffer
  | .collapsed _ | .aborted => .error .collapse

/-- What the compositor answers to a display that asks for its token. -/
def tokenAnswer (h : Hub) (v : Variant) (id : Option Int32) : Except Stop Nat :=
  match h.barred .register with
  | .error stop => .error stop
  | .ok () => match h.compositor.refusal? v id with
    | some refusal => .error (.failure refusal.failure)
    | none => .ok h.compositor.nextToken

/-- What becomes of the wish for a display: the first collaborator to stop
    decides, and otherwise there is an entry, or none to look for. -/
def admission (h : Hub) (v : Variant) (id : Option Int32) : Except Stop (Option Entry) := do
  let entry ← h.finding v id
  if v = .offscreen then
    let _ ← h.roomAnswer
  let _ ← h.tokenAnswer v (entry.map (·.id))
  return entry

/-- What a display is once it was created, and what that left behind. -/
structure Admits (h : Hub) (v : Variant) (entry : Option Entry) (d : Display) (h' : Hub) :
    Prop where
  variant : d.variant = v
  id : d.id = entry.map (·.id)
  named : d.NameAgrees
  token : d.token = some h.compositor.nextToken
  power : d.power = .off
  free : d.stuck = none
  writeback : d.writeback?.isSome = decide (v = .offscreen)
  allowed : h.compositor.refusal? v d.id = none
  /-- The hardware was asked if there was an entry to find, and the compositor
      last. -/
  logged : h.Logged 0 0
    ((if entry.isSome then [.call .queryStatus] else []) ++ [.call .register]) h'
  ground : h'.ground = h.dealing (h.compositor.grant v d.id)
    (if v = .offscreen then h.allocator.issue else h.allocator)
  reportInputs : h'.reportInputs = (if entry.isSome then h.asked else h).reportInputs

variable {h u : Hub} {v : Variant} {id : Option Int32}

/-- Where nothing else is dealt out, the compositor answers the same. -/
theorem tokenAnswer_of_ground {a : Allocator} (dealt : u.ground = h.dealing h.compositor a)
    (v : Variant) (id : Option Int32) : u.tokenAnswer v id = h.tokenAnswer v id := by
  unfold tokenAnswer barred
  rw [faults_of_ground dealt, compositor_of_ground dealt]

theorem roomAnswer_of_ground (same : u.ground = h.ground) : u.roomAnswer = h.roomAnswer := by
  unfold roomAnswer
  rw [allocator_of_ground (same.trans rfl : _ = h.dealing h.compositor h.allocator)]

theorem refusal?_of_tokenAnswer {token : Nat} (answer : h.tokenAnswer v id = .ok token) :
    h.compositor.refusal? v id = none ∧ token = h.compositor.nextToken := by
  unfold tokenAnswer at answer
  revert answer
  cases h.barred .register with
  | error stop => exact nofun
  | ok _ =>
      dsimp only
      cases h.compositor.refusal? v id with
      | some refusal => exact nofun
      | none =>
          rintro ⟨⟩
          exact ⟨rfl, rfl⟩

end Hub

namespace Act

/-- The compositor answers, and deals out what it grants. -/
theorem register_apply (v : Variant) (id : Option Int32) (h : Hub) : ∃ h',
    register v id h = (h.tokenAnswer v id, h') ∧ h.Logged 0 0 [.call .register] h' ∧
      h'.storage = h.storage ∧ h'.ground = match h.tokenAnswer v id with
        | .error _ => h.ground
        | .ok _ => h.dealing (h.compositor.grant v id) h.allocator := by
  have called := Hub.onlyLogged_recordCall .register h
  unfold register Hub.tokenAnswer
  rw [bind_apply, visit_barred]
  -- whoever bars the call, it was made
  cases h.barred .register with
  | error stop => exact ⟨_, rfl, called.toLogged, rfl, rfl⟩
  | ok _ =>
      dsimp only
      unfold grant Compositor.register
      rw [get_bind]
      change ∃ h', (ofCompositor (match h.compositor.refusal? v id with
        | some r => .error r
        | none => .ok (h.compositor.nextToken, h.compositor.grant v id)) >>= fun granted =>
          _ : Act Nat) _ = _ ∧ _
      cases h.compositor.refusal? v id with
      | none =>
          have noted := called.toLogged.note .debug ("ResourceCompManager: registered "
            ++ v.word ++ " display " ++ idText id ++ " as "
            ++ Compositor.tokenText h.compositor.nextToken)
          exact ⟨_, rfl, noted.same rfl rfl rfl, rfl, rfl⟩
      | some refusal =>
          unfold ofCompositor
          dsimp only
          cases refusal.warning? with
          | none => exact ⟨_, rfl, called.toLogged, rfl, rfl⟩
          | some text => exact ⟨_, rfl, called.toLogged.note .warn text, rfl, rfl⟩

/-- The allocator answers, and counts what it hands out. -/
theorem allocate_apply (h : Hub) : ∃ h',
    allocate Display.writebackSize h = (h.roomAnswer, h') ∧ h.Logged 0 0 [] h' ∧
      h'.storage = h.storage ∧ h'.ground = match h.roomAnswer with
        | .error _ => h.ground
        | .ok _ => h.dealing h.compositor h.allocator.issue := by
  have noted := Hub.onlyLogged_noteAll (h.allocator.allocationNotes Display.writebackSize) h
  unfold allocate Hub.roomAnswer
  rw [get_bind, modify_bind, Allocator.allocate_of_block _ (by decide) (by decide)]
  by_cases full : h.allocator.limit < Display.writebackSize
  · rw [if_pos full]
    exact ⟨_, rfl, noted.toLogged, rfl, rfl⟩
  · rw [if_neg full]
    exact ⟨_, rfl, noted.toLogged.same rfl rfl rfl, rfl, rfl⟩

end Act

namespace Hub

variable {h : Hub} {v : Variant} {id : Option Int32}

theorem finding_of_looks (looks : ¬ (v = .offscreen ∧ id = none)) : h.finding v id =
    match h.report with
    | .error stop => .error stop
    | .ok t => match t.entryFor v id with
      | .error f => .error (.failure f)
      | .ok entry => .ok (some entry) :=
  if_neg looks

theorem admission_of_panel (panel : v ≠ .offscreen) : h.admission v id = match h.finding v id with
    | .error stop => .error stop
    | .ok entry => (h.tokenAnswer v (entry.map (·.id))).map fun _ => entry := by
  unfold admission
  cases h.finding v id with
  | error stop => rfl
  | ok entry =>
      change (ite (v = .offscreen) _ (h.tokenAnswer v (entry.map (·.id)) >>= fun _ =>
        pure entry) : Except Stop _) = Except.map _ _
      rw [if_neg panel]
      cases h.tokenAnswer v (entry.map (·.id)) <;> rfl

theorem admission_of_offscreen : h.admission .offscreen id = match h.finding .offscreen id with
    | .error stop => .error stop
    | .ok entry => match h.roomAnswer with
      | .error stop => .error stop
      | .ok _ => (h.tokenAnswer .offscreen (entry.map (·.id))).map fun _ => entry := by
  unfold admission
  cases h.finding .offscreen id with
  | error stop => rfl
  | ok entry =>
      cases room : h.roomAnswer with
      | error stop => rfl
      | ok buffer =>
          change (h.tokenAnswer .offscreen (entry.map (·.id)) >>= fun _ =>
            pure entry : Except Stop _) = Except.map _ _
          cases h.tokenAnswer .offscreen (entry.map (·.id)) <;> rfl

end Hub

namespace Topology

variable {t : Topology} {v : Variant} {id : Option Int32} {e : Entry}

theorem chooseBound_eq_ok_iff {connected : Bool} {k : Int32} :
    Display.chooseBound v connected k t = .ok e ↔
      t.find? k = some e ∧ e.variant = v ∧ (connected = true → e.connected = true) := by
  unfold Display.chooseBound
  cases found : t.find? k with
  | none => simp
  | some a =>
      -- it is of another kind, or nothing is plugged into it, or it is chosen
      dsimp only
      by_cases other : a.variant ≠ v
      · rw [if_pos other]
        simp only [reduceCtorEq, Option.some.injEq, false_iff]
        rintro ⟨rfl, same, -⟩
        exact other same
      · rw [if_neg other]
        rw [ne_eq, Decidable.not_not] at other
        by_cases apart : (connected && !a.connected) = true
        · rw [if_pos apart]
          simp only [Bool.and_eq_true, Bool.not_eq_eq_eq_not, Bool.not_true] at apart
          simp only [reduceCtorEq, Option.some.injEq, false_iff]
          rintro ⟨rfl, -, joined⟩
          rw [joined apart.1] at apart
          nomatch apart.2
        · rw [if_neg apart]
          simp only [Bool.and_eq_true, Bool.not_eq_eq_eq_not, Bool.not_true, not_and,
            Bool.not_eq_false] at apart
          constructor
          · rintro ⟨⟩
            exact ⟨rfl, other, apart⟩
          · rintro ⟨⟨⟩, -, -⟩
            rfl

/-- What cannot be chosen is the hardware's fault. -/
theorem chooseBound_error {connected : Bool} {k : Int32} {f : Failure}
    (refused : Display.chooseBound v connected k t = .error f) : ∃ text, f = .hardware text := by
  unfold Display.chooseBound at refused
  revert refused
  cases t.find? k with
  | none =>
      rintro ⟨⟩
      exact ⟨_, rfl⟩
  | some a =>
      dsimp only
      split
      · rintro ⟨⟩
        exact ⟨_, rfl⟩
      · split
        · rintro ⟨⟩
          exact ⟨_, rfl⟩
        · exact nofun

/-- An entry that is chosen is in the report, of the kind that is asked for, and
    connected if it has to be. -/
theorem entryFor_ok (found : t.entryFor v id = .ok e) : t.find? e.id = some e ∧ e.variant = v ∧
    (v ≠ .offscreen → e.connected = true) ∧ ∀ k, id = some k → e.id = k := by
  cases id with
  | some k =>
      obtain ⟨there, kind, joined⟩ := chooseBound_eq_ok_iff.mp found
      obtain ⟨-, rfl⟩ := find?_eq_some_iff.mp there
      refine ⟨there, kind, fun panel => joined (decide_eq_true panel), ?_⟩
      rintro _ ⟨⟩
      rfl
  | none =>
      change Display.chooseUnbound v (decide (v ≠ .offscreen)) t = _ at found
      unfold Display.chooseUnbound at found
      have suited : e ∈ t.entries ∧ Display.suits v (decide (v ≠ .offscreen)) e = true := by
        -- the primary one comes first, and any other one after it
        cases primary : t.entries.find? fun e =>
            Display.suits v (decide (v ≠ .offscreen)) e && e.primary with
        | some a =>
            rw [primary] at found
            obtain rfl := Except.ok.inj found
            have both := List.find?_some primary
            rw [Bool.and_eq_true] at both
            exact ⟨List.mem_of_find?_eq_some primary, both.1⟩
        | none =>
            cases other : t.entries.find? (Display.suits v (decide (v ≠ .offscreen))) with
            | none =>
                rw [primary, other] at found
                nomatch found
            | some a =>
                rw [primary, other] at found
                obtain rfl := Except.ok.inj found
                exact ⟨List.mem_of_find?_eq_some other, List.find?_some other⟩
      obtain ⟨member, fits⟩ := suited
      unfold Display.suits at fits
      rw [Bool.and_eq_true, decide_eq_true_eq] at fits
      refine ⟨find?_eq_some_iff.mpr ⟨member, rfl⟩, fits.1, fun panel => ?_, nofun⟩
      simpa [panel] using fits.2

end Topology

namespace Serve

variable {d : Display} {h : Hub}

theorem resolve_apply (connected : Bool) (d : Display) (h : Hub) :
    resolve connected (d, h) = match h.report with
      | .error stop => (.error stop, d, h.asked)
      | .ok t => match d.choose connected t with
        | .ok entry => (.ok entry, d.bind entry.id, h.asked)
        | .error f => (.error (.failure f), d, h.asked) := by
  have asked : onHub Act.queryStatus (d, h) = (h.report, d, h.asked) := rfl
  unfold resolve
  rw [bind_apply, asked]
  cases h.report with
  | error stop => rfl
  | ok t =>
      dsimp only
      rw [display_bind]
      cases d.choose connected t <;> rfl

/-- A display without a token gets what the compositor answers. -/
theorem register_apply {v : Variant} {id : Option Int32} (kind : d.variant = v)
    (number : d.id = id) (idle : d.token = none) (h : Hub) : ∃ h',
    register (d, h) = (match h.tokenAnswer v id with
      | .error stop => (.error stop, d, h')
      | .ok token => (.ok (), { d with token := some token }, h')) ∧
      h.Logged 0 0 [.call .register] h' ∧ h'.storage = h.storage ∧
      h'.ground = match h.tokenAnswer v id with
        | .error _ => h.ground
        | .ok _ => h.dealing (h.compositor.grant v id) h.allocator := by
  obtain ⟨u, ran, logged, storage, ground⟩ := Act.register_apply v id h
  have resting : ¬ d.initialized = true := by
    unfold Display.initialized
    rw [idle]
    exact Bool.false_ne_true
  -- the compositor is asked about the display as it is
  have asked : onHub (Act.register d.variant d.id) (d, h) = (h.tokenAnswer v id, d, u) := by
    change ((Act.register d.variant d.id h).1, d, (Act.register d.variant d.id h).2) = _
    rw [kind, number, ran]
  unfold register
  change ∃ h', (ite (d.initialized = true) (fail .parameters >>= _)
    (onHub (Act.register d.variant d.id) >>= fun token => _) : Serve Unit) (d, h) = _ ∧ _
  rw [if_neg resting, bind_apply, asked]
  cases answer : h.tokenAnswer v id with
  | error stop =>
      rw [answer] at ground
      exact ⟨u, rfl, logged, storage, ground⟩
  | ok token =>
      rw [answer] at ground
      exact ⟨_, rfl, logged.note .info ("Display " ++ d.name ++ ": initialized"), storage, ground⟩

end Serve

namespace Hub

variable {h u g : Hub} {v : Variant} {entry : Option Entry} {d : Display}

/-- What a display is before it asks for its token, and what that left behind: it is
    bound to what was found, and has its buffer if it is off-screen. -/
structure Ready (h : Hub) (v : Variant) (entry : Option Entry) (d : Display) (u : Hub) :
    Prop where
  variant : d.variant = v
  id : d.id = entry.map (·.id)
  named : d.NameAgrees
  idle : d.token = none
  power : d.power = .off
  free : d.stuck = none
  writeback : d.writeback?.isSome = decide (v = .offscreen)
  logged : h.Logged 0 0 (if entry.isSome then [.call .queryStatus] else []) u
  ground : u.ground = h.dealing h.compositor
    (if v = .offscreen then h.allocator.issue else h.allocator)
  reportInputs : u.reportInputs = (if entry.isSome then h.asked else h).reportInputs

/-- A panel that was admitted remembers its entry, and that may be noted. -/
theorem Admits.remember (admits : h.Admits v entry d u) (noted : u.OnlyLogged 0 0 [] g)
    (panel : v ≠ .offscreen) (e : Entry) :
    h.Admits v entry { d with body := (Body.fresh v).served e } g where
  variant := (Body.variant_served e _).trans (Body.variant_fresh v)
  id := admits.id
  named := by
    have same : ((Body.fresh v).served e).variant = d.variant :=
      ((Body.variant_served e _).trans (Body.variant_fresh v)).trans admits.variant.symm
    exact admits.named.trans (congrArg (Variant.displayName · d.id) same.symm)
  token := admits.token
  power := admits.power
  free := admits.free
  writeback := by
    rw [decide_eq_false panel]
    cases v <;> rfl
  allowed := admits.allowed
  logged := by
    have all := admits.logged.trans noted.toLogged
    rwa [List.append_nil] at all
  ground := noted.ground.trans admits.ground
  reportInputs := (congrArg Prod.fst noted.reportInputsAndCore).trans admits.reportInputs

end Hub

/-- How a new display comes into service, or does not, by what is answered. -/
def Hub.CommissionOutcome (h : Hub) (v : Variant) (id : Option Int32) (r : Except Stop Unit)
    (e : Display) (g : Hub) : Prop :=
  match h.admission v id with
  | .error stop => r = .error stop
  | .ok entry => r = .ok () ∧ h.Admits v entry e g

namespace Serve

variable {h : Hub} {v : Variant} {id : Option Int32} {handler : Handler} {provider : Option Nat}

theorem variant_fresh : (Display.fresh v id handler provider).variant = v :=
  Body.variant_fresh v

/-- A new display looks for the entry that it is meant for. -/
theorem choose_fresh (t : Topology) :
    (Display.fresh v id handler provider).choose (v ≠ .offscreen) t = t.entryFor v id := by
  unfold Display.choose Topology.entryFor
  rw [variant_fresh]
  rfl

/-- It is bound to what it found. -/
theorem bind_fresh {t : Topology} {entry : Entry} (found : t.entryFor v id = .ok entry) :
    (Display.fresh v id handler provider).bind entry.id =
      .fresh v (some entry.id) handler provider := by
  obtain ⟨-, -, -, named⟩ := Topology.entryFor_ok found
  cases id with
  | none =>
      unfold Display.bind
      rw [variant_fresh]
      rfl
  | some k =>
      rw [named k rfl]
      rfl

/-- A display that is ready is registered, or the compositor stops it. -/
theorem register_of_ready {entry : Option Entry} {d : Display} {u : Hub}
    (ready : h.Ready v entry d u) : ∃ r e g, register (d, u) = (r, e, g) ∧
      match h.tokenAnswer v (entry.map (·.id)) with
      | .error stop => r = .error stop
      | .ok _ => r = .ok () ∧ h.Admits v entry e g := by
  obtain ⟨g, ran, called, storage, dealt⟩ :=
    register_apply ready.variant ready.id ready.idle u
  rw [Hub.tokenAnswer_of_ground ready.ground] at ran dealt
  cases answer : h.tokenAnswer v (entry.map (·.id)) with
  | error stop =>
      rw [answer] at ran
      exact ⟨_, _, _, ran, rfl⟩
  | ok token =>
      obtain ⟨allowed, rfl⟩ := Hub.refusal?_of_tokenAnswer answer
      rw [answer] at ran dealt
      dsimp only at dealt
      have same : g.reportInputs = u.reportInputs := Hub.reportInputs_of_ground dealt storage
      -- what the display has so far was dealt out on the ground of the first hub
      rw [Hub.dealing_of_ground ready.ground, Hub.compositor_of_ground ready.ground,
        Hub.allocator_of_ground ready.ground] at dealt
      refine ⟨_, _, _, ran, rfl, ?_⟩
      exact {
        variant := ready.variant
        id := ready.id
        named := ready.named
        token := rfl
        power := ready.power
        free := ready.free
        writeback := ready.writeback
        allowed := ready.id ▸ allowed
        logged := ready.logged.trans called
        ground := ready.id ▸ dealt
        reportInputs := same.trans ready.reportInputs }

/-- The kinds with a panel ask the hardware and then the compositor. -/
theorem commissionOutcome_panel {rest : Entry → Serve Unit} (panel : v ≠ .offscreen)
    (cachesLatest : ∀ (entry : Entry) (u : Display) (g : Hub), ∃ g', g.OnlyLogged 0 0 [] g' ∧
      rest entry (u, g) = (.ok (), { u with body := (Body.fresh v).served entry }, g')) :
    ∃ r e g, (resolve true >>= fun entry => register >>= fun _ => rest entry)
      (.fresh v id handler provider, h) = (r, e, g) ∧ h.CommissionOutcome v id r e g := by
  have chosen (t : Topology) :
      (Display.fresh v id handler provider).choose true t = t.entryFor v id := by
    rw [← choose_fresh, decide_eq_true panel]
  unfold Hub.CommissionOutcome
  rw [Hub.admission_of_panel panel, bind_apply, resolve_apply]
  rw [Hub.finding_of_looks fun both => panel both.1]
  cases report : h.report with
  | error stop => exact ⟨_, _, _, rfl, rfl⟩
  | ok t =>
      dsimp only
      rw [chosen]
      cases found : t.entryFor v id with
      | error f => exact ⟨_, _, _, rfl, rfl⟩
      | ok entry =>
          -- asking the hardware dealt nothing out
          have ready : h.Ready v (some entry) (.fresh v (some entry.id) handler provider)
              h.asked := {
            variant := variant_fresh
            id := rfl
            named := Display.nameAgrees_fresh v _ handler provider
            idle := rfl
            power := rfl
            free := rfl
            writeback := by
              rw [decide_eq_false panel]
              cases v <;> rfl
            logged := h.logged_asked
            ground := by
              rw [if_neg panel]
              exact h.ground_asked
            reportInputs := rfl }
          obtain ⟨r, e, g, ran, settled⟩ := register_of_ready ready
          dsimp only
          rw [bind_fresh found, bind_apply, ran]
          cases answer : h.tokenAnswer v ((some entry).map (·.id)) with
          | error stop =>
              rw [answer] at settled
              obtain rfl : r = .error stop := settled
              exact ⟨_, _, _, rfl, rfl⟩
          | ok granted =>
              rw [answer] at settled
              obtain ⟨rfl, admits⟩ := settled
              obtain ⟨g', noted, done⟩ := cachesLatest entry e g
              dsimp only
              rw [done]
              exact ⟨_, _, _, rfl, rfl, admits.remember noted panel entry⟩

/-- What an off-screen display asks for once it found its entry, if it has one:
    a buffer, and then a token. -/
theorem commissionOutcome_room (entry : Option Entry) {u : Hub} (same : u.ground = h.ground)
    (logged : h.Logged 0 0 (if entry.isSome then [.call .queryStatus] else []) u)
    (reportInputs : u.reportInputs = (if entry.isSome then h.asked else h).reportInputs)
    (found : h.finding .offscreen id = .ok entry) :
    ∃ r e g, (onHub (Act.allocate Display.writebackSize) >>= fun buffer =>
        change (fun d => { d with body := .offscreen (some buffer) }) >>= fun _ =>
        registerOffscreen) (.fresh .offscreen (entry.map (·.id)) handler provider, u) =
      (r, e, g) ∧ h.CommissionOutcome .offscreen id r e g := by
  let d := Display.fresh .offscreen (entry.map (·.id)) handler provider
  obtain ⟨w, given, counted, kept, ground⟩ := Act.allocate_apply u
  rw [Hub.roomAnswer_of_ground same] at given ground
  have asked : onHub (Act.allocate Display.writebackSize) (d, u) = (h.roomAnswer, d, w) := by
    change ((Act.allocate Display.writebackSize u).1, d,
      (Act.allocate Display.writebackSize u).2) = _
    rw [given]
  unfold Hub.CommissionOutcome
  rw [Hub.admission_of_offscreen, found, bind_apply, asked]
  cases room : h.roomAnswer with
  | error stop => exact ⟨_, _, _, rfl, rfl⟩
  | ok buffer =>
      rw [room] at ground
      -- the display has the buffer before it asks for a token
      have ready : h.Ready .offscreen entry { d with body := .offscreen (some buffer) } w := {
        variant := rfl
        id := rfl
        named := rfl
        idle := rfl
        power := rfl
        free := rfl
        writeback := rfl
        logged := by
          have all := logged.trans counted
          rwa [List.append_nil] at all
        ground := by
          rw [ground, Hub.dealing_of_same same, Hub.compositor_of_ground same,
            Hub.allocator_of_ground same]
          rfl
        reportInputs := (Hub.reportInputs_of_ground ground kept).trans reportInputs }
      obtain ⟨r, e, g, ran, settled⟩ := register_of_ready ready
      dsimp only
      change ∃ r u g, registerOffscreen ({ d with body := .offscreen (some buffer) }, w) =
        (r, u, g) ∧ _
      unfold registerOffscreen
      rw [ran]
      cases answer : h.tokenAnswer .offscreen (entry.map (·.id)) with
      | error stop =>
          rw [answer] at settled
          obtain rfl : r = .error stop := settled
          cases stop <;> exact ⟨_, _, _, rfl, rfl⟩
      | ok token =>
          rw [answer] at settled
          obtain ⟨rfl, admits⟩ := settled
          exact ⟨_, _, _, rfl, rfl, admits⟩

/-- Off-screen displays ask the hardware only if they have a number. -/
theorem commissionOutcome_offscreen :
    ∃ r e g, bringUpOffscreen (.fresh .offscreen id handler provider, h) =
    (r, e, g) ∧ h.CommissionOutcome .offscreen id r e g := by
  unfold bringUpOffscreen
  change ∃ r e g, (ite (id.isSome = true) (resolve false >>= _) _ : Serve Unit)
    (.fresh .offscreen id handler provider, h) = _ ∧ _
  cases id with
  | none => exact commissionOutcome_room none rfl ⟨rfl, rfl, (List.append_nil _).symm⟩ rfl rfl
  | some k =>
      have chosen (t : Topology) :
          (Display.fresh .offscreen (some k) handler provider).choose false t =
            t.entryFor .offscreen (some k) := choose_fresh t
      have looks : ¬ (Variant.offscreen = .offscreen ∧ some k = none) := by simp
      unfold Hub.CommissionOutcome
      rw [if_pos Option.isSome_some, bind_apply, resolve_apply]
      -- nothing is asked for before there is an entry
      cases report : h.report with
      | error stop =>
          have found : h.finding .offscreen (some k) = .error stop := by
            rw [Hub.finding_of_looks looks, report]
          rw [Hub.admission_of_offscreen, found]
          exact ⟨_, _, _, rfl, rfl⟩
      | ok t =>
          dsimp only
          rw [chosen]
          cases choice : t.entryFor .offscreen (some k) with
          | error f =>
              have found : h.finding .offscreen (some k) = .error (.failure f) := by
                rw [Hub.finding_of_looks looks, report]
                dsimp only
                rw [choice]
              rw [Hub.admission_of_offscreen, found]
              exact ⟨_, _, _, rfl, rfl⟩
          | ok entry =>
              have found : h.finding .offscreen (some k) = .ok (some entry) := by
                rw [Hub.finding_of_looks looks, report]
                dsimp only
                rw [choice]
              dsimp only
              rw [bind_fresh choice]
              exact commissionOutcome_room (some entry) h.ground_asked h.logged_asked rfl found

/-- A new display comes into service as the collaborators answer. -/
theorem commissionOutcome_bringUp (h : Hub) (v : Variant) (id : Option Int32) (handler : Handler)
    (provider : Option Nat) : ∃ r e g, bringUp (.fresh v id handler provider, h) = (r, e, g) ∧
      h.CommissionOutcome v id r e g := by
  unfold bringUp
  rw [display_bind]
  cases v with
  | builtIn =>
      refine commissionOutcome_panel (by decide) fun entry u g => ?_
      -- that a panel is the primary one is noted last
      change ∃ g', _ ∧ ite (entry.primary = true) (note _ _) (pure ())
        ({ u with body := .builtIn entry.primary }, g) = _
      by_cases primary : entry.primary = true
      · rw [if_pos primary]
        exact ⟨_, Hub.onlyLogged_note _ _ g, rfl⟩
      · rw [if_neg primary]
        exact ⟨g, ⟨⟨rfl, rfl, (List.append_nil _).symm⟩, rfl, rfl⟩, rfl⟩
  | pluggable =>
      exact commissionOutcome_panel (by decide) fun entry u g =>
        ⟨g, ⟨⟨rfl, rfl, (List.append_nil _).symm⟩, rfl, rfl⟩, rfl⟩
  | offscreen => exact commissionOutcome_offscreen

end Serve

namespace Hub

/-- A collaborator that is asked on the way to a display with a number, and stops.
    The provider is asked first, then the allocator if the display is off-screen,
    and the compositor last. -/
inductive CollaboratorStops (h : Hub) (v : Variant) (k : Int32) (stop : Stop) : Prop where
  | provider (answer : h.report = .error stop)
  | allocator (entry : Entry) (found : h.finding v (some k) = .ok (some entry))
      (kind : v = .offscreen) (answer : h.roomAnswer = .error stop)
  | compositor (entry : Entry) (found : h.finding v (some k) = .ok (some entry))
      (room : v = .offscreen → ∃ buffer, h.roomAnswer = .ok buffer)
      (answer : h.tokenAnswer v (some k) = .error stop)

variable {h : Hub} {v : Variant} {k : Int32} {stop : Stop}

theorem finding_error_iff : h.finding v (some k) = .error stop ↔ h.report = .error stop ∨
    ∃ t f, h.report = .ok t ∧ t.entryFor v (some k) = .error f ∧ stop = .failure f := by
  have looks : ¬ (v = .offscreen ∧ some k = none) := by simp
  rw [finding_of_looks looks]
  cases h.report with
  | error other => simp
  | ok t =>
      cases choice : t.entryFor v (some k) with
      | error f => simp [choice, eq_comm]
      | ok entry => simp [choice]

/-- What is found for a number has that number. -/
theorem finding_ok {found : Option Entry} (answer : h.finding v (some k) = .ok found) :
    ∃ t entry, found = some entry ∧ entry.id = k ∧ h.report = .ok t ∧
      t.entryFor v (some k) = .ok entry := by
  have looks : ¬ (v = .offscreen ∧ some k = none) := by simp
  rw [finding_of_looks looks] at answer
  cases report : h.report with
  | error other =>
      rw [report] at answer
      nomatch answer
  | ok t =>
      rw [report] at answer
      dsimp only at answer
      cases choice : t.entryFor v (some k) with
      | error f =>
          rw [choice] at answer
          nomatch answer
      | ok entry =>
          rw [choice] at answer
          obtain ⟨-, -, -, named⟩ := Topology.entryFor_ok choice
          exact ⟨t, entry, (Except.ok.inj answer).symm, named k rfl, rfl, choice⟩

/-- The wish for a number is stopped by a collaborator, or by a report that does
    not have what is wished for. -/
theorem admission_error_iff : h.admission v (some k) = .error stop ↔ h.CollaboratorStops v k stop ∨
    ∃ t f, h.report = .ok t ∧ t.entryFor v (some k) = .error f ∧ stop = .failure f := by
  cases answer : h.finding v (some k) with
  | error other =>
      have stopped : h.admission v (some k) = h.finding v (some k) := by
        unfold admission
        rw [answer]
        rfl
      rw [stopped, finding_error_iff]
      constructor
      · exact Or.imp_left CollaboratorStops.provider
      · rintro ((report | ⟨_, found, -, -⟩ | ⟨_, found, -, -⟩) | missed)
        · exact Or.inl report
        · nomatch answer.symm.trans found
        · nomatch answer.symm.trans found
        · exact Or.inr missed
  | ok found =>
      obtain ⟨t, entry, rfl, rfl, report, choice⟩ := finding_ok answer
      -- the hardware gave what was wished for, so it is up to the other two
      have given : ¬ ∃ u f, h.report = .ok u ∧ u.entryFor v (some entry.id) = .error f ∧
          stop = .failure f := by
        rintro ⟨u, f, same, missed, -⟩
        obtain rfl := Except.ok.inj (report.symm.trans same)
        nomatch choice.symm.trans missed
      have token (w : Variant) :
          (h.tokenAnswer w (some entry.id)).map (fun _ => some entry) = .error stop ↔
            h.tokenAnswer w (some entry.id) = .error stop := by
        cases h.tokenAnswer w (some entry.id) <;> simp [Except.map]
      rw [or_iff_left given]
      by_cases kind : v = .offscreen
      · subst kind
        rw [admission_of_offscreen, answer]
        cases room : h.roomAnswer with
        | error other =>
            constructor
            · rintro ⟨⟩
              exact .allocator entry answer rfl room
            · rintro (refused | ⟨_, -, -, full⟩ | ⟨_, -, free, -⟩)
              · nomatch report.symm.trans refused
              · exact congrArg Except.error (Except.error.inj (room.symm.trans full))
              · obtain ⟨_, free⟩ := free rfl
                nomatch room.symm.trans free
        | ok buffer =>
            dsimp only
            rw [Option.map_some, token]
            constructor
            · exact .compositor entry answer fun _ => ⟨buffer, room⟩
            · rintro (refused | ⟨_, -, -, full⟩ | ⟨_, -, -, refused⟩)
              · nomatch report.symm.trans refused
              · nomatch room.symm.trans full
              · exact refused
      · rw [admission_of_panel kind, answer]
        dsimp only
        rw [Option.map_some, token]
        constructor
        · exact .compositor entry answer fun same => absurd same kind
        · rintro (refused | ⟨_, -, same, -⟩ | ⟨_, -, -, refused⟩)
          · nomatch report.symm.trans refused
          · exact absurd same kind
          · exact refused

end Hub

namespace Topology

variable {t : Topology} {v : Variant} {k : Int32}

/-- A report has nothing for a number and a kind: its entry is gone, of another
    kind, or not connected where it has to be. -/
def Lacks (t : Topology) (k : Int32) (v : Variant) : Prop :=
  ∀ e, t.find? k = some e → e.variant = v → v ≠ .offscreen ∧ e.connected = false

theorem entryFor_error_iff : (∃ f, t.entryFor v (some k) = .error f) ↔ t.Lacks k v := by
  constructor
  · rintro ⟨f, missed⟩ e there kind
    refine Decidable.byContradiction fun fits => ?_
    have found : t.entryFor v (some k) = .ok e := by
      refine chooseBound_eq_ok_iff.mpr ⟨there, kind, fun panel => ?_⟩
      exact Bool.not_eq_false _ ▸ not_and.mp fits (of_decide_eq_true panel)
    nomatch missed.symm.trans found
  · intro unfit
    cases choice : t.entryFor v (some k) with
    | error f => exact ⟨f, rfl⟩
    | ok e =>
        obtain ⟨there, kind, joined, named⟩ := entryFor_ok choice
        rw [named k rfl] at there
        obtain ⟨panel, apart⟩ := unfit e there kind
        rw [joined panel] at apart
        nomatch apart

end Topology

namespace Act

variable {h : Hub} {v : Variant} {id : Option Int32} {handler : Handler} {provider : Option Nat}

theorem commission_of_error {stop : Stop} (refused : h.admission v id = .error stop) :
    (commission (.fresh v id handler provider) v id h).1 = .error stop := by
  obtain ⟨r, e, g, raised, outcome⟩ := Serve.commissionOutcome_bringUp h v id handler provider
  unfold Hub.CommissionOutcome at outcome
  rw [refused] at outcome
  unfold commission
  rw [raised, outcome]
  cases stop <;> rfl

theorem commission_of_ok {entry : Option Entry} (admitted : h.admission v id = .ok entry) :
    ∃ d h', commission (.fresh v id handler provider) v id h = (.ok d, h') ∧
      h.Admits v entry d h' := by
  obtain ⟨r, e, g, raised, outcome⟩ := Serve.commissionOutcome_bringUp h v id handler provider
  unfold Hub.CommissionOutcome at outcome
  rw [admitted] at outcome
  obtain ⟨rfl, admits⟩ := outcome
  unfold commission
  rw [raised]
  exact ⟨e, _, rfl, { admits with logged := admits.logged.note .info _ }⟩

/-- Constructing a display is bringing it into service, once there is a provider. -/
theorem construct_of_provider {provider : Nat} (held : h.core.provider = some provider)
    (v : Variant) (id : Option Int32) (handler : Handler) :
    construct v id handler h = commission (.fresh v id handler (some provider)) v id h := by
  unfold construct
  rw [get_bind, held]

theorem construct_of_up (up : h.initialized = true) (v : Variant) (id : Option Int32)
    (handler : Handler) : ∃ provider,
      construct v id handler h = commission (.fresh v id handler provider) v id h := by
  obtain ⟨provider, held⟩ := Option.isSome_iff_exists.mp up
  exact ⟨some provider, construct_of_provider held v id handler⟩

theorem createById_apply (k : Int32) (handler : Handler) (h : Hub) :
    createById k (some handler) h = match h.core.topology.find? k with
      | some entry => construct entry.variant (some k) handler h
      | none => (.error (.failure .parameters),
        h.note .error ("DisplayCore: spurious display id " ++ toString k.toInt)) := by
  unfold createById requireHandler
  dsimp only
  rw [return_bind, get_bind]
  cases h.core.topology.find? k <;> rfl

/-- A number is turned down for itself exactly if the last report does not have it,
    or if a collaborator fails for that reason. -/
theorem createById_parameters_iff {k : Int32}
    (up : ∀ entry, h.core.topology.find? k = some entry → h.initialized = true) :
    (createById k (some handler) h).1 = .error (.failure .parameters) ↔
      h.core.topology.find? k = none ∨ ∃ entry, h.core.topology.find? k = some entry ∧
        h.CollaboratorStops entry.variant k (.failure .parameters) := by
  rw [createById_apply]
  cases found : h.core.topology.find? k with
  | none => simp
  | some entry =>
      obtain ⟨provider, constructed⟩ :=
        construct_of_up (up entry found) entry.variant (some k) handler
      dsimp only
      rw [constructed]
      have answer : (commission (.fresh entry.variant (some k) handler provider) entry.variant
          (some k) h).1 = .error (.failure .parameters) ↔
            h.admission entry.variant (some k) = .error (.failure .parameters) := by
        cases admitted : h.admission entry.variant (some k) with
        | error stop =>
            rw [commission_of_error admitted]
            simp
        | ok entry =>
            obtain ⟨d, h', created, -⟩ := commission_of_ok admitted
            rw [created]
            simp
      rw [answer, Hub.admission_error_iff]
      -- what the report lacks is put down to the hardware
      have other : ¬ ∃ t f, h.report = .ok t ∧ t.entryFor entry.variant (some k) = .error f ∧
          Stop.failure .parameters = .failure f := by
        rintro ⟨t, f, -, missed, same⟩
        obtain ⟨text, rfl⟩ := Topology.chooseBound_error missed
        nomatch same
      rw [or_iff_left other]
      simp

end Act

namespace Hub

/-- What a display is meant to be by what was asked for. A number means what the
    last report has under it. -/
def meant (h : Hub) : Request → Display → Prop
  | .kind v, d => d.variant = v
  | .code code, d => Variant.ofCode code = some d.variant
  | .number k, d => d.id = some k ∧
      ∃ entry, h.core.topology.find? k = some entry ∧ entry.variant = d.variant

/-- What a display can be relied on for that was created. -/
structure CreatedAsReported (h : Hub) (request : Request) (d : Display) (h' : Hub) : Prop where
  /-- It is active under its token. -/
  registered : ∃ token, d.token = some token ∧ ⟨token, d.variant, d.id⟩ ∈ h'.compositor.active
  off : d.power = .off
  /-- The hardware was asked for a report once if the display has a number. -/
  asked : h'.trace = h.trace ++ (if d.id.isSome then [.call .queryStatus] else []) ++
    [.call .register]
  /-- That report has the number, as the display's kind, and connected unless it
      is off-screen. -/
  present : ∀ k, d.id = some k → ∃ t entry, h.report = .ok t ∧ t.find? k = some entry ∧
    entry.variant = d.variant ∧ (d.variant ≠ .offscreen → entry.connected = true)
  /-- It is what was asked for. -/
  meant : h.meant request d

variable {h h' : Hub} {v : Variant} {id : Option Int32} {d : Display}

/-- Whoever is admitted found what there was to find. -/
theorem finding_of_admission {found : Option Entry} (admitted : h.admission v id = .ok found) :
    h.finding v id = .ok found := by
  -- the compositor answers last, and makes no other entry of it
  have last (entry : Option Entry) (k : Option Int32)
      (granted : (h.tokenAnswer v k).map (fun _ => entry) = .ok found) :
      (.ok entry : Except Stop (Option Entry)) = .ok found := by
    cases token : h.tokenAnswer v k with
    | error stop =>
        rw [token] at granted
        nomatch granted
    | ok _ =>
        rw [token] at granted
        exact granted
  cases answer : h.finding v id with
  | error stop =>
      unfold admission at admitted
      rw [answer] at admitted
      nomatch admitted
  | ok entry =>
      by_cases kind : v = .offscreen
      · subst kind
        rw [admission_of_offscreen, answer] at admitted
        cases room : h.roomAnswer with
        | error stop =>
            rw [room] at admitted
            nomatch admitted
        | ok buffer =>
            rw [room] at admitted
            exact last _ _ admitted
      · rw [admission_of_panel kind, answer] at admitted
        exact last _ _ admitted

theorem Admits.present {found : Option Entry} (admits : h.Admits v found d h')
    (answer : h.finding v id = .ok found) : ∀ k, d.id = some k → ∃ t entry, h.report = .ok t ∧
      t.find? k = some entry ∧ entry.variant = d.variant ∧
      (d.variant ≠ .offscreen → entry.connected = true) := by
  intro k number
  rw [admits.id] at number
  obtain ⟨entry, rfl, rfl⟩ := Option.map_eq_some_iff.mp number
  rw [admits.variant]
  -- an entry comes from a report only
  have looks : ¬ (v = .offscreen ∧ id = none) := by
    intro blind
    unfold finding at answer
    rw [if_pos blind] at answer
    nomatch answer
  rw [finding_of_looks looks] at answer
  cases report : h.report with
  | error stop =>
      rw [report] at answer
      nomatch answer
  | ok t =>
      rw [report] at answer
      dsimp only at answer
      cases choice : t.entryFor v id with
      | error f =>
          rw [choice] at answer
          nomatch answer
      | ok e =>
          rw [choice] at answer
          obtain rfl := Option.some.inj (Except.ok.inj answer)
          obtain ⟨there, kind, joined, -⟩ := Topology.entryFor_ok choice
          exact ⟨t, e, rfl, there, kind, joined⟩

/-- A display that was admitted can be relied on, for whatever it is meant to be. -/
theorem Admits.asReported {found : Option Entry} {request : Request}
    (admits : h.Admits v found d h')
    (answer : h.finding v id = .ok found) (meant : h.meant request d) :
    h.CreatedAsReported request d h' where
  registered := by
    refine ⟨h.compositor.nextToken, admits.token, ?_⟩
    rw [compositor_of_ground admits.ground, admits.variant]
    exact List.mem_append_right _ List.mem_cons_self
  off := admits.power
  asked := by
    have number : d.id.isSome = found.isSome := by
      rw [admits.id, Option.isSome_map]
    rw [number, admits.logged.trace, List.append_assoc]
  present := admits.present answer
  meant := meant

end Hub

namespace Act

variable {h h' : Hub} {v : Variant} {id : Option Int32} {handler : Handler} {d : Display}

/-- A hub that is down constructs nothing. -/
theorem up_of_construct (created : (construct v id handler h).1 = .ok d) :
    h.initialized = true := by
  refine Decidable.byContradiction fun down => ?_
  rw [construct_of_down (Bool.not_eq_true _ ▸ down)] at created
  nomatch created

/-- What was constructed was admitted. -/
theorem construct_ok (created : (construct v id handler h).1 = .ok d) : ∃ found,
    h.finding v id = .ok found ∧ h.Admits v found d (construct v id handler h).2 := by
  obtain ⟨provider, constructed⟩ := construct_of_up (up_of_construct created) v id handler
  rw [constructed] at created ⊢
  cases admitted : h.admission v id with
  | error stop =>
      rw [commission_of_error admitted] at created
      nomatch created
  | ok found =>
      obtain ⟨e, u, made, admits⟩ := commission_of_ok admitted
      rw [made] at created ⊢
      obtain rfl := Except.ok.inj created
      exact ⟨found, Hub.finding_of_admission admitted, admits⟩

theorem createdAsReported_of_ok {request : Request} {handler : Option Handler}
    (created : (fulfil request handler h).1 = .ok d) :
    h.CreatedAsReported request d (fulfil request handler h).2 := by
  cases handler with
  | none => cases request <;> nomatch created
  | some handler =>
      -- each kind of request comes down to constructing a display of a kind that it means
      cases request with
      | kind v =>
          obtain ⟨found, answer, admits⟩ := construct_ok created
          exact admits.asReported answer admits.variant
      | code code =>
          unfold fulfil createByCode requireHandler at created ⊢
          dsimp only at created ⊢
          rw [return_bind] at created ⊢
          cases known : Variant.ofCode code with
          | none =>
              rw [known] at created
              nomatch created
          | some v =>
              rw [known] at created
              obtain ⟨found, answer, admits⟩ := construct_ok created
              refine admits.asReported answer ?_
              rw [Hub.meant, known, admits.variant]
      | number k =>
          change (createById k (some handler) h).1 = _ at created
          change h.CreatedAsReported _ d (createById k (some handler) h).2
          rw [createById_apply] at created ⊢
          cases there : h.core.topology.find? k with
          | none =>
              rw [there] at created
              nomatch created
          | some entry =>
              rw [there] at created
              obtain ⟨found, answer, admits⟩ := construct_ok created
              obtain ⟨t, e, rfl, rfl, -, -⟩ := Hub.finding_ok answer
              exact admits.asReported answer ⟨admits.id, entry, there, admits.variant.symm⟩

/-- A number whose entry is out of date is turned down by the hardware. -/
theorem createById_of_stale {k : Int32} {entry : Entry} {t : Topology}
    (up : h.initialized = true) (there : h.core.topology.find? k = some entry)
    (report : h.report = .ok t) (stale : t.Lacks k entry.variant) (handler : Handler) :
    ∃ text, (createById k (some handler) h).1 = .error (.failure (.hardware text)) := by
  obtain ⟨f, missed⟩ := Topology.entryFor_error_iff.mpr stale
  obtain ⟨text, rfl⟩ := Topology.chooseBound_error missed
  have refused := Hub.admission_error_iff.mpr (Or.inr ⟨t, _, report, missed, rfl⟩)
  obtain ⟨provider, constructed⟩ := construct_of_up up entry.variant (some k) handler
  rw [createById_apply, there]
  dsimp only
  rw [constructed, commission_of_error refused]
  exact ⟨text, rfl⟩

/-- In whatever state the hub, its last report and the hardware are, a display that
    is created is what was asked for and what the hardware reports at that moment,
    and a number whose entry is out of date gives none. -/
theorem createdAsReported_fulfil (request : Request) (handler : Option Handler) (h : Hub) :
    (∀ d, (fulfil request handler h).1 = .ok d →
      h.CreatedAsReported request d (fulfil request handler h).2) ∧
    ∀ k entry t, request = .number k → handler.isSome = true → h.initialized = true →
      h.core.topology.find? k = some entry → h.report = .ok t → t.Lacks k entry.variant →
      ∃ text, (fulfil request handler h).1 = .error (.failure (.hardware text)) := by
  refine ⟨fun _ created => createdAsReported_of_ok created, ?_⟩
  rintro k entry t rfl given up there report stale
  obtain ⟨handler, rfl⟩ := Option.isSome_iff_exists.mp given
  exact createById_of_stale up there report stale handler

end Act

namespace Session

/-- Two displays were unplugged since the hub came up. -/
def changedReport : Session :=
  (recording false {} [.scripted 1 .pluggable true, .scripted 2 .offscreen true] none).after
    [.bootstrap, .setDisplays [.scripted 1 .pluggable false, .scripted 2 .offscreen false]]

/-- The one without a panel is created all the same. -/
theorem createdAsReported_changedReport :
    (∃ d, (Act.fulfil (.number 2) (some .record) changedReport.hub).1 = .ok d ∧ d.id = some 2 ∧
      changedReport.hub.CreatedAsReported (.number 2) d
      (Act.fulfil (.number 2) (some .record) changedReport.hub).2) ∧
    changedReport.hub.core.topology.find? 1 = some (.scripted 1 .pluggable true) ∧
    ∃ text, (Act.fulfil (.number 1) (some .record) changedReport.hub).1 =
      .error (.failure (.hardware text)) := by
  have unplugged : (Topology.ofList [.scripted 1 .pluggable false,
      .scripted 2 .offscreen false]).Lacks 1 .pluggable := by
    rintro e ⟨⟩ -
    exact ⟨by decide, rfl⟩
  exact ⟨⟨_, rfl, rfl, (Act.createdAsReported_fulfil _ _ _).1 _ rfl⟩, rfl,
    (Act.createdAsReported_fulfil _ _ _).2 1 _ _ rfl rfl rfl rfl rfl unplugged⟩

end Session

end DisplayHub
