import DisplayHub.Proofs.Run

/-!
# Buffers of Off-Screen Displays

What is outstanding is what off-screen displays hold, unless one of them was
brought into service twice.

An off-screen display gets its buffer first and its token last. If it gets no
token it returns the buffer, and when it leaves service or is let go it
returns both. All this keeps the allocator's count equal to the number of
displays that hold a buffer.

One case does not. A display that is in service already holds a buffer, and
bringing it into service again gives it another one in its place before the
token is refused. Only the new one is returned then. The display stays in
service without a buffer, and the old one is lost for good. So the ledger
counts what was lost, and the buffers are balanced exactly while that is
nothing (`Hub.balanced_iff`): a lost buffer shows in the count, or else in the
display that is without one.

The program must not be brought down between the two, since nothing is undone
then.

## Main definitions

* `Display.stores`, `Display.composes`: Holding a buffer, and being an
  off-screen display in service.
* `Display.lacksBuffer`: The one without the other.
* `Ledger.Counted`: What is outstanding is held or lost.
* `Ledger.Stored`: The allocator and the displays agree, but for what is lost.
* `Hub.Balanced`: They agree.

## Theorems

* `Ledger.Stored.raise`: A display that is brought into service.
* `Ledger.Stored.move`: No entry in the ledger miscounts the buffers.
* `Hub.balanced_iff`: The buffers are balanced exactly while none is lost.
* `Session.balanced_after_iff`: The same after every run.
* `Session.unbalanced_after_reinit`: A run on which one is lost.
-/

namespace DisplayHub

namespace Display

/-- Whether a display holds a buffer. -/
def stores (d : Display) : Bool :=
  d.writeback?.isSome

/-- Whether a display is an off-screen one in service. -/
def composes (d : Display) : Bool :=
  decide (d.variant = .offscreen) && d.initialized

/-- Whether an off-screen display in service is without a buffer. -/
def lacksBuffer (d : Display) : Bool :=
  d.composes && !d.stores

variable {d e : Display} {h h' : Hub}

theorem stores_of_empty (empty : d.writeback? = none) : d.stores = false := by
  unfold stores
  rw [empty]
  rfl

/-- A display with a panel holds no buffer. -/
theorem stores_of_panel (panel : d.variant ≠ .offscreen) : d.stores = false := by
  unfold stores writeback?
  cases kind : d.body with
  | offscreen b => exact absurd (congrArg Body.variant kind) panel
  | _ => rfl

theorem lacksBuffer_of_panel (panel : d.variant ≠ .offscreen) : d.lacksBuffer = false := by
  simp [lacksBuffer, composes, panel]

theorem lacksBuffer_of_idle (idle : d.initialized = false) : d.lacksBuffer = false := by
  simp [lacksBuffer, composes, idle]

/-- No buffer is forgotten where none is handed out. -/
theorem forgets_of_kept (same : h'.allocator = h.allocator) : d.forgets h h' = false := by
  simp [forgets, same]

/-- Where a buffer is handed out, the one that was held before is forgotten. -/
theorem forgets_of_issued (issued : h'.allocator.nextId = h.allocator.nextId + 1) :
    d.forgets h h' = d.stores := by
  simp [forgets, stores, issued]

end Display

/-- What is outstanding is held or lost. -/
def Ledger.Counted (b : Ledger) : Prop :=
  b.stock.allocator.outstanding = b.displays.countP Display.stores + b.lost

namespace Ledger

/-- One more display counts for one or for nothing. -/
theorem countP_cons_toNat (p : Display → Bool) (d : Display) (l : List Display) :
    (d :: l).countP p = l.countP p + (p d).toNat := by
  rw [List.countP_cons]
  cases p d <;> rfl

namespace Counted

variable {l l' : List Display} {s s' : Stock} {f n n' : Nat} {d e : Display}

theorem perm (before : Counted ⟨l, s, f, n⟩) (same : l.Perm l') : Counted ⟨l', s, f, n⟩ := by
  unfold Counted at before ⊢
  rw [← same.countP_eq]
  exact before

theorem cons (before : Counted ⟨l, s, f, n⟩) (empty : d.stores = false) :
    Counted ⟨d :: l, s, f, n⟩ := by
  unfold Counted at before ⊢
  rw [countP_cons_toNat, empty]
  exact before

/-- A display is replaced by what became of it. -/
theorem replace (before : Counted ⟨d :: l, s, f, n⟩)
    (counted : s'.allocator.outstanding + d.stores.toNat + n =
      s.allocator.outstanding + e.stores.toNat + n') : Counted ⟨e :: l, s', f, n'⟩ := by
  unfold Counted at before ⊢
  rw [countP_cons_toNat] at before ⊢
  dsimp only at before ⊢
  omega

/-- A display that is let go gives its buffer back, and it was counted. -/
theorem drop (before : Counted ⟨d :: l, s, f, n⟩) (c : Compositor) :
    Counted ⟨l, s.dealing c (d.vacate s.allocator), f, n⟩ := by
  unfold Counted at before ⊢
  rw [countP_cons_toNat] at before
  change (d.vacate s.allocator).outstanding = l.countP Display.stores + n
  unfold Display.vacate
  cases held : d.writeback? with
  | none =>
      rw [Display.stores_of_empty held] at before
      exact before
  | some buffer =>
      have stores : d.stores = true := by
        unfold Display.stores
        rw [held]
        rfl
      -- the buffer that is counted off was counted as this display's
      rw [stores, Bool.toNat_true] at before
      change s.allocator.outstanding - 1 = _
      dsimp only at before
      omega

end Counted

end Ledger

/-- The allocator and those who hold displays agree on the buffers, but for
    those that are lost. -/
structure Ledger.Stored (b : Ledger) : Prop where
  /-- What was not given back is held or lost. -/
  counted : b.stock.allocator.outstanding = b.displays.countP Display.stores + b.lost
  /-- Asking for a token does not bring the program down. -/
  sturdy : b.stock.faults .register ≠ some .collapse
  /-- Who holds a buffer is in service. -/
  serving : ∀ d ∈ b.displays, d.stores = true → d.initialized = true
  /-- For every display that is without one, a buffer is lost. -/
  missing : b.displays.countP Display.lacksBuffer ≤ b.lost

namespace Ledger.Stored

variable {l l' : List Display} {s s' : Stock} {f n n' : Nat} {d e : Display}

theorem perm (h : Stored ⟨l, s, f, n⟩) (same : l.Perm l') : Stored ⟨l', s, f, n⟩ where
  counted := Counted.perm h.counted same
  sturdy := h.sturdy
  serving d held := h.serving d (same.mem_iff.mpr held)
  missing := by
    have missing := h.missing
    rw [same.countP_eq] at missing
    exact missing

/-- A display without a buffer that is not in service changes nothing. -/
theorem cons (h : Stored ⟨l, s, f, n⟩) (empty : d.stores = false) (idle : d.initialized = false) :
    Stored ⟨d :: l, s, f, n⟩ where
  counted := Counted.cons h.counted empty
  sturdy := h.sturdy
  serving e held stores := by
    rcases List.mem_cons.mp held with rfl | later
    · rw [empty] at stores
      nomatch stores
    · exact h.serving e later stores
  missing := by
    rw [countP_cons_toNat, Display.lacksBuffer_of_idle idle]
    exact h.missing

/-- A display is replaced by what became of it. -/
theorem replace (h : Stored ⟨d :: l, s, f, n⟩) (faults : s'.faults = s.faults)
    (counted : s'.allocator.outstanding + d.stores.toNat + n =
      s.allocator.outstanding + e.stores.toNat + n')
    (serving : e.stores = true → e.initialized = true)
    (missing : e.lacksBuffer.toNat + n ≤ d.lacksBuffer.toNat + n') :
    Stored ⟨e :: l, s', f, n'⟩ where
  counted := Counted.replace h.counted counted
  sturdy := by
    rw [faults]
    exact h.sturdy
  serving u held stores := by
    rcases List.mem_cons.mp held with rfl | later
    · exact serving stores
    · exact h.serving u (List.mem_cons_of_mem d later) stores
  missing := by
    have before := h.missing
    rw [countP_cons_toNat] at before ⊢
    dsimp only at before ⊢
    omega

/-- A display that is let go gives its buffer back. -/
theorem drop (h : Stored ⟨d :: l, s, f, n⟩) (c : Compositor) :
    Stored ⟨l, s.dealing c (d.vacate s.allocator), f, n⟩ where
  counted := Counted.drop h.counted c
  sturdy := h.sturdy
  serving u held := h.serving u (List.mem_cons_of_mem d held)
  missing := by
    have before := h.missing
    rw [countP_cons_toNat] at before
    dsimp only at before ⊢
    omega

/-- A display is replaced by one that holds no more and no less, and no buffer
    is handed out. -/
theorem keep {h h' : Hub} (before : Stored ⟨d :: l, h.stock, f, n⟩)
    (allocator : h'.allocator = h.allocator) (faults : h'.faults = h.faults)
    (stores : e.stores = d.stores) (serving : e.stores = true → e.initialized = true)
    (lacksBuffer : e.lacksBuffer = d.lacksBuffer) :
    Stored ⟨e :: l, h'.stock, f, n + (d.forgets h h').toNat⟩ := by
  rw [Display.forgets_of_kept allocator]
  refine before.replace faults ?_ serving ?_
  · change h'.allocator.outstanding + _ + _ = h.allocator.outstanding + _ + _
    rw [allocator, stores]
    rfl
  · exact Nat.le_of_eq (congrArg (fun lacks : Bool => lacks.toNat + n) lacksBuffer)

/-- Whatever comes of bringing a display into service, the buffers are counted. -/
theorem raise {h h' : Hub} {r : Except Stop Unit} (before : Stored ⟨d :: l, h.stock, f, n⟩)
    (raised : Serve.BringUpOutcome d h r e h') :
    Stored ⟨e :: l, h'.stock, f, n + (d.forgets h h').toNat⟩ := by
  have serves := before.serving d List.mem_cons_self
  cases raised with
  | bare => exact before.keep rfl rfl rfl serves rfl
  | missed _ _ same =>
      exact before.keep (Hub.allocator_of_ground same) (Hub.faults_of_ground same) rfl serves rfl
  | unregistered _ _ _ _ same =>
      exact before.keep (Hub.allocator_of_ground same) (Hub.faults_of_ground same) rfl serves rfl
  | served entry _ panel resting _ dealt =>
      let e : Display := { d.bind entry.id with
        token := some h.compositor.nextToken, body := d.body.served entry }
      have same : e.variant = d.variant := Body.variant_served entry d.body
      have also : e.variant ≠ .offscreen := by
        rw [same]
        exact panel
      refine before.keep (Hub.allocator_of_ground dealt) (Hub.faults_of_ground dealt) ?_
        (fun _ => rfl) ?_
      · exact (Display.stores_of_panel also).trans (Display.stores_of_panel panel).symm
      · exact (Display.lacksBuffer_of_panel also).trans (Display.lacksBuffer_of_panel panel).symm
  | wasted _ b _ kind dealt =>
      have allocator := Hub.allocator_of_ground dealt
      have issued : h'.allocator.nextId = h.allocator.nextId + 1 := by
        rw [allocator]
        rfl
      have given : h'.allocator.outstanding = h.allocator.outstanding := by
        rw [allocator]
        rfl
      have offscreen : d.variant = .offscreen := congrArg Body.variant kind
      -- the count is as before, but the buffer that it counted is lost
      rw [Display.forgets_of_issued issued]
      refine before.replace (Hub.faults_of_ground dealt) ?_ (fun stores => nomatch stores) ?_
      · change h'.allocator.outstanding + d.stores.toNat + n =
          h.allocator.outstanding + 0 + (n + d.stores.toNat)
        omega
      · -- one that is in service had a buffer, or was without one already
        have becomes : ({ d with body := .offscreen none } : Display).lacksBuffer =
          d.initialized := by
          simp [Display.lacksBuffer, Display.composes, Display.variant, Body.variant,
            Display.initialized, Display.stores, Display.writeback?]
        have was : d.lacksBuffer = (d.initialized && !d.stores) := by
          simp [Display.lacksBuffer, Display.composes, offscreen]
        have total : d.initialized.toNat ≤
            (d.initialized && !d.stores).toNat + d.stores.toNat := by
          cases d.initialized <;> cases d.stores <;> decide
        rw [becomes, was]
        omega
  | abandoned b _ kind _ fault _ => exact absurd fault before.sturdy
  | composed b _ kind resting _ dealt =>
      have allocator := Hub.allocator_of_ground dealt
      have issued : h'.allocator.nextId = h.allocator.nextId + 1 := by
        rw [allocator]
        rfl
      have given : h'.allocator.outstanding = h.allocator.outstanding + 1 := by
        rw [allocator]
        rfl
      -- a display that gets a token was not in service, so it held no buffer
      have empty : d.stores = false := by
        cases stores : d.stores with
        | false => rfl
        | true => exact absurd (serves stores) (Bool.not_eq_true _ ▸ resting)
      rw [Display.forgets_of_issued issued, empty]
      refine before.replace (Hub.faults_of_ground dealt) ?_ (fun _ => rfl) ?_
      · rw [empty]
        change h'.allocator.outstanding + 0 + n = h.allocator.outstanding + 1 + (n + 0)
        omega
      · let e : Display := { d with
          body := .offscreen (some ⟨h.allocator.nextId, Display.writebackSize⟩)
          token := some h.compositor.nextToken }
        have equipped : e.lacksBuffer = false := Bool.and_false e.composes
        rw [equipped]
        exact Nat.add_le_add (Nat.zero_le _) (Nat.le_refl n)

/-- No entry in the ledger miscounts the buffers. -/
theorem move {a b : Ledger} (move : a.Move b) (before : a.Stored) : b.Stored := by
  cases move with
  | reorder same => exact before.perm same
  | @make _ _ _ _ d idle empty =>
      have resting : d.initialized = false := by
        unfold Display.initialized
        rw [idle]
        rfl
      exact before.cons (Display.stores_of_empty empty) resting
  | @touch _ _ _ _ d e alike =>
      have stores : e.stores = d.stores := congrArg Option.isSome alike.writeback
      have initialized : e.initialized = d.initialized := congrArg Option.isSome alike.token
      have lacksBuffer : e.lacksBuffer = d.lacksBuffer := by
        unfold Display.lacksBuffer Display.composes
        rw [stores, initialized, alike.variant]
      refine before.replace rfl ?_ ?_ ?_
      · rw [stores]
      · rw [stores, initialized]
        exact before.serving d List.mem_cons_self
      · exact Nat.le_of_eq (congrArg (fun lacks : Bool => lacks.toNat + _) lacksBuffer)
  | bringUp raised => exact before.raise raised
  | @takeDown _ _ _ _ d =>
      have empty : d.shelved.writeback? = none := by
        unfold Display.shelved
        cases d.body <;> rfl
      exact (before.drop _).cons (Display.stores_of_empty empty) rfl
  | drop => exact before.drop _
  -- what is done with the compositor alone counts no buffers
  | start _ => exact ⟨before.counted, before.sturdy, before.serving, before.missing⟩
  | rise _ => exact ⟨before.counted, before.sturdy, before.serving, before.missing⟩
  | setMode _ => exact ⟨before.counted, before.sturdy, before.serving, before.missing⟩
  | stop => exact ⟨before.counted, before.sturdy, before.serving, before.missing⟩

end Ledger.Stored

/-- The buffers are those of the off-screen displays in service. -/
structure Hub.Balanced (h : Hub) : Prop where
  /-- As many are outstanding as off-screen displays are in service. -/
  count : h.allocator.outstanding = h.live.countP Display.composes
  /-- Each of them has its own. -/
  holds : ∀ d ∈ h.live, d.composes = true → d.stores = true

/-- The buffers are balanced exactly while none is lost. -/
theorem Hub.balanced_iff {h : Hub} {f n : Nat} (stored : (h.ledger h.live f n).Stored) :
    h.Balanced ↔ n = 0 := by
  have counted : h.allocator.outstanding = h.live.countP Display.stores + n := stored.counted
  -- nobody holds a buffer who is not off-screen and in service
  have composes (d : Display) (held : d ∈ h.live) (stores : d.stores = true) :
      d.composes = true := by
    have serving : d.initialized = true := stored.serving d held stores
    by_cases offscreen : d.variant = .offscreen
    · unfold Display.composes
      rw [offscreen, serving]
      rfl
    · rw [Display.stores_of_panel offscreen] at stores
      nomatch stores
  have agree (holds : ∀ d ∈ h.live, d.composes = true → d.stores = true) :
      h.live.countP Display.stores = h.live.countP Display.composes :=
    List.countP_congr fun d held => ⟨composes d held, holds d held⟩
  constructor
  · -- with no display without its buffer, a lost one would show in the count
    rintro ⟨count, holds⟩
    rw [agree holds, count] at counted
    omega
  · -- with none lost, no display is without its buffer
    rintro rfl
    have none_missing := List.countP_eq_zero.mp (Nat.le_zero.mp stored.missing)
    have holds (d : Display) (held : d ∈ h.live) (serves : d.composes = true) :
        d.stores = true := by
      have equipped := none_missing d held
      unfold Display.lacksBuffer at equipped
      rw [serves] at equipped
      simpa using equipped
    exact ⟨by rw [counted, agree holds, Nat.add_zero], holds⟩

namespace Session

/-- Whatever was done with a hub and its displays, what is outstanding is what
    displays hold and what was forgotten, and the buffers are balanced unless
    one was. -/
theorem balanced_after_iff {s : Session} (fresh : s.hub.Fresh)
    (sturdy : s.hub.faults .register ≠ some .collapse) {steps : List Step}
    (ordinary : ∀ step ∈ steps, step.ordinary = true)
    (harmless : ∀ step ∈ steps, step ≠ .setFault .register (some .collapse)) :
    ((s.after steps).hub.Balanced ↔ s.lostAfter 0 steps = 0) ∧
      (s.after steps).hub.allocator.outstanding =
        (s.after steps).hub.live.countP Display.stores + s.lostAfter 0 steps := by
  -- the count of lost buffers starts at nothing, and goes along as a part of the invariant
  have before : (s.ledger 0 0).Stored := by
    rw [ledger_of_fresh fresh]
    exact ⟨fresh.outstanding, sturdy, (fun _ held => nomatch held), Nat.le_refl 0⟩
  have stored := upholds_after (fun step => step ≠ .setFault .register (some .collapse))
    Ledger.Stored.move ?_ before ordinary harmless
  · exact ⟨Hub.balanced_iff stored, stored.counted⟩
  · intro a call stop keepsHardware held
    refine ⟨held.counted, ?_, held.serving, held.missing⟩
    change (if Call.register = call then stop else a.stock.faults .register) ≠ some .collapse
    by_cases own : Call.register = call
    · rw [if_pos own]
      rintro rfl
      exact keepsHardware (by rw [own])
    · rw [if_neg own]
      exact held.sturdy

/-- An off-screen display is brought into service twice before it leaves it. -/
def reinit : List Step :=
  [.bootstrap, .create .offscreen (some .record), .bringUp 0, .takeDown 0]

/-- One buffer is forgotten on the way. -/
theorem balanced_after_reinit_iff : bench.hub.Fresh ∧
    bench.hub.faults .register ≠ some .collapse ∧
    (∀ step ∈ reinit, step.ordinary = true) ∧
    (∀ step ∈ reinit, step ≠ .setFault .register (some .collapse)) ∧
    ((bench.after reinit).hub.Balanced ↔ bench.lostAfter 0 reinit = 0) ∧
    bench.lostAfter 0 reinit = 1 := by
  have fresh : bench.hub.Fresh := fresh_recording _ _ _ _
  have sturdy : bench.hub.faults .register ≠ some .collapse := fun fault => nomatch fault
  have ordinary : ∀ step ∈ reinit, step.ordinary = true := by decide
  have harmless : ∀ step ∈ reinit, step ≠ .setFault .register (some .collapse) := by
    simp [reinit]
  exact ⟨fresh, sturdy, ordinary, harmless,
    (balanced_after_iff fresh sturdy ordinary harmless).1, rfl⟩

/-- Nobody holds it any more, and it stays outstanding. -/
theorem unbalanced_after_reinit : bench.hub.Fresh ∧
    bench.hub.faults .register ≠ some .collapse ∧
    (∀ step ∈ reinit, step.ordinary = true) ∧
    (∀ step ∈ reinit, step ≠ .setFault .register (some .collapse)) ∧
    (bench.after reinit).hub.allocator.outstanding = 1 ∧
    (bench.after reinit).hub.live.countP Display.composes = 0 ∧
    ¬ (bench.after reinit).hub.Balanced := by
  refine ⟨fresh_recording _ _ _ _, (fun fault => nomatch fault), by decide,
    by simp [reinit], rfl, rfl, ?_⟩
  intro balanced
  have count : 1 = 0 := balanced.count
  nomatch count

end Session

end DisplayHub
