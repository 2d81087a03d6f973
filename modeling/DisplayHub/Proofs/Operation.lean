import DisplayHub.Proofs.Admission
import DisplayHub.Proofs.Registration
import Mathlib.Logic.Function.Iterate

/-!
# Operation

A hub that is up, and the displays it has dealt something out to.

Whoever creates displays and destroys them again, one after the other or many at once,
relies on the same three things. The hub can go on: it is up, it knows what the hardware
reports, and no fault is set where displays ask for their tokens (`Hub.Operational`). The
hardware reports the same whenever it is asked, and that is more than the listing staying
the same, since reading files may change them (`Hub.AlwaysReports`). And what was dealt out is
with displays that are known, a token with each and a buffer with those that are
off-screen (`Hub.DealtTo`).

A display that is created is one more to be known, and one that is destroyed is one less.
A display that could not be created is none at all, since what it claimed was returned.
It may have asked for a report, though, and has done so if it had a number to look for
(`Act.reportInputs_commission`).

## Main definitions

* `Hub.AlwaysReports`: The hardware reports the same however often it is asked.
* `Hub.Operational`: The hub can go on.
* `Hub.DealtTo`: Who has what was dealt out.
* `Hub.NothingDealt`: A hub that nothing was dealt out of.

## Theorems

* `Act.decommission_of_free`: Destroying a display succeeds.
* `Act.reportInputs_commission`: What a new display leaves of what reports are made from.
* `Hub.DealtTo.grant`, `Hub.DealtTo.release`: A display that is created, and one that is
  destroyed.
* `Hub.Operational.admission_ok`, `Hub.Operational.admission_error`: Who is admitted.
* `Hub.Operational.createById_of_ok`: Whoever is admitted gets a display.
* `Hub.operational_bootstrap`: A hub that has just come up.
-/

namespace DisplayHub

/-! ### What reports are made from -/

/-- Nothing shows in what reports are made from but reading files, which displays do
    only for a report. -/
theorem Hub.ignoresDealing_reportInputs : Hub.IgnoresDealing Hub.reportInputs :=
  ⟨fun _ _ _ => rfl, fun _ _ => rfl, fun _ _ => rfl, fun _ _ => rfl, fun _ _ _ => rfl⟩

namespace Serve

/-- What goes on once a display has found its entry, or does not. -/
theorem reportInputs_resolve {α : Type} {connected : Bool} {rest : Entry → Serve α}
    (kept : ∀ e, Keeps (Hub.hubView Hub.reportInputs) (rest e)) (d : Display) (h : Hub) :
    ((resolve connected >>= rest) (d, h)).2.2.reportInputs = h.asked.reportInputs := by
  rw [bind_apply, resolve_apply]
  cases h.report with
  | error stop => rfl
  | ok t =>
      dsimp only
      cases d.choose connected t with
      | error f => rfl
      | ok e => exact kept e (d.bind e.id, h.asked)

/-- A new display with a number asks for a report before anything else. -/
theorem reportInputs_bringUp (v : Variant) (k : Int32) (handler : Handler) (provider : Option Nat)
    (h : Hub) :
    (bringUp (.fresh v (some k) handler provider, h)).2.2.reportInputs = h.asked.reportInputs := by
  have ignores := Hub.ignoresDealing_reportInputs
  cases v with
  | builtIn =>
      refine reportInputs_resolve (fun e => ignores.registerBeside.bind fun _ =>
        (Hub.keeps_change _).bind fun _ => ?_) _ h
      split
      · exact ignores.noteBeside _ _
      · exact keeps_pure _
  | pluggable =>
      exact reportInputs_resolve
        (fun _ => ignores.registerBeside.bind fun _ => Hub.keeps_change _) _ h
  | offscreen =>
      exact reportInputs_resolve (fun _ => (Hub.keeps_onHub (ignores.allocate _)).bind fun _ =>
        (Hub.keeps_change _).bind fun _ => ignores.registerOffscreen) _ h

/-- A display in service that nothing holds back leaves it. -/
theorem takeDown_of_free {d : Display} (free : d.stuck = none) (serves : d.initialized = true)
    (h : Hub) : (takeDown (d, h)).1 = .ok () := by
  obtain ⟨g, retired, -⟩ := retire_apply serves h
  unfold takeDown
  rw [display_bind, free]
  dsimp only
  rw [bind_apply, retired]
  dsimp only
  rw [display_bind]
  cases d.body <;> rfl

end Serve

namespace Act

/-- Whatever comes of a new display with a number, a report was asked for once. -/
theorem reportInputs_commission (v : Variant) (k : Int32) (handler : Handler)
    (provider : Option Nat)
    (h : Hub) : (commission (.fresh v (some k) handler provider) v (some k) h).2.reportInputs =
      h.asked.reportInputs := by
  have asked := Serve.reportInputs_bringUp v k handler provider h
  unfold commission
  rcases ending : Serve.bringUp (.fresh v (some k) handler provider, h) with ⟨(f | _) | _, d, g⟩
  all_goals rw [ending] at asked
  · exact (Hub.ignoresDealing_reportInputs.drop d _).trans asked
  · exact (Hub.ignoresDealing_reportInputs.drop d g).trans asked
  · exact asked

theorem decommission_of_free {d : Display} (free : d.stuck = none) (serves : d.initialized = true)
    (h : Hub) : (decommission d h).1 = .ok () := by
  have left := Serve.takeDown_of_free free serves h
  unfold decommission
  rcases ending : Serve.takeDown (d, h) with ⟨r, e, g⟩
  rw [ending] at left
  obtain rfl : r = .ok () := left
  rfl

end Act

/-! ### What does not change -/

namespace Hub

/-- The hardware reports the same however often it is asked. -/
def AlwaysReports (t : Topology) (h : Hub) : Prop :=
  ∀ n, (asked^[n] h).report = .ok t

variable {t : Topology} {r : Resource} {h u : Hub} {held : List Display} {d : Display}

theorem AlwaysReports.report (alwaysReports : h.AlwaysReports t) : h.report = .ok t :=
  alwaysReports 0

theorem AlwaysReports.asked (alwaysReports : h.AlwaysReports t) : h.asked.AlwaysReports t :=
  fun n => alwaysReports (n + 1)

/-- It depends on what reports are made from, and on nothing else. -/
theorem AlwaysReports.congr (alwaysReports : h.AlwaysReports t)
    (same : u.reportInputs = h.reportInputs) : u.AlwaysReports t := by
  intro n
  -- what a report leaves for the next one depends on the same things
  have before : (Hub.asked^[n] u).reportInputs = (Hub.asked^[n] h).reportInputs := by
    clear alwaysReports
    induction n generalizing u h with
    | zero => exact same
    | succ n ih => exact ih (report_congr same).2
  rw [(report_congr before).1]
  exact alwaysReports n

/-- Hardware whose reports do not change by being asked for stays as it is. -/
theorem alwaysReports_of_still (still : h.asked.reportInputs = h.reportInputs)
    (report : h.report = .ok t) : h.AlwaysReports t := by
  have same (n : Nat) : (asked^[n] h).reportInputs = h.reportInputs := by
    induction n with
    | zero => rfl
    | succ n ih =>
        rw [Function.iterate_succ_apply']
        exact (report_congr ih).2.trans still
  exact fun n => (report_congr (same n)).1.trans report

/-! ### Who has what was dealt out -/

/-- The hub is up, knows what the hardware reports, and can go on. -/
structure Operational (t : Topology) (r : Resource) (h : Hub) : Prop where
  up : h.initialized = true
  topology : h.core.topology = t
  setup : ∃ e, h.compositor.setup = some ⟨r, e⟩
  able : h.faults .register = none
  limit : h.allocator.limit = ({} : Allocator).limit
  alwaysReports : h.AlwaysReports t

/-- What was dealt out is with these displays: a token with each that is in service, and
    a buffer with each that has one. -/
structure DealtTo (held : List Display) (h : Hub) : Prop where
  accounts : Accounted 0 held h.compositor
  outstanding : h.allocator.outstanding = held.countP fun d => d.writeback?.isSome

/-- Nobody has a display in service, and the allocator is as it usually is. -/
structure NothingDealt (h : Hub) : Prop where
  active : h.compositor.active = []
  limit : h.allocator.limit = ({} : Allocator).limit
  outstanding : h.allocator.outstanding = 0

/-- What is dealt out does not stop the hub from going on. -/
theorem Operational.deal {c : Compositor} {a : Allocator} (operational : h.Operational t r)
    (dealt : u.ground = h.dealing c a) (setup : c.setup = h.compositor.setup)
    (limit : a.limit = h.allocator.limit) (alwaysReports : u.AlwaysReports t) :
    u.Operational t r := by
  have core : u.core = h.core := core_of_ground dealt
  refine ⟨?_, ?_, ?_, ?_, ?_, alwaysReports⟩
  · unfold initialized
    rw [core]
    exact operational.up
  · rw [core]
    exact operational.topology
  · rw [compositor_of_ground dealt, setup]
    exact operational.setup
  · rw [faults_of_ground dealt]
    exact operational.able
  · rw [allocator_of_ground dealt, limit]
    exact operational.limit

namespace DealtTo

theorem perm {held' : List Display} (dealtTo : h.DealtTo held) (same : held.Perm held') :
    h.DealtTo held' where
  accounts := dealtTo.accounts.perm same
  outstanding := by
    rw [← same.countP_eq]
    exact dealtTo.outstanding

/-- What deals nothing out takes nothing from anybody. -/
theorem deal {a : Allocator} (dealtTo : h.DealtTo held)
    (dealt : u.ground = h.dealing h.compositor a)
    (outstanding : a.outstanding = h.allocator.outstanding) : u.DealtTo held where
  accounts := by
    rw [compositor_of_ground dealt]
    exact dealtTo.accounts
  outstanding := by
    rw [allocator_of_ground dealt, outstanding]
    exact dealtTo.outstanding

theorem same (dealtTo : h.DealtTo held) (ground : u.ground = h.ground) : u.DealtTo held :=
  dealtTo.deal (ground.trans rfl : _ = h.dealing h.compositor h.allocator) rfl

/-- A display that was created has a token, and a buffer if it is off-screen. -/
theorem grant {v : Variant} {e : Entry} (dealtTo : h.DealtTo held)
    (admits : h.Admits v (some e) d u) : u.DealtTo (d :: held) where
  accounts := by
    rw [compositor_of_ground admits.ground, ← admits.variant]
    -- before it got its token it had nothing that counts
    have before : Accounted 0 ({ d with token := none } :: held) h.compositor :=
      (Accounted.cons_idle_iff rfl).mpr dealtTo.accounts
    refine before.grant rfl admits.token fun _ => ?_
    rw [admits.id]
    rfl
  outstanding := by
    rw [List.countP_cons, admits.writeback, ← dealtTo.outstanding,
      allocator_of_ground admits.ground]
    by_cases offscreen : v = .offscreen
    · simp [offscreen, Allocator.issue]
    · simp [offscreen]

/-- A display that was destroyed returned what it had. -/
theorem release (dealtTo : h.DealtTo (d :: held)) : (Act.decommission d h).2.DealtTo held where
  accounts := by
    rw [compositor_of_ground (Act.ground_decommission d h)]
    exact dealtTo.accounts.release
  outstanding := by
    have outstanding := dealtTo.outstanding
    rw [List.countP_cons] at outstanding
    rw [allocator_of_ground (Act.ground_decommission d h)]
    unfold Display.vacate
    cases buffer : d.writeback? with
    | none => simpa [buffer] using outstanding
    | some b =>
        rw [Allocator.free_outstanding, outstanding]
        simp [buffer]

/-- Where nobody has anything, nothing was dealt out. -/
theorem empty (dealtTo : h.DealtTo []) : h.compositor.active = [] ∧ h.allocator.outstanding = 0 :=
  ⟨dealtTo.accounts.active.eq_nil, dealtTo.outstanding⟩

end DealtTo

namespace Operational

/-- A display that was created leaves the hub able to go on. -/
theorem grant {v : Variant} {e : Entry} (operational : h.Operational t r)
    (admits : h.Admits v (some e) d u) : u.Operational t r := by
  refine operational.deal admits.ground rfl ?_
    (operational.alwaysReports.asked.congr admits.reportInputs)
  split <;> rfl

theorem asked (operational : h.Operational t r) : h.asked.Operational t r :=
  operational.deal (h.ground_asked.trans rfl : _ = h.dealing h.compositor h.allocator) rfl rfl
    operational.alwaysReports.asked

/-- What is reported is known already, so nothing is new. -/
theorem refresh (operational : h.Operational t r) : Act.refresh h = (.ok t, h.asked) := by
  have known : h.asked.core.topology = t := by
    rw [core_asked]
    exact operational.topology
  rw [Act.refresh_of_up operational.up, operational.alwaysReports.report, ← known]

/-- A display that was destroyed leaves the hub able to go on. -/
theorem release (operational : h.Operational t r) (d : Display) :
    (Act.decommission d h).2.Operational t r := by
  refine operational.deal (Act.ground_decommission d h) ?_ ?_
    (operational.alwaysReports.congr (ignoresDealing_reportInputs.decommission d h))
  · unfold Display.release
    cases d.token <;> rfl
  · unfold Display.vacate
    cases d.writeback? <;> rfl

/-- There is a buffer to be had. -/
theorem room (operational : h.Operational t r) : ∃ buffer, h.roomAnswer = .ok buffer := by
  unfold roomAnswer
  rw [Allocator.allocate_of_block _ (by decide) (by decide), operational.limit, if_neg (by decide)]
  exact ⟨_, rfl⟩

/-- The compositor answers as it would for itself. -/
theorem token (operational : h.Operational t r) (v : Variant) (id : Option Int32) :
    h.tokenAnswer v id =
    match h.compositor.refusal? v id with
    | some refusal => .error (.failure refusal.failure)
    | none => .ok h.compositor.nextToken := by
  have free : h.barred .register = .ok () := by
    unfold barred
    rw [operational.able]
  unfold tokenAnswer
  cases h.compositor.refusal? v id with
  | none => rw [free]
  | some refusal => rw [free]

section Known

variable {k : Int32} {e : Entry}

theorem finding (operational : h.Operational t r) (there : t.find? k = some e)
    (joined : e.variant ≠ .offscreen → e.connected = true) :
    h.finding e.variant (some k) = .ok (some e) := by
  have choice : t.entryFor e.variant (some k) = .ok e :=
    Topology.chooseBound_eq_ok_iff.mpr ⟨there, rfl, fun panel => joined (of_decide_eq_true panel)⟩
  rw [finding_of_looks (by simp), operational.alwaysReports.report]
  dsimp only
  rw [choice]

/-- What the hardware has is admitted, unless the compositor refuses it. -/
theorem admission_ok (operational : h.Operational t r) (there : t.find? k = some e)
    (joined : e.variant ≠ .offscreen → e.connected = true)
    (allowed : h.compositor.refusal? e.variant (some k) = none) :
    h.admission e.variant (some k) = .ok (some e) := by
  obtain ⟨-, rfl⟩ := Topology.find?_eq_some_iff.mp there
  have found := operational.finding there joined
  have token := operational.token e.variant (some e.id)
  rw [allowed] at token
  by_cases offscreen : e.variant = .offscreen
  · obtain ⟨buffer, room⟩ := operational.room
    rw [offscreen] at found token ⊢
    rw [admission_of_offscreen, found, room]
    dsimp only
    rw [Option.map_some, token]
    rfl
  · rw [admission_of_panel offscreen, found]
    dsimp only
    rw [Option.map_some, token]
    rfl

/-- Nothing else is, and the program goes on. -/
theorem admission_error (operational : h.Operational t r) (there : t.find? k = some e)
    (unfit : ¬ ((e.variant ≠ .offscreen → e.connected = true) ∧
      h.compositor.refusal? e.variant (some k) = none)) :
    ∃ f, h.admission e.variant (some k) = .error (.failure f) := by
  by_cases joined : e.variant ≠ .offscreen → e.connected = true
  · cases refused : h.compositor.refusal? e.variant (some k) with
    | none => exact absurd ⟨joined, refused⟩ unfit
    | some refusal =>
        have token := operational.token e.variant (some k)
        rw [refused] at token
        exact ⟨_, admission_error_iff.mpr (Or.inl (.compositor e (operational.finding there joined)
          (fun _ => operational.room) token))⟩
  · have lacks : t.Lacks k e.variant := by
      intro a found _
      obtain rfl := Option.some.inj (there.symm.trans found)
      rw [Classical.not_imp, Bool.not_eq_true] at joined
      exact joined
    obtain ⟨f, missed⟩ := Topology.entryFor_error_iff.mpr lacks
    exact ⟨f, admission_error_iff.mpr
      (Or.inr ⟨t, f, operational.alwaysReports.report, missed, rfl⟩)⟩

/-- A number that is reported stands for a display to be commissioned. -/
theorem createById (operational : h.Operational t r) (there : t.find? k = some e)
    (handler : Handler) : ∃ provider, Act.createById k (some handler) h =
      Act.commission (.fresh e.variant (some k) handler provider) e.variant (some k) h := by
  have known : h.core.topology.find? k = some e := by
    rw [operational.topology]
    exact there
  obtain ⟨provider, constructed⟩ := Act.construct_of_up operational.up e.variant (some k) handler
  refine ⟨provider, ?_⟩
  rw [Act.createById_apply, known]
  exact constructed

/-- What is admitted is created. -/
theorem createById_of_ok (operational : h.Operational t r) (there : t.find? k = some e)
    (admitted : h.admission e.variant (some k) = .ok (some e)) (handler : Handler) :
    ∃ d u, Act.createById k (some handler) h = (.ok d, u) ∧
      h.Admits e.variant (some e) d u := by
  obtain ⟨provider, tried⟩ := operational.createById there handler
  rw [tried]
  exact Act.commission_of_ok admitted

end Known

end Operational

/-- A hub that has just come up can go on, and nobody has anything yet. -/
theorem operational_bootstrap (nothingDealt : h.NothingDealt) (alwaysReports : h.AlwaysReports t)
    (able : h.faults .register = none) (ran : Act.bootstrap h = (.ok (), u))
    (known : u.core.resource = some r) : u.Operational t r ∧ u.DealtTo [] := by
  obtain ⟨-, up, topology, reportInputs⟩ := Act.bootstrap_report ran
  rw [alwaysReports.report] at topology
  -- of the ways in which coming up can end, one is without an error
  cases Act.bootstrapHoldings_bootstrap ran with
  | up resource extension c _ started dealt =>
      have stock := congrArg Prod.fst dealt
      have compositor : u.compositor = c := congrArg Stock.compositor stock
      have allocator : u.allocator = h.allocator := congrArg Stock.allocator stock
      have described : u.core.resource = some resource := congrArg Stock.resource stock
      have faults : u.faults = h.faults := congrArg Stock.faults stock
      obtain ⟨-, -, rfl⟩ := Compositor.start_eq_ok started
      obtain rfl := Option.some.inj (known.symm.trans described)
      refine ⟨⟨up, topology, ⟨extension, by rw [compositor]⟩, by rw [faults, able],
        by rw [allocator, nothingDealt.limit], alwaysReports.asked.congr reportInputs⟩, ?_, ?_⟩
      · rw [compositor]
        refine ⟨List.nodup_nil, fun _ none_held => (nomatch none_held), Nat.zero_le _,
          fun _ none_held => (nomatch none_held), ?_⟩
        rw [show Compositor.active _ = [] from nothingDealt.active]
        exact List.Perm.refl []
      · rw [allocator, nothingDealt.outstanding]
        rfl

end Hub

end DisplayHub
