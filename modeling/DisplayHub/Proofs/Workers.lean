import DisplayHub.Proofs.Operation
import Mathlib.Data.List.Perm.Basic

/-!
# Workers

Several workers share a hub, and none of them gets in another's way.

Each worker has a display of its own in mind and goes through rounds: the display is
created, the report is refreshed, the display is destroyed. The operations of the hub
run one at a time, so what a worker may meet is any sequence of the others' operations
between two of its own. A schedule is a list of turns, and every schedule is
allowed. A worker that has nothing left to do lets its turn pass.

What could go wrong is that a display is not admitted. The compositor refuses a
number that is driven, a kind that is full, and a panel without a mixer, and all three
are about displays that others hold. The invariant says who holds what: every worker
between its first call and its last has one display in service, bound to the worker's
number and of the kind that the hardware reports for it, and nobody else has any
(`Hub.DividedAmong`). So nobody drives the number of a worker who is about to ask for it. And
whoever is active in its kind is another worker of that kind, so if there is room for
all of them, there is room for the one that is missing.

The report must stay the same, and that is more than the listing staying the same,
since reading files may change them (`Hub.AlwaysReports`).

## Main definitions

* `Worker.turn`: A worker's next call.
* `SharedHub.turn`, `SharedHub.after`: A turn of one worker, and a schedule.
* `Topology.HasRoomFor`: There is room for all workers together.
* `Hub.DividedAmong`: Who holds what.
* `SharedHub.NoInterference`: What holds after every schedule.

## Theorems

* `Hub.DividedAmong.admission`: A worker that asks for its display is admitted.
* `Hub.DividedAmong.turn`: A turn succeeds and keeps the invariant.
* `SharedHub.noInterference_after`: Every schedule.
-/

namespace DisplayHub

/-! ### Workers and schedules -/

/-- Where a worker is in its round. -/
inductive Stage where
  | ready
  /-- The display was created. -/
  | created (d : Display)
  /-- The report was refreshed after that. -/
  | refreshed (d : Display)
deriving DecidableEq

/-- Somebody who creates and destroys a display over and over. -/
structure Worker where
  id : Int32
  handler : Handler
  /-- The rounds that were not begun yet. -/
  rounds : Nat
  stage : Stage := .ready

namespace Worker

/-- The display that a worker holds. -/
def display? (w : Worker) : Option Display :=
  match w.stage with
  | .ready => none
  | .created d => some d
  | .refreshed d => some d

/-- How many calls a worker has to make still. -/
def left (w : Worker) : Nat :=
  match w.stage with
  | .ready => 3 * w.rounds
  | .created _ => 3 * w.rounds + 2
  | .refreshed _ => 3 * w.rounds + 1

/-- A worker's next call: the worker afterwards, what was answered, and the hub. A
    worker without a display has lost its round. -/
def turn (w : Worker) (h : Hub) : Worker × Option (Except Stop Unit) × Hub :=
  match w.stage, w.rounds with
  | .ready, 0 => (w, none, h)
  | .ready, rounds + 1 => match Act.createById w.id (some w.handler) h with
    | (.ok d, h) => ({ w with stage := .created d, rounds }, some (.ok ()), h)
    | (.error stop, h) => ({ w with rounds }, some (.error stop), h)
  | .created d, _ => match Act.refresh h with
    | (result, h) => ({ w with stage := .refreshed d }, some (result.map fun _ => ()), h)
  | .refreshed d, _ => match Act.destroy (some d) h with
    | (result, h) => ({ w with stage := .ready }, some result, h)

end Worker

/-- A hub, the workers who share it, and what their calls were answered. -/
structure SharedHub where
  hub : Hub
  workers : List Worker
  answers : List (Except Stop Unit) := []

namespace SharedHub

/-- A worker takes its turn. -/
def turn (c : SharedHub) (place : Nat) : SharedHub :=
  match c.workers[place]? with
  | none => c
  | some w => match w.turn c.hub with
    | (w, answer, hub) => ⟨hub, c.workers.set place w, c.answers ++ answer.toList⟩

/-- Workers take turns, in any order. -/
def after (c : SharedHub) (schedule : List Nat) : SharedHub :=
  schedule.foldl turn c

end SharedHub

/-! ### Who holds what -/

namespace Topology

/-- The kind of display under a number. -/
def kind (t : Topology) (k : Int32) : Option Variant :=
  (t.find? k).map (·.variant)

/-- There is room for displays with all of these numbers together. -/
structure HasRoomFor (t : Topology) (r : Resource) (ids : List Int32) : Prop where
  apart : ids.Nodup
  listed : ∀ k ∈ ids, ∃ e, t.find? k = some e ∧ (e.variant ≠ .offscreen → e.connected = true)
  kinds : ∀ v, ids.countP (fun k => t.kind k = some v) ≤ r.limit v
  /-- Each of those with a panel needs a mixer. -/
  mixers : ids.countP (fun k => t.kind k ≠ some .offscreen) ≤ r.mixers.toNat

variable {t : Topology} {r : Resource} {l l' : List Int32}

theorem HasRoomFor.perm (hasRoom : t.HasRoomFor r l) (same : l.Perm l') : t.HasRoomFor r l' where
  apart := same.nodup_iff.mp hasRoom.apart
  listed k among := hasRoom.listed k (same.mem_iff.mpr among)
  kinds v := by
    rw [← same.countP_eq]
    exact hasRoom.kinds v
  mixers := by
    rw [← same.countP_eq]
    exact hasRoom.mixers

end Topology

/-- A display is the one that a worker has to have. -/
structure Worker.Owns (t : Topology) (w : Worker) (d : Display) : Prop where
  id : d.id = some w.id
  kind : t.kind w.id = some d.variant
  serves : d.initialized = true
  free : d.stuck = none
  writeback : d.writeback?.isSome = decide (d.variant = .offscreen)

/-- Workers share a hub, and each has what it created and did not destroy yet. Nobody
    else has anything. -/
structure Hub.DividedAmong (t : Topology) (r : Resource) (h : Hub) (workers : List Worker) :
    Prop where
  operational : h.Operational t r
  accounts : Accounted 0 (workers.filterMap Worker.display?) h.compositor
  own : ∀ w ∈ workers, ∀ d, w.display? = some d → w.Owns t d
  outstanding : h.allocator.outstanding =
    (workers.filterMap Worker.display?).countP fun d => d.writeback?.isSome
  hasRoom : t.HasRoomFor r (workers.map Worker.id)

namespace Hub

variable {t : Topology} {r : Resource} {h u : Hub} {w : Worker} {l l' : List Worker}

/-- What is dealt out is with the workers who hold a display. -/
theorem DividedAmong.dealtTo (divided : h.DividedAmong t r l) :
    h.DealtTo (l.filterMap Worker.display?) :=
  ⟨divided.accounts, divided.outstanding⟩

theorem DividedAmong.perm (divided : h.DividedAmong t r l) (same : l.Perm l') :
    h.DividedAmong t r l' where
  operational := divided.operational
  accounts := divided.accounts.perm (same.filterMap _)
  own w among := divided.own w (same.mem_iff.mpr among)
  outstanding := by
    rw [← (same.filterMap Worker.display?).countP_eq]
    exact divided.outstanding
  hasRoom := divided.hasRoom.perm (same.map _)

/-- At most so many displays are active of some kinds as there are workers of these
    kinds. -/
theorem countP_active_le (accounts : Accounted 0 (l.filterMap Worker.display?) h.compositor)
    (own : ∀ w ∈ l, ∀ d, w.display? = some d → w.Owns t d) {p : Variant → Bool}
    {q : Int32 → Bool} (means : ∀ k v, t.kind k = some v → p v = true → q k = true) :
    h.compositor.active.countP (fun a => p a.variant) ≤ (l.map Worker.id).countP q := by
  rw [accounts.active.countP_eq, List.countP_filterMap, List.countP_filterMap, List.countP_map]
  -- a worker who counts on the left holds a display of its own kind
  refine List.countP_mono_left fun w among counts => ?_
  cases held : w.display? with
  | none =>
      rw [held] at counts
      nomatch counts
  | some d =>
      rw [held, Option.map_some, Option.getD_some] at counts
      cases claims : d.claim 0 with
      | none =>
          rw [claims] at counts
          nomatch counts
      | some a =>
          obtain ⟨-, -, same, -⟩ := Display.claim_eq_some_iff.mp claims
          rw [claims, Option.map_some, Option.getD_some, ← same] at counts
          exact means w.id d.variant (own w among d held).kind counts

/-- The others drive other numbers, and there is room for all of them and one more. -/
theorem refusal?_of_accounts {extension : Option Extension} {v : Variant}
    (setup : h.compositor.setup = some ⟨r, extension⟩)
    (accounts : Accounted 0 (l.filterMap Worker.display?) h.compositor)
    (others : ∀ u ∈ l, ∀ d, u.display? = some d → u.Owns t d)
    (hasRoom : t.HasRoomFor r ((w :: l).map Worker.id)) (kind : t.kind w.id = some v) :
    h.compositor.refusal? v (some w.id) = none := by
  refine Compositor.refusal?_eq_none_iff.mpr ⟨_, setup, ?_, ?_, fun panel => ?_⟩
  · -- whoever drives the number is a worker with that number, and there is no other
    rintro _ ⟨⟩ a active same
    obtain ⟨d, held, claims⟩ := List.mem_filterMap.mp (accounts.active.mem_iff.mp active)
    obtain ⟨u, among, holds⟩ := List.mem_filterMap.mp held
    have number := (others u among d holds).id
    rw [(Display.claim_eq_some_iff.mp claims).2.2.2, same] at number
    have apart := (List.nodup_cons.mp hasRoom.apart).1
    rw [Option.some.inj number] at apart
    exact apart (List.mem_map_of_mem among)
  · -- there is room for the others and for this worker, so they leave room for it
    have fewer := countP_active_le accounts others (p := (· = v))
      (q := fun k => t.kind k = some v) (by simp +contextual)
    have all := hasRoom.kinds v
    rw [List.map_cons, List.countP_cons_of_pos (by simp [kind])] at all
    exact Nat.lt_of_lt_of_le (Nat.lt_succ_of_le fewer) all
  · have fewer := countP_active_le accounts others (p := (· ≠ .offscreen))
      (q := fun k => t.kind k ≠ some .offscreen) (by simp +contextual)
    have all := hasRoom.mixers
    rw [List.map_cons, List.countP_cons_of_pos (by simp [kind, panel])] at all
    exact Nat.lt_of_lt_of_le (Nat.lt_succ_of_le fewer) all

/-- A worker that asks for its display is admitted, whatever the others hold. -/
theorem DividedAmong.admission (divided : h.DividedAmong t r (w :: l)) (ready : w.display? = none) :
    ∃ e, t.find? w.id = some e ∧ h.admission e.variant (some w.id) = .ok (some e) := by
  obtain ⟨operational, accounts, own, -, hasRoom⟩ := divided
  obtain ⟨extension, setup⟩ := operational.setup
  obtain ⟨e, there, joined⟩ := hasRoom.listed w.id List.mem_cons_self
  have kind : t.kind w.id = some e.variant := by
    unfold Topology.kind
    rw [there]
    rfl
  have idle : (w :: l).filterMap Worker.display? = l.filterMap Worker.display? :=
    List.filterMap_cons_none ready
  rw [idle] at accounts
  have others (u : Worker) (among : u ∈ l) := own u (List.mem_cons_of_mem w among)
  exact ⟨e, there, operational.admission_ok there joined
    (refusal?_of_accounts setup accounts others hasRoom kind)⟩

/-- A display that was admitted is its worker's. -/
theorem Admits.owned {e : Entry} {d : Display} (admits : h.Admits e.variant (some e) d u)
    (there : t.find? w.id = some e) : w.Owns t d := by
  obtain ⟨-, number⟩ := Topology.find?_eq_some_iff.mp there
  refine ⟨?_, ?_, ?_, admits.free, ?_⟩
  · rw [admits.id, Option.map_some, number]
  · unfold Topology.kind
    rw [there, admits.variant]
    rfl
  · unfold Display.initialized
    rw [admits.token]
    rfl
  · rw [admits.writeback, admits.variant]

/-- The hub has one display more. -/
theorem DividedAmong.create {e : Entry} {d : Display} {v : Worker}
    (divided : h.DividedAmong t r (w :: l))
    (ready : w.display? = none) (there : t.find? w.id = some e)
    (admits : h.Admits e.variant (some e) d u) (holds : v.display? = some d) (same : v.id = w.id) :
    u.DividedAmong t r (v :: l) := by
  have dealtTo := divided.dealtTo
  rw [List.filterMap_cons_none ready] at dealtTo
  have granted := dealtTo.grant admits
  rw [← List.filterMap_cons_some holds] at granted
  refine ⟨divided.operational.grant admits, granted.accounts, ?_, granted.outstanding, ?_⟩
  · rintro x among c held
    rcases List.mem_cons.mp among with rfl | among
    · obtain rfl := Option.some.inj (holds.symm.trans held)
      exact admits.owned (same ▸ there)
    · exact divided.own x (List.mem_cons_of_mem w among) c held
  · rw [List.map_cons, same, ← List.map_cons]
    exact divided.hasRoom

/-- The hub was asked once more, and everybody has what they had. -/
theorem DividedAmong.refresh {v : Worker} (divided : h.DividedAmong t r (w :: l))
    (holds : v.display? = w.display?) (same : v.id = w.id) : h.asked.DividedAmong t r (v :: l) := by
  have held : (v :: l).filterMap Worker.display? = (w :: l).filterMap Worker.display? := by
    rw [List.filterMap_cons, List.filterMap_cons, holds]
  have dealtTo := divided.dealtTo.same h.ground_asked
  rw [← held] at dealtTo
  refine ⟨divided.operational.asked, dealtTo.accounts, ?_, dealtTo.outstanding, ?_⟩
  · rintro x among c has
    rcases List.mem_cons.mp among with rfl | among
    · obtain ⟨id, kind, serves, free, writeback⟩ :=
        divided.own w List.mem_cons_self c (holds.symm.trans has)
      rw [← same] at id kind
      exact ⟨id, kind, serves, free, writeback⟩
    · exact divided.own x (List.mem_cons_of_mem w among) c has
  · rw [List.map_cons, same, ← List.map_cons]
    exact divided.hasRoom

/-- The hub has one display less. -/
theorem DividedAmong.destroy {d : Display} {v : Worker} (divided : h.DividedAmong t r (w :: l))
    (holds : w.display? = some d) (ready : v.display? = none) (same : v.id = w.id) :
    (Act.decommission d h).2.DividedAmong t r (v :: l) := by
  have dealtTo := divided.dealtTo
  rw [List.filterMap_cons_some holds] at dealtTo
  have released := dealtTo.release
  rw [← List.filterMap_cons_none ready] at released
  refine ⟨divided.operational.release d, released.accounts, ?_, released.outstanding, ?_⟩
  · rintro x among c held
    rcases List.mem_cons.mp among with rfl | among
    · rw [ready] at held
      nomatch held
    · exact divided.own x (List.mem_cons_of_mem w among) c held
  · rw [List.map_cons, same, ← List.map_cons]
    exact divided.hasRoom

/-- A turn succeeds, if it is not passed, and leaves everybody with what they have to
    have. -/
theorem DividedAmong.turn {v : Worker} {answer : Option (Except Stop Unit)}
    (divided : h.DividedAmong t r (w :: l)) (ran : w.turn h = (v, answer, u)) :
    u.DividedAmong t r (v :: l) ∧ (∀ a, answer = some a → a = .ok ()) ∧ v.left = w.left - 1 := by
  -- the stage decides which call it is
  rcases w with ⟨id, handler, rounds, stage⟩
  cases stage with
  | ready =>
      cases rounds with
      | zero =>
          cases ran
          exact ⟨divided, nofun, rfl⟩
      | succ rounds =>
          obtain ⟨e, there, admitted⟩ := divided.admission rfl
          obtain ⟨d, g, made, admits⟩ := divided.operational.createById_of_ok there admitted handler
          unfold Worker.turn at ran
          dsimp only at ran
          rw [made] at ran
          cases ran
          refine ⟨divided.create rfl there admits rfl rfl, ?_, ?_⟩
          · rintro _ ⟨⟩
            rfl
          · simp only [Worker.left]
            omega
  | created d =>
      unfold Worker.turn at ran
      dsimp only at ran
      rw [divided.operational.refresh] at ran
      cases ran
      refine ⟨divided.refresh rfl rfl, ?_, rfl⟩
      rintro _ ⟨⟩
      rfl
  | refreshed d =>
      have owns := divided.own _ List.mem_cons_self d rfl
      have gone := Act.decommission_of_free owns.free owns.serves h
      have rest := divided.destroy (v := ⟨id, handler, rounds, .ready⟩) rfl rfl rfl
      unfold Worker.turn Act.destroy at ran
      dsimp only at ran
      rcases ending : Act.decommission d h with ⟨answer, g⟩
      rw [ending] at gone rest ran
      obtain rfl : answer = .ok () := gone
      cases ran
      refine ⟨rest, ?_, rfl⟩
      rintro _ ⟨⟩
      rfl

end Hub

namespace SharedHub

/-- What holds of a shared hub after every schedule. -/
structure NoInterference (t : Topology) (c : SharedHub) : Prop where
  /-- No call fails. -/
  succeeded : ∀ answer ∈ c.answers, answer = .ok ()
  /-- Whatever is active is what some worker holds between creating and destroying
      it. -/
  active : c.hub.compositor.active.Perm
    (c.workers.filterMap fun w => w.display?.bind (Display.claim 0))
  /-- Every display that a worker holds is active, as the worker's own. -/
  own : ∀ w ∈ c.workers, ∀ d, w.display? = some d → ∃ token, d.token = some token ∧
    t.kind w.id = some d.variant ∧ ⟨token, d.variant, some w.id⟩ ∈ c.hub.compositor.active
  /-- Nothing is left behind by workers who have no more calls to make. -/
  done : (∀ w ∈ c.workers, w.left = 0) → c.hub.compositor.active = [] ∧
    c.hub.allocator.outstanding = 0 ∧ c.hub.core.topology = t

/-- What was dealt out is divided among the workers, and no call failed so far. -/
structure Invariant (t : Topology) (r : Resource) (c : SharedHub) : Prop where
  divided : c.hub.DividedAmong t r c.workers
  succeeded : ∀ answer ∈ c.answers, answer = .ok ()

variable {t : Topology} {r : Resource} {c : SharedHub}

theorem Invariant.noInterference (invariant : c.Invariant t r) : c.NoInterference t where
  succeeded := invariant.succeeded
  active := by
    rw [← List.filterMap_filterMap]
    exact invariant.divided.accounts.active
  own w among d held := by
    have owns := invariant.divided.own w among d held
    obtain ⟨token, has⟩ := Option.isSome_iff_exists.mp owns.serves
    refine ⟨token, has, owns.kind, invariant.divided.accounts.active.mem_iff.mpr ?_⟩
    refine List.mem_filterMap.mpr ⟨d, List.mem_filterMap.mpr ⟨w, among, held⟩, ?_⟩
    exact Display.claim_eq_some_iff.mpr ⟨has, Nat.zero_le _, rfl, owns.id⟩
  done finished := by
    -- whoever holds a display has a call left
    have empty : c.workers.filterMap Worker.display? = [] := by
      refine List.filterMap_eq_nil_iff.mpr fun w among => ?_
      have ended := finished w among
      unfold Worker.left at ended
      unfold Worker.display?
      cases stage : w.stage with
      | ready => rfl
      | created d =>
          rw [stage] at ended
          nomatch ended
      | refreshed d =>
          rw [stage] at ended
          nomatch ended
    have active := invariant.divided.accounts.active
    have outstanding := invariant.divided.outstanding
    rw [empty] at active outstanding
    exact ⟨active.eq_nil, outstanding, invariant.divided.operational.topology⟩

/-- Whoever takes a turn, no call fails, and one call less is left to that worker. -/
theorem Invariant.turn (invariant : c.Invariant t r) (place : Nat) : (c.turn place).Invariant t r ∧
    ∀ i w, c.workers[i]? = some w → ∃ v, (c.turn place).workers[i]? = some v ∧
      v.left = w.left - if place = i then 1 else 0 := by
  unfold SharedHub.turn
  cases there : c.workers[place]? with
  | none =>
      refine ⟨invariant, fun i w held => ⟨w, held, ?_⟩⟩
      have elsewhere : place ≠ i := by
        rintro rfl
        nomatch there.symm.trans held
      rw [if_neg elsewhere]
      rfl
  | some u =>
      rcases ran : u.turn c.hub with ⟨v, answer, hub⟩
      obtain ⟨inside, rfl⟩ := List.getElem?_eq_some_iff.mp there
      -- the worker is taken to the front, and put back afterwards
      have front := List.getElem_cons_eraseIdx_perm inside
      obtain ⟨divided, succeeded, left⟩ := (invariant.divided.perm front.symm).turn ran
      have back := List.set_perm_cons_eraseIdx inside v
      dsimp only
      rw [ran]
      refine ⟨⟨divided.perm back.symm, fun a among => ?_⟩, fun i w held => ?_⟩
      · rcases List.mem_append.mp among with before | now
        · exact invariant.succeeded a before
        · exact succeeded a (Option.mem_toList.mp now)
      · by_cases own : place = i
        · subst own
          rw [there] at held
          obtain rfl := Option.some.inj held
          exact ⟨v, List.getElem?_set_self inside, by rw [if_pos rfl]; exact left⟩
        · refine ⟨w, ?_, by rw [if_neg own]; rfl⟩
          rw [List.getElem?_set_ne own]
          exact held

theorem Invariant.after (invariant : c.Invariant t r) (schedule : List Nat) :
    (c.after schedule).Invariant t r ∧
    ∀ i w, c.workers[i]? = some w → ∃ v, (c.after schedule).workers[i]? = some v ∧
      v.left = w.left - schedule.count i := by
  induction schedule generalizing c with
  | nil => exact ⟨invariant, fun i w held => ⟨w, held, rfl⟩⟩
  | cons place rest ih =>
      obtain ⟨first, fewer⟩ := invariant.turn place
      obtain ⟨last, still⟩ := ih first
      refine ⟨last, fun i w held => ?_⟩
      obtain ⟨v, there, less⟩ := fewer i w held
      obtain ⟨x, found, least⟩ := still i v there
      refine ⟨x, found, ?_⟩
      simp only [least, less, List.count_cons, beq_iff_eq]
      omega

end SharedHub

/-! ### The beginning -/

namespace Hub

variable {t : Topology} {r : Resource} {h u : Hub} {l : List Worker}

/-- A hub that has just come up is divided among workers who have nothing yet. -/
theorem divided_bootstrap (nothingDealt : h.NothingDealt) (alwaysReports : h.AlwaysReports t)
    (able : h.faults .register = none) (ran : Act.bootstrap h = (.ok (), u))
    (known : u.core.resource = some r) (hasRoom : t.HasRoomFor r (l.map Worker.id))
    (ready : ∀ w ∈ l, w.stage = .ready) : u.DividedAmong t r l := by
  obtain ⟨operational, dealtTo⟩ := operational_bootstrap nothingDealt alwaysReports able ran known
  have idle (w : Worker) (among : w ∈ l) : w.display? = none := by
    unfold Worker.display?
    rw [ready w among]
  have free : l.filterMap Worker.display? = [] := List.filterMap_eq_nil_iff.mpr idle
  rw [← free] at dealtTo
  refine ⟨operational, dealtTo.accounts, fun w among d held => ?_, dealtTo.outstanding, hasRoom⟩
  nomatch (idle w among).symm.trans held

end Hub

namespace SharedHub

/-- Workers who share a hub that has just come up never meet a failure, whatever the
    order in which they are served, as long as there is room for all of them. Only they
    are active, a worker who was served often enough is done, and together they leave
    nothing behind. -/
theorem noInterference_after {h : Hub} {t : Topology} {r : Resource} {workers : List Worker}
    (nothingDealt : h.NothingDealt) (alwaysReports : h.AlwaysReports t)
    (able : h.faults .register = none)
    (up : (Act.bootstrap h).1 = .ok ()) (known : (Act.bootstrap h).2.core.resource = some r)
    (hasRoom : t.HasRoomFor r (workers.map Worker.id)) (ready : ∀ w ∈ workers, w.stage = .ready)
    (schedule : List Nat) :
    ((SharedHub.mk (Act.bootstrap h).2 workers []).after schedule).NoInterference t ∧
    ∀ i w, workers[i]? = some w →
      ∃ v, ((SharedHub.mk (Act.bootstrap h).2 workers []).after schedule).workers[i]? = some v ∧
        v.left = 3 * w.rounds - schedule.count i := by
  rcases ran : Act.bootstrap h with ⟨answer, u⟩
  rw [ran] at up known
  obtain rfl : answer = .ok () := up
  have divided := Hub.divided_bootstrap nothingDealt alwaysReports able ran known hasRoom ready
  have invariant : (SharedHub.mk u workers []).Invariant t r :=
    ⟨divided, fun _ none_given => nomatch none_given⟩
  -- the invariant is kept by whoever is served next, so it holds after any schedule
  obtain ⟨last, left⟩ := invariant.after schedule
  refine ⟨last.noInterference, fun i w held => ?_⟩
  obtain ⟨v, there, less⟩ := left i w held
  refine ⟨v, there, less.trans ?_⟩
  -- a round is served three times: to create, to ask again and to destroy
  have whole : w.left = 3 * w.rounds := by
    unfold Worker.left
    rw [ready w (List.mem_of_getElem? held)]
  rw [whole]

end SharedHub

namespace Session

/-- A panel and two off-screen displays, of which one is not connected. -/
def sharedSession : Session :=
  recording false { maxOffscreen := 2 }
    [.scripted 10 .offscreen false, .scripted 11 .offscreen true, .scripted 12 .builtIn true] none

/-- One worker for each display, and one of them with two rounds. -/
def threeWorkers : List Worker :=
  [⟨10, .record, 2, .ready⟩, ⟨11, .reenter, 1, .ready⟩, ⟨12, .record, 1, .ready⟩]

/-- All three are at work at once, and all of them come to their end. -/
theorem noInterference_after_work : sharedSession.hub.NothingDealt ∧
    (Act.bootstrap sharedSession.hub).1 = .ok () ∧
    ((SharedHub.mk (Act.bootstrap sharedSession.hub).2 threeWorkers []).after
    [0, 2, 1]).hub.compositor.active.length
      = 3 ∧
    ((SharedHub.mk (Act.bootstrap sharedSession.hub).2 threeWorkers []).after
      [0, 2, 1, 1, 0, 0, 2, 0, 1, 2, 0, 0]).NoInterference
        (Topology.ofList [.scripted 10 .offscreen false, .scripted 11 .offscreen true,
          .scripted 12 .builtIn true]) := by
  have nothingDealt : sharedSession.hub.NothingDealt := ⟨rfl, rfl, rfl⟩
  have alwaysReports : sharedSession.hub.AlwaysReports
    (Topology.ofList [.scripted 10 .offscreen false,
      .scripted 11 .offscreen true, .scripted 12 .builtIn true]) :=
        Hub.alwaysReports_of_still rfl rfl
  have hasRoom : (Topology.ofList [.scripted 10 .offscreen false, .scripted 11 .offscreen true,
      .scripted 12 .builtIn true]).HasRoomFor { maxOffscreen := 2 }
      (threeWorkers.map Worker.id) := by
    refine ⟨by decide, ?_, ?_, by decide⟩
    · intro k among
      simp only [threeWorkers, List.map_cons, List.map_nil, List.mem_cons, List.not_mem_nil,
        or_false] at among
      rcases among with rfl | rfl | rfl
      · exact ⟨_, rfl, fun panel => absurd rfl panel⟩
      · exact ⟨_, rfl, fun _ => rfl⟩
      · exact ⟨_, rfl, fun _ => rfl⟩
    · intro v
      cases v <;> decide
  exact ⟨nothingDealt, rfl, rfl,
    (SharedHub.noInterference_after nothingDealt alwaysReports rfl rfl rfl hasRoom (by decide) _).1⟩

end Session

end DisplayHub
