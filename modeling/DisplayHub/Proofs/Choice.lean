import DisplayHub.Proofs.Admission
import DisplayHub.Proofs.Run

/-!
# Choice

Which entry of a report a display drives.

A display that is bound to a number has no choice: it drives the entry that is
reported under that number, or nothing. A display without a number goes through
the report twice, first for a primary entry and then for any. Both times it passes
over what it could not drive, so a primary panel that is unplugged, or a primary
entry of another kind, hides nothing. A report is in the order of its numbers.
What is found first is therefore what has the lowest number, and the choice can be
told without mentioning any order of going through (`Topology.Prefers`).

Once the choice is made, it does not matter how. A new display without a number
and one with the number of the entry that is chosen are the same display as soon
as they were resolved, and what they ask for afterwards they ask for alike
(`Serve.bringUp_chosen`). This is why a kind and a number are two ways to ask for
one thing, as long as the number comes from what the hardware reports.

## Main definitions

* `Entry.Usable`: An entry that a display can drive.
* `Topology.Lowest`: The entry of some sort with the lowest number.
* `Topology.Prefers`: The entry that a display without a number drives.
* `Serve.Finds`: What comes of looking for an entry in a report.
* `Act.Interchangeable`: Asking by kind and asking by number agree.

## Theorems

* `Topology.find?_eq_some_iff_lowest`: What is found first is the lowest.
* `Topology.chooseUnbound_eq_ok_iff`: The choice of a display without a number.
* `Serve.resolve_finds`: What any display finds, whatever is reported.
* `Act.create_interchangeable`: A kind and a number are two ways to ask for one
  display.
-/

namespace DisplayHub

/-- An entry is of a kind, and connected where it has to be. -/
def Entry.Usable (e : Entry) (v : Variant) (connected : Bool) : Prop :=
  e.variant = v ∧ (connected = true → e.connected = true)

theorem Display.suits_iff {v : Variant} {connected : Bool} {e : Entry} :
    Display.suits v connected e = true ↔ e.Usable v connected := by
  unfold Display.suits Entry.Usable
  cases connected <;> simp

namespace Topology

variable {t : Topology} {v : Variant} {connected : Bool} {e : Entry}

/-- The entry of a report that has the lowest number of its sort. -/
def Lowest (t : Topology) (p : Entry → Prop) (e : Entry) : Prop :=
  e ∈ t.entries ∧ p e ∧ ∀ a ∈ t.entries, p a → e.id.toInt ≤ a.id.toInt

/-- The entry that a display without a number drives: the lowest primary one that
    it can drive, or the lowest one if none of them is primary. -/
def Prefers (t : Topology) (v : Variant) (connected : Bool) (e : Entry) : Prop :=
  t.Lowest (fun a => a.Usable v connected ∧ a.primary = true) e ∨
    (∀ a ∈ t.entries, a.Usable v connected → a.primary = false) ∧
      t.Lowest (fun a => a.Usable v connected) e

theorem Prefers.usable (preferred : t.Prefers v connected e) :
    e ∈ t.entries ∧ e.Usable v connected := by
  rcases preferred with ⟨member, ⟨usable, -⟩, -⟩ | ⟨-, member, usable, -⟩
  · exact ⟨member, usable⟩
  · exact ⟨member, usable⟩

/-- What is found first in a report is what has the lowest number of its sort. -/
theorem find?_eq_some_iff_lowest {p : Entry → Bool} :
    t.entries.find? p = some e ↔ t.Lowest (fun a => p a = true) e := by
  obtain ⟨entries, rising⟩ := t
  unfold Lowest
  dsimp only
  induction entries with
  | nil => simp
  | cons a rest ih =>
      obtain ⟨first, later⟩ := List.pairwise_cons.mp rising
      have rest_iff := ih later
      by_cases sort : p a = true
      · rw [List.find?_cons_of_pos sort]
        constructor
        · rintro ⟨⟩
          refine ⟨List.mem_cons_self, sort, fun b member _ => ?_⟩
          rcases List.mem_cons.mp member with rfl | member
          · exact Int.le_refl _
          · exact Int.le_of_lt (first b member)
        · rintro ⟨member, -, least⟩
          -- the head is of the sort itself, and lower than everything behind it
          rcases List.mem_cons.mp member with rfl | member
          · rfl
          · have low := least a List.mem_cons_self sort
            have high : a.id.toInt < e.id.toInt := first e member
            omega
      · rw [List.find?_cons_of_neg sort, rest_iff]
        constructor
        · rintro ⟨member, fits, least⟩
          refine ⟨List.mem_cons_of_mem a member, fits, fun b there of => ?_⟩
          rcases List.mem_cons.mp there with rfl | there
          · exact absurd of sort
          · exact least b there of
        · rintro ⟨member, fits, least⟩
          rcases List.mem_cons.mp member with rfl | member
          · exact absurd fits sort
          · exact ⟨member, fits, fun b there of => least b (List.mem_cons_of_mem a there) of⟩

/-- Of one sort there is one lowest entry. -/
theorem Lowest.unique {p : Entry → Prop} {a b : Entry} (low : t.Lowest p a)
    (also : t.Lowest p b) : a = b := by
  obtain ⟨here, sort, least⟩ := low
  obtain ⟨there, same, lower⟩ := also
  have number : a.id = b.id :=
    Int32.toInt_inj.mp (Int.le_antisymm (least b there same) (lower a here sort))
  have found := find?_eq_some_iff.mpr ⟨here, number⟩
  rw [find?_eq_some_iff.mpr ⟨there, rfl⟩] at found
  exact (Option.some.inj found).symm

/-- A display without a number drives the entry that it prefers. -/
theorem chooseUnbound_eq_ok_iff :
    Display.chooseUnbound v connected t = .ok e ↔ t.Prefers v connected e := by
  have lowest {a : Entry} : t.entries.find? (Display.suits v connected) = some a ↔
      t.Lowest (fun a => a.Usable v connected) a := by
    rw [find?_eq_some_iff_lowest]
    simp only [Display.suits_iff]
  have lowest_primary {a : Entry} :
      t.entries.find? (fun e => Display.suits v connected e && e.primary) = some a ↔
        t.Lowest (fun a => a.Usable v connected ∧ a.primary = true) a := by
    rw [find?_eq_some_iff_lowest]
    simp only [Bool.and_eq_true, Display.suits_iff]
  unfold Display.chooseUnbound Prefers
  -- a primary entry that suits goes before all others, however low their numbers are
  cases primary : t.entries.find? fun e => Display.suits v connected e && e.primary with
  | some a =>
      have low := lowest_primary.mp primary
      constructor
      · rintro ⟨⟩
        exact Or.inl low
      · rintro (chosen | ⟨none, -⟩)
        · exact congrArg Except.ok (low.unique chosen)
        · have plain := none a low.1 low.2.1.1
          rw [low.2.1.2] at plain
          nomatch plain
  | none =>
      have plain : ∀ a ∈ t.entries, a.Usable v connected → a.primary = false := by
        intro a member usable
        have unfit := List.find?_eq_none.mp primary a member
        simpa [Display.suits_iff, usable] using unfit
      have no_primary : ¬ t.Lowest (fun a => a.Usable v connected ∧ a.primary = true) e := by
        rintro ⟨member, ⟨usable, shown⟩, -⟩
        rw [plain e member usable] at shown
        nomatch shown
      rw [or_iff_right no_primary, and_iff_right plain, ← lowest]
      cases t.entries.find? (Display.suits v connected) with
      | some a =>
          constructor
          · rintro ⟨⟩
            rfl
          · rintro ⟨⟩
            rfl
      | none => exact ⟨nofun, nofun⟩

theorem chooseUnbound_error {f : Failure}
    (refused : Display.chooseUnbound v connected t = .error f) : (∃ text, f = .hardware text) ∧
      ∀ a ∈ t.entries, ¬ a.Usable v connected := by
  unfold Display.chooseUnbound at refused
  revert refused
  cases t.entries.find? fun e => Display.suits v connected e && e.primary with
  | some a => exact nofun
  | none =>
      cases other : t.entries.find? (Display.suits v connected) with
      | some a => exact nofun
      | none =>
          rintro ⟨⟩
          refine ⟨⟨_, rfl⟩, fun a member usable => ?_⟩
          exact List.find?_eq_none.mp other a member (Display.suits_iff.mpr usable)

end Topology

namespace Serve

/-! ### What is found -/

/-- What comes of looking for an entry in a report: the answer, and the display
    afterwards. -/
structure Finds (t : Topology) (connected : Bool) (d : Display) (answer : Except Stop Entry)
    (d' : Display) : Prop where
  /-- A number means its entry, which has to be usable. -/
  bound : ∀ k, d.id = some k → ∀ e, answer = .ok e ↔
    t.find? k = some e ∧ e.Usable d.variant connected
  /-- Without a number there is an entry if any is usable, -/
  offered : d.id = none →
    ((∃ e, answer = .ok e) ↔ ∃ e ∈ t.entries, e.Usable d.variant connected)
  /-- and it is the one preferred. -/
  unbound : d.id = none → ∀ e, answer = .ok e ↔ t.Prefers d.variant connected e
  /-- The display is bound to what it found, and named for it if it was not bound
      before. -/
  binds : ∀ e, answer = .ok e → d' = { d with
    id := some e.id
    name := if d.id = none then d.variant.displayName (some e.id) else d.name }
  /-- So it is named for what it found wherever its name agreed. -/
  named : ∀ e, answer = .ok e → d.NameAgrees → d'.name = d.variant.displayName (some e.id)
  /-- Whatever else happens is the hardware's fault, and leaves the display. -/
  missed : ∀ stop, answer = .error stop → (∃ text, stop = .failure (.hardware text)) ∧ d' = d

variable {d : Display} {h : Hub} {t : Topology} {connected : Bool}

/-- A display that finds an entry is bound to that one afterwards, whether it was
    bound before or not. It is renamed only if it was not. -/
theorem bind_chosen {e : Entry} (chosen : d.choose connected t = .ok e) :
    d.bind e.id = { d with
      id := some e.id
      name := if d.id = none then d.variant.displayName (some e.id) else d.name } := by
  obtain ⟨body, id, name, handler, provider, token, power, concrete, stuck⟩ := d
  cases id with
  | none => rfl
  | some k =>
      obtain ⟨there, -, -⟩ := Topology.chooseBound_eq_ok_iff.mp chosen
      obtain ⟨-, rfl⟩ := Topology.find?_eq_some_iff.mp there
      rfl

theorem choose_error {f : Failure} (refused : d.choose connected t = .error f) :
    ∃ text, f = .hardware text := by
  unfold Display.choose at refused
  cases number : d.id with
  | none =>
      rw [number] at refused
      exact (Topology.chooseUnbound_error refused).1
  | some k =>
      rw [number] at refused
      exact Topology.chooseBound_error refused

theorem resolve_of_report (report : h.report = .ok t) : resolve connected (d, h) =
    match d.choose connected t with
    | .ok e => (.ok e, d.bind e.id, h.asked)
    | .error f => (.error (.failure f), d, h.asked) := by
  have applied := resolve_apply connected d h
  rw [report] at applied
  exact applied

theorem resolve_ok_iff {e : Entry} (report : h.report = .ok t) :
    (resolve connected (d, h)).1 = .ok e ↔ d.choose connected t = .ok e := by
  rw [resolve_of_report report]
  cases d.choose connected t with
  | ok a =>
      dsimp only
      rw [Except.ok.injEq, Except.ok.injEq]
  | error f => exact ⟨nofun, nofun⟩

theorem resolve_eq_error {stop : Stop} (report : h.report = .ok t)
    (refused : (resolve connected (d, h)).1 = .error stop) : ∃ f, stop = .failure f ∧
      d.choose connected t = .error f ∧ (resolve connected (d, h)).2.1 = d := by
  rw [resolve_of_report report] at refused ⊢
  cases choice : d.choose connected t with
  | ok a =>
      rw [choice] at refused
      nomatch refused
  | error f =>
      rw [choice] at refused
      obtain rfl := Except.error.inj refused
      exact ⟨f, rfl, rfl, rfl⟩

/-- Whatever is reported, a display finds what it is meant to drive, if that is
    there and usable. Otherwise it fails with the hardware, or with the very words
    of the provider that had no report, and is as it was. -/
theorem resolve_finds (connected : Bool) (d : Display) (h : Hub) :
    (∀ t, h.report = .ok t →
      Finds t connected d (resolve connected (d, h)).1 (resolve connected (d, h)).2.1) ∧
    ∀ stop, h.report = .error stop → resolve connected (d, h) = (.error stop, d, h.asked) := by
  constructor
  · intro t report
    -- what is preferred, where there is no number
    have unbound (free : d.id = none) (e : Entry) :
        (resolve connected (d, h)).1 = .ok e ↔ t.Prefers d.variant connected e := by
      rw [resolve_ok_iff report, ← Topology.chooseUnbound_eq_ok_iff]
      unfold Display.choose
      rw [free]
    have after (e : Entry) (found : (resolve connected (d, h)).1 = .ok e) :
        d.choose connected t = .ok e ∧ (resolve connected (d, h)).2.1 = d.bind e.id := by
      have chosen := (resolve_ok_iff report).mp found
      exact ⟨chosen, by rw [resolve_of_report report, chosen]⟩
    refine ⟨?_, ?_, unbound, ?_, ?_, ?_⟩
    · intro k number e
      rw [resolve_ok_iff report]
      unfold Display.choose Entry.Usable
      rw [number]
      exact Topology.chooseBound_eq_ok_iff
    · intro free
      constructor
      · rintro ⟨e, found⟩
        exact ⟨e, ((unbound free e).mp found).usable⟩
      · rintro ⟨e, member, usable⟩
        cases answer : (resolve connected (d, h)).1 with
        | ok a => exact ⟨a, rfl⟩
        | error stop =>
            obtain ⟨f, -, refused, -⟩ := resolve_eq_error report answer
            unfold Display.choose at refused
            rw [free] at refused
            exact absurd usable ((Topology.chooseUnbound_error refused).2 e member)
    · intro e found
      obtain ⟨chosen, bound⟩ := after e found
      rw [bound, bind_chosen chosen]
    · intro e found agrees
      obtain ⟨chosen, bound⟩ := after e found
      have number : (d.bind e.id).id = some e.id := by rw [bind_chosen chosen]
      rw [bound, agrees.bind e.id, number]
      rfl
    · intro stop refused
      obtain ⟨f, rfl, missed, same⟩ := resolve_eq_error report refused
      obtain ⟨text, rfl⟩ := choose_error missed
      exact ⟨⟨text, rfl⟩, same⟩
  · intro stop report
    rw [resolve_apply, report]

end Serve

namespace Session

/-- A hub that is up with a primary panel unplugged, another kind's primary entry,
    and panels behind them. -/
def shadowed : Session :=
  (recording false {}
    [ { id := 1, variant := .builtIn, connected := false, primary := true },
      { id := 2, variant := .pluggable, connected := true, primary := true },
      { id := 3, variant := .builtIn, connected := true },
      { id := 4, variant := .builtIn, connected := true } ] none).after [.bootstrap]

/-- A display with a panel drives the lowest one that it can, if none of those is
    primary, and the unplugged one only where it need not be connected. A display
    that is bound to that one drives nothing. -/
theorem resolve_finds_shadowed :
    (∃ e, (Serve.resolve true (.fresh .builtIn none .record none, shadowed.hub)).1 = .ok e ∧
      e.id = 3 ∧ ∃ t, shadowed.hub.report = .ok t ∧ t.Prefers .builtIn true e) ∧
    (∃ e, (Serve.resolve false (.fresh .builtIn none .record none, shadowed.hub)).1 = .ok e ∧
      e.id = 1) ∧
    ∃ stop text, (Serve.resolve true (.fresh .builtIn (some 1) .record none,
      shadowed.hub)).1 = .error stop ∧ stop = .failure (.hardware text) := by
  refine ⟨⟨_, rfl, rfl, _, rfl, ?_⟩, ⟨_, rfl, rfl⟩, ?_⟩
  · exact (((Serve.resolve_finds true (.fresh .builtIn none .record none)
      shadowed.hub).1 _ rfl).unbound rfl _).mp rfl
  · obtain ⟨text, hardware⟩ := (((Serve.resolve_finds true (.fresh .builtIn (some 1) .record none)
      shadowed.hub).1 _ rfl).missed _ rfl).1
    exact ⟨_, text, rfl, hardware⟩

end Session

namespace Topology

variable {t : Topology} {v : Variant} {e : Entry} {f : Failure}

/-- What is chosen for a kind is what its number means. -/
theorem entryFor_number (chosen : t.entryFor v none = .ok e) :
    t.entryFor v (some e.id) = .ok e := by
  obtain ⟨there, kind, joined, -⟩ := entryFor_ok chosen
  exact chooseBound_eq_ok_iff.mpr ⟨there, kind, fun panel => joined (of_decide_eq_true panel)⟩

theorem entryFor_error {id : Option Int32} (missed : t.entryFor v id = .error f) :
    ∃ text, f = .hardware text := by
  cases id with
  | none => exact (chooseUnbound_error missed).1
  | some k => exact chooseBound_error missed

/-- Where a number means an entry, one is chosen for its kind, if not that one. -/
theorem entryFor_none_of_number {k : Int32} (found : t.entryFor v (some k) = .ok e) :
    ∃ a, t.entryFor v none = .ok a := by
  obtain ⟨there, kind, joined⟩ := chooseBound_eq_ok_iff.mp found
  cases choice : t.entryFor v none with
  | ok a => exact ⟨a, rfl⟩
  | error f =>
      exact absurd ⟨kind, joined⟩
        ((chooseUnbound_error choice).2 e (find?_eq_some_iff.mp there).1)

end Topology

namespace Hub

variable {h : Hub} {t : Topology} {v : Variant} {id : Option Int32}

/-- A panel that found its entry is admitted if the compositor has a token for it. -/
theorem admission_of_found {e : Entry} (panel : v ≠ .offscreen) (report : h.report = .ok t)
    (found : t.entryFor v id = .ok e) :
    h.admission v id = (h.tokenAnswer v (some e.id)).map fun _ => some e := by
  rw [admission_of_panel panel, finding_of_looks fun both => panel both.1, report]
  dsimp only
  rw [found]
  rfl

theorem admission_of_missed {f : Failure} (panel : v ≠ .offscreen) (report : h.report = .ok t)
    (missed : t.entryFor v id = .error f) : h.admission v id = .error (.failure f) := by
  rw [admission_of_panel panel, finding_of_looks fun both => panel both.1, report]
  dsimp only
  rw [missed]

/-- No rule of the compositor is put down to the hardware. What is comes from a
    fault, whatever the display. -/
theorem tokenAnswer_hardware {text : String}
    (broken : h.tokenAnswer v id = .error (.failure (.hardware text))) (other : Option Int32) :
    h.tokenAnswer v other = .error (.failure (.hardware text)) := by
  unfold tokenAnswer at broken ⊢
  revert broken
  cases h.barred .register with
  | error stop => exact fun same => same
  | ok _ =>
      dsimp only
      cases h.compositor.refusal? v id with
      | none => exact nofun
      | some refusal => cases refusal <;> exact nofun

end Hub

namespace Serve

variable {h : Hub} {t : Topology} {v : Variant} {handler : Handler} {provider : Option Nat}

/-- A new display without a number comes into service as the one with the number of
    the entry that is chosen for it. -/
theorem bringUp_chosen {e : Entry} (panel : v ≠ .offscreen) (report : h.report = .ok t)
    (chosen : t.entryFor v none = .ok e) :
    bringUp (.fresh v none handler provider, h) =
      bringUp (.fresh v (some e.id) handler provider, h) := by
  have same : resolve true (.fresh v none handler provider, h) =
      resolve true (.fresh v (some e.id) handler provider, h) := by
    have choice (id : Option Int32) :
        (Display.fresh v id handler provider).choose true t = t.entryFor v id := by
      rw [← choose_fresh, decide_eq_true panel]
    have number := Topology.entryFor_number chosen
    rw [resolve_of_report report, resolve_of_report report, choice, choice, chosen, number]
    dsimp only
    rw [bind_fresh chosen, bind_fresh number]
  -- from there on it is one display
  cases v with
  | offscreen => exact absurd rfl panel
  | builtIn =>
      change bringUpPanel (_, h) = bringUpPanel (_, h)
      unfold bringUpPanel
      rw [bind_apply, bind_apply, same]
  | pluggable =>
      change bringUpConnector (_, h) = bringUpConnector (_, h)
      unfold bringUpConnector
      rw [bind_apply, bind_apply, same]

end Serve

namespace Act

variable {h : Hub} {v : Variant} {id : Option Int32} {handler : Handler}

theorem construct_error_iff {stop : Stop} (up : h.initialized = true) :
    (construct v id handler h).1 = .error stop ↔ h.admission v id = .error stop := by
  obtain ⟨provider, held⟩ := Option.isSome_iff_exists.mp up
  rw [construct_of_provider held]
  cases admitted : h.admission v id with
  | error other =>
      rw [commission_of_error admitted]
      simp
  | ok entry =>
      obtain ⟨d, h', created, -⟩ := commission_of_ok admitted
      rw [created]
      exact ⟨nofun, nofun⟩

/-- A construction that fails for another reason fails in a hub that is up. -/
theorem up_of_construct_error {f : Failure} (other : f ≠ .notInitialized)
    (refused : (construct v id handler h).1 = .error (.failure f)) : h.initialized = true := by
  refine Decidable.byContradiction fun down => ?_
  rw [construct_of_down (Bool.not_eq_true _ ▸ down)] at refused
  exact other (Stop.failure.inj (Except.error.inj refused)).symm

/-- Two displays that come into service alike are one display when they are created. -/
theorem commission_congr {d e : Display} {v : Variant} {id other : Option Int32}
    (same : Serve.bringUp (d, h) = Serve.bringUp (e, h)) {made : Display}
    (created : (commission d v id h).1 = .ok made) :
    commission e v other h = commission d v id h := by
  unfold commission at created ⊢
  rw [← same]
  revert created
  obtain ⟨r, u, g⟩ := Serve.bringUp (d, h)
  cases r with
  | ok _ => exact fun _ => rfl
  | error stop => cases stop <;> exact nofun

/-- Asking for a display by its kind and asking for it by its number agree. -/
structure Interchangeable (h : Hub) (v : Variant) (handler : Option Handler) : Prop where
  /-- What is created for the kind is created by its number, with the same hub left
      behind. -/
  created : ∀ d, (create v handler h).1 = .ok d →
    ∃ k, d.id = some k ∧ createById k handler h = create v handler h
  /-- Where resources run short, they do for the entry that was chosen. -/
  crowded : (create v handler h).1 = .error (.failure .resources) →
    ∃ e, h.core.topology.Prefers v true e ∧
      (createById e.id handler h).1 = .error (.failure .resources)
  /-- Where the hardware fails, it does for every number of the kind. -/
  broken : ∀ text, (create v handler h).1 = .error (.failure (.hardware text)) →
    ∀ e ∈ h.core.topology.entries, e.variant = v →
      ∃ reason, (createById e.id handler h).1 = .error (.failure (.hardware reason))
  /-- And asking by the code of a kind is asking for the kind, in any hub. -/
  coded : ∀ (w : Variant) (code : Int32) (handler : Option Handler) (u : Hub), w.code = code →
    createByCode code handler u = create w handler u

/-- A number that the last report has is its entry's. -/
theorem createById_of_member {e : Entry} (member : e ∈ h.core.topology.entries)
    (kind : e.variant = v) (handler : Handler) :
    createById e.id (some handler) h = construct v (some e.id) handler h := by
  rw [createById_apply, Topology.find?_eq_some_iff.mpr ⟨member, rfl⟩]
  dsimp only
  rw [kind]

theorem createByCode_code (v : Variant) (handler : Option Handler) (u : Hub) :
    createByCode v.code handler u = create v handler u := by
  unfold createByCode create
  rw [Variant.ofCode_eq_some_iff.mpr rfl]

/-- What is chosen for a kind is known by its number. -/
theorem createById_chosen {e : Entry} (chosen : h.core.topology.entryFor v none = .ok e)
    (handler : Handler) : createById e.id (some handler) h = construct v (some e.id) handler h := by
  obtain ⟨there, kind, -, -⟩ := Topology.entryFor_ok chosen
  exact createById_of_member (Topology.find?_eq_some_iff.mp there).1 kind handler

section Current

variable (panel : v ≠ .offscreen) (current : h.report = .ok h.core.topology)

include panel current

/-- What is created for a kind is created by its number. -/
theorem createById_of_created {d : Display} (created : (construct v none handler h).1 = .ok d) :
    ∃ k, d.id = some k ∧ createById k (some handler) h = construct v none handler h := by
  obtain ⟨provider, held⟩ := Option.isSome_iff_exists.mp (up_of_construct created)
  obtain ⟨found, finding, admits⟩ := construct_ok created
  rw [Hub.finding_of_looks fun both => panel both.1, current] at finding
  dsimp only at finding
  cases choice : h.core.topology.entryFor v none with
  | error f =>
      rw [choice] at finding
      nomatch finding
  | ok e =>
      rw [choice] at finding
      obtain rfl := Except.ok.inj finding
      refine ⟨e.id, admits.id, ?_⟩
      rw [construct_of_provider held] at created
      rw [createById_chosen choice, construct_of_provider held,
        construct_of_provider held]
      exact commission_congr (Serve.bringUp_chosen panel current choice) created

/-- Where resources run short for a kind, they do for the number of the entry that was
    chosen. -/
theorem createById_of_crowded
    (crowded : (construct v none handler h).1 = .error (.failure .resources)) :
    ∃ e, h.core.topology.Prefers v true e ∧
      (createById e.id (some handler) h).1 = .error (.failure .resources) := by
  have up := up_of_construct_error Failure.noConfusion crowded
  rw [construct_error_iff up] at crowded
  cases choice : h.core.topology.entryFor v none with
  | error f =>
      -- nothing to drive would be put down to the hardware
      obtain ⟨text, rfl⟩ := Topology.entryFor_error choice
      rw [Hub.admission_of_missed panel current choice] at crowded
      nomatch crowded
  | ok e =>
      have preferred := Topology.chooseUnbound_eq_ok_iff.mp choice
      rw [decide_eq_true panel] at preferred
      refine ⟨e, preferred, ?_⟩
      rw [createById_chosen choice, construct_error_iff up,
        Hub.admission_of_found panel current (Topology.entryFor_number choice),
        ← Hub.admission_of_found panel current choice]
      exact crowded

/-- Where the hardware fails for a kind, it does for every number of the kind. -/
theorem createById_of_broken {text : String}
    (broken : (construct v none handler h).1 = .error (.failure (.hardware text))) {e : Entry}
    (member : e ∈ h.core.topology.entries) (kind : e.variant = v) :
    ∃ reason, (createById e.id (some handler) h).1 = .error (.failure (.hardware reason)) := by
  have up := up_of_construct_error Failure.noConfusion broken
  rw [construct_error_iff up] at broken
  rw [createById_of_member member kind]
  simp only [construct_error_iff up]
  cases choice : h.core.topology.entryFor v (some e.id) with
  | error f =>
      obtain ⟨reason, rfl⟩ := Topology.entryFor_error choice
      exact ⟨reason, Hub.admission_of_missed panel current choice⟩
  | ok a =>
      -- then something is chosen for the kind too, and it was the token that failed
      obtain ⟨b, preferred⟩ := Topology.entryFor_none_of_number choice
      rw [Hub.admission_of_found panel current preferred] at broken
      rw [Hub.admission_of_found panel current choice]
      refine ⟨text, ?_⟩
      cases token : h.tokenAnswer v (some b.id) with
      | ok _ =>
          rw [token] at broken
          nomatch broken
      | error stop =>
          rw [token] at broken
          obtain rfl := Except.error.inj broken
          rw [Hub.tokenAnswer_hardware token]
          rfl

end Current

/-- Where the hub knows what the hardware reports, a kind with a panel and a number
    are two ways to ask for one display. -/
theorem create_interchangeable (panel : v ≠ .offscreen)
    (current : h.report = .ok h.core.topology) (handler : Option Handler) :
    Interchangeable h v handler := by
  have coded (w : Variant) (code : Int32) (handler : Option Handler) (u : Hub)
      (meant : w.code = code) : createByCode code handler u = create w handler u := by
    rw [← meant]
    exact createByCode_code w handler u
  cases handler with
  | none =>
      -- a missing handler is neither put down to the hardware nor to its resources
      have refused : (create v none h).1 = .error (.failure .parameters) := rfl
      refine ⟨fun d created => ?_, fun crowded => ?_, fun text broken => ?_, coded⟩
      · nomatch refused.symm.trans created
      · nomatch refused.symm.trans crowded
      · nomatch refused.symm.trans broken
  | some handler =>
      refine ⟨?_, ?_, ?_, coded⟩
      · exact fun d created => createById_of_created panel current created
      · exact fun crowded => createById_of_crowded panel current crowded
      · exact fun text broken e member kind =>
          createById_of_broken panel current broken member kind

end Act

namespace Session

/-- The panel that is chosen by its kind is chosen by its number. -/
theorem create_interchangeable_shadowed :
    shadowed.hub.report = .ok shadowed.hub.core.topology ∧
    (∃ d, (Act.create .builtIn (some .record) shadowed.hub).1 = .ok d ∧ d.id = some 3) ∧
    Act.Interchangeable shadowed.hub .builtIn (some .record) :=
  ⟨rfl, ⟨_, rfl, rfl⟩, Act.create_interchangeable (by decide) rfl _⟩

end Session

end DisplayHub
