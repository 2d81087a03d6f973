import DisplayHub.Proofs.Choice
import DisplayHub.Proofs.Program
import DisplayHub.Proofs.Survey

/-!
# The primary panel

Which connector a display drives that is not told which.

A scan marks one panel as the primary one, and a display without a number goes for a
marked entry first. The two do not look at the entries in the same order. The scan goes
by the names of the directories, and by the time it marks a panel the numbers are dealt
out already, to some entries out of that order and to some not at all. The display goes
by the numbers. That they mean the same panel is therefore nothing that can be seen by
going along with either of them. It is because there is one mark at most: whoever looks
for it finds the same entry, in whatever order.

For the other kind with a connector there is no mark to look for. Only panels are marked,
so a display of that kind falls back to the lowest number every time.

What the display has found then is its own, whatever the compositor says afterwards. And
the compositor never puts anything down to the hardware, so a display fails with the
hardware exactly if there was nothing to find.

## Main definitions

* `Connector.IsConnectedPanel`: A connected panel.
* `Connector.IsFirstPanel`: The first of them that is reported, in the order of names.
* `Display.IsFresh`: A display that is not told what to drive.
* `Serve.BindsTo`: It goes for an entry, and the rest is up to the compositor.
* `Serve.BindsByReport`: What becomes of it.

## Theorems

* `Connector.filter_markPrimary`: One entry is marked at most.
* `Connector.primary_iff_firstPanel`: It is the first panel.
* `Serve.bindsByReport_of_report`: That is enough to go by.
* `Connector.scan_firstPanel`: What is marked in a scan, and what displays make of it.
-/

namespace DisplayHub

namespace Connector

/-- A connected panel. -/
def IsConnectedPanel (c : Connector) : Prop :=
  c.variant = .builtIn ∧ c.connected = true

instance (c : Connector) : Decidable c.IsConnectedPanel :=
  inferInstanceAs (Decidable (c.variant = .builtIn ∧ c.connected = true))

/-- The entry that a connector is reported as if it is the primary one. -/
def marked (p : Int32 × Connector) : Entry :=
  { p.2.entry p.1 with primary := true }

/-! ### One mark at most -/

/-- At most one entry is marked, and it is the first connected panel. -/
theorem filter_markPrimary (l : List (Int32 × Connector)) (found : Bool) :
    (markPrimary l found).filter (·.primary) =
      if found then [] else ((l.find? fun p => p.2.IsConnectedPanel).map marked).toList := by
  induction l generalizing found with
  | nil => cases found <;> rfl
  | cons p rest ih =>
      obtain ⟨id, c⟩ := p
      have panel_iff : c.IsConnectedPanel ↔ (c.connected && c.variant == .builtIn) = true := by
        unfold IsConnectedPanel
        rw [Bool.and_eq_true, beq_iff_eq, and_comm]
      unfold markPrimary
      cases found with
      | true => simpa using ih true
      | false =>
          by_cases panel : c.IsConnectedPanel
          · -- everything behind it comes too late
            have shown := panel_iff.mp panel
            simp only [Bool.not_false, Bool.true_and, shown, Bool.or_true, List.filter_cons_of_pos,
              ih true, panel, decide_true, List.find?_cons_of_pos, if_true, if_false,
              Bool.false_eq_true, Option.map_some, Option.toList_some]
            obtain ⟨kind, joined⟩ := panel
            rfl
          · have hidden : (c.connected && c.variant == .builtIn) = false :=
              Bool.eq_false_iff.mpr (panel_iff.not.mp panel)
            simp only [Bool.not_false, Bool.true_and, hidden, Bool.or_false,
              List.filter_cons_of_neg, Bool.false_eq_true, not_false_eq_true, ih false, panel,
              decide_false, List.find?_cons_of_neg, if_false]

theorem mem_markPrimary_iff {l : List (Int32 × Connector)} {e : Entry} :
    e ∈ markPrimary l false ∧ e.primary = true ↔
      ∃ p, l.find? (fun p => p.2.IsConnectedPanel) = some p ∧ e = marked p := by
  rw [← List.mem_filter, filter_markPrimary, if_neg Bool.false_ne_true, Option.mem_toList,
    Option.map_eq_some_iff]
  simp only [eq_comm]

end Connector

/-! ### The first panel -/

theorem Topology.mem_of_mem_ofList {l : List Entry} {e : Entry}
    (among : e ∈ (Topology.ofList l).entries) : e ∈ l := by
  have found := Topology.find?_eq_some_iff.mpr ⟨among, rfl⟩
  rw [Topology.ofList, Topology.find?_foldl_insert, Option.or_eq_some_iff] at found
  rcases found with found | ⟨-, found⟩
  · exact List.mem_reverse.mp (List.mem_of_find?_eq_some found)
  · cases found

theorem Topology.mem_ofList_iff {l : List Entry} (distinct : (l.map (·.id)).Nodup) {e : Entry} :
    e ∈ (Topology.ofList l).entries ↔ e ∈ l := by
  rw [← and_iff_left (a := e ∈ l) rfl, ← Topology.find?_ofList_iff distinct,
    Topology.find?_eq_some_iff, and_iff_left rfl]

namespace Connector

variable {l : List Connector} {ids : List (Option Int32)} {i : Nat} {e : Entry}

/-- The entry of the first connected panel that is reported, in the order of names. -/
structure IsFirstPanel (l : List Connector) (ids : List (Option Int32)) (i : Nat) (e : Entry) :
    Prop where
  panel : ∃ c, l[i]? = some c ∧ c.IsConnectedPanel ∧ e = marked (e.id, c)
  reported : ids[i]? = some (some e.id)
  /-- Whatever panel comes before it is left out. -/
  first : ∀ (j : Nat) (c : Connector), j < i → l[j]? = some c → c.IsConnectedPanel →
    ids[j]? = some none

/-- The panel found first among those that are reported is the first panel. -/
theorem find?_reported_iff (fits : (assigned l).length = l.length) {e : Entry} :
    (∃ p, (reported l).find? (fun p => p.2.IsConnectedPanel) = some p ∧ e = marked p) ↔
      ∃ i, IsFirstPanel l (assigned l) i e := by
  have place (j : Nat) (d : Connector) (given : Option Int32) :
      (l.zip (assigned l))[j]? = some (d, given) ↔
        l[j]? = some d ∧ (assigned l)[j]? = some given :=
    List.getElem?_zip_eq_some
  unfold reported
  simp only [List.find?_filterMap, Option.bind_eq_some_iff, List.find?_eq_some_iff_getElem]
  constructor
  · rintro ⟨p, ⟨⟨c, given⟩, ⟨shown, i, inside, here, before⟩, rise⟩, rfl⟩
    obtain ⟨id, rfl, rfl⟩ := Option.map_eq_some_iff.mp rise
    obtain ⟨there, number⟩ := (place i c (some id)).mp
      (List.getElem?_eq_some_iff.mpr ⟨inside, here⟩)
    refine ⟨i, ⟨c, there, of_decide_eq_true shown, rfl⟩, number, fun j d below earlier panel => ?_⟩
    have within : j < (assigned l).length := fits ▸ (List.getElem?_eq_some_iff.mp earlier).choose
    have given := List.getElem?_eq_getElem within
    cases had : (assigned l)[j] with
    | none => rw [given, had]
    | some m =>
        -- a panel that has a number would have been found first
        rw [had] at given
        have pair := (place j d (some m)).mpr ⟨earlier, given⟩
        have other := before j below
        rw [(List.getElem?_eq_some_iff.mp pair).choose_spec] at other
        simp [panel] at other
  · rintro ⟨i, ⟨c, there, panel, same⟩, number, first⟩
    have pair := (place i c (some e.id)).mpr ⟨there, number⟩
    obtain ⟨inside, here⟩ := List.getElem?_eq_some_iff.mp pair
    refine ⟨(e.id, c), ⟨(c, some e.id), ⟨decide_eq_true panel, i, inside, here, fun j below => ?_⟩,
      rfl⟩, same⟩
    obtain ⟨earlier, given⟩ := (place j _ _).mp
      (List.getElem?_eq_getElem (Nat.lt_trans below inside))
    rw [Bool.not_eq_true', Bool.eq_false_iff]
    intro shown
    obtain ⟨p, rise, panel⟩ := (Option.any_eq_true _ _).mp shown
    obtain ⟨m, had, rfl⟩ := Option.map_eq_some_iff.mp rise
    have out := first j _ below earlier (of_decide_eq_true panel)
    nomatch out.symm.trans (given.trans (congrArg some had))

/-! ### What a scan marks -/

/-- At most one entry of a report is marked, and it is a panel that is connected. -/
theorem primary_topology {a b : Entry} (here : a ∈ (topology l).entries)
    (marked : a.primary = true) (there : b ∈ (topology l).entries) (also : b.primary = true) :
    a = b := by
  obtain ⟨p, found, rfl⟩ := mem_markPrimary_iff.mp ⟨Topology.mem_of_mem_ofList here, marked⟩
  obtain ⟨q, found', rfl⟩ := mem_markPrimary_iff.mp ⟨Topology.mem_of_mem_ofList there, also⟩
  rw [found] at found'
  rw [Option.some.inj found']

theorem usable_of_primary (here : e ∈ (topology l).entries) (shown : e.primary = true) :
    e.Usable .builtIn true := by
  obtain ⟨p, found, rfl⟩ := mem_markPrimary_iff.mp ⟨Topology.mem_of_mem_ofList here, shown⟩
  obtain ⟨kind, joined⟩ : p.2.IsConnectedPanel := by simpa using List.find?_some found
  exact ⟨kind, fun _ => joined⟩

variable (numbered : Numbered l (assigned l))

include numbered

theorem mem_topology_iff : e ∈ (topology l).entries ↔ e ∈ markPrimary (reported l) false :=
  Topology.mem_ofList_iff (distinct_markPrimary numbered)

/-- The entry that is marked is that of the first panel. -/
theorem primary_iff_firstPanel :
    (e ∈ (topology l).entries ∧ e.primary = true) ↔ ∃ i, IsFirstPanel l (assigned l) i e := by
  rw [mem_topology_iff numbered, mem_markPrimary_iff, find?_reported_iff numbered.fits]

/-- One is marked if any panel is connected. -/
theorem exists_primary_iff : (∃ e ∈ (topology l).entries, e.primary = true) ↔
    ∃ e ∈ (topology l).entries, e.Usable .builtIn true := by
  constructor
  · rintro ⟨e, here, shown⟩
    exact ⟨e, here, usable_of_primary here shown⟩
  · rintro ⟨e, here, kind, joined⟩
    have same : unmarked e ∈ (reported l).map fun p => p.2.entry p.1 :=
      markPrimary_unmarked (reported l) false ▸
        List.mem_map_of_mem ((mem_topology_iff numbered).mp here)
    obtain ⟨p, among, plain⟩ := List.mem_map.mp same
    have panel : p.2.IsConnectedPanel :=
      ⟨(congrArg Entry.variant plain).trans kind,
        (congrArg Entry.connected plain).trans (joined rfl)⟩
    obtain ⟨q, found⟩ := Option.isSome_iff_exists.mp
      (List.find?_isSome (p := fun p : Int32 × Connector => decide p.2.IsConnectedPanel) |>.mpr
        ⟨p, among, decide_eq_true panel⟩)
    obtain ⟨member, shown⟩ := mem_markPrimary_iff.mpr ⟨q, found, rfl⟩
    exact ⟨_, (mem_topology_iff numbered).mpr member, shown⟩

end Connector

/-! ### What a display makes of it -/

/-- A display of a kind that is new, and not told what to drive. -/
structure Display.IsFresh (d : Display) (v : Variant) : Prop where
  body : d.body = .fresh v
  id : d.id = none
  token : d.token = none

theorem Topology.not_usable_iff {t : Topology} {v : Variant} :
    (∀ e ∈ t.entries, ¬ e.Usable v true) ↔ ∃ f, Display.chooseUnbound v true t = .error f := by
  constructor
  · intro none
    cases choice : Display.chooseUnbound v true t with
    | error f => exact ⟨f, rfl⟩
    | ok e =>
        obtain ⟨among, usable⟩ := (Topology.chooseUnbound_eq_ok_iff.mp choice).usable
        exact absurd usable (none e among)
  · rintro ⟨f, refused⟩
    exact (Topology.chooseUnbound_error refused).2

namespace Serve

variable {d : Display} {h : Hub} {t : Topology} {v : Variant} {e : Entry}

/-- A display goes for an entry: it is bound to that one from then on, and whether it comes
    into service is up to the compositor. -/
structure BindsTo (d : Display) (h : Hub) (v : Variant) (e : Entry) : Prop where
  bound : (bringUp (d, h)).2.1.id = some e.id
  answer : (bringUp (d, h)).1 = (h.tokenAnswer v (some e.id)).map fun _ => ()

theorem bringUp_of_blank (blank : d.IsFresh v) (panel : v ≠ .offscreen) :
    ∃ rest : Entry → Serve Unit, bringUp (d, h) = (resolve true >>= fun e => register >>= fun _ =>
        rest e) (d, h) ∧
      ∀ e u g, (rest e (u, g)).1 = .ok () ∧ (rest e (u, g)).2.1.id = u.id := by
  obtain ⟨body, id, handler, provider, token, power, concrete, stuck⟩ := d
  obtain rfl : body = .fresh v := blank.body
  unfold bringUp
  rw [display_bind]
  cases v with
  | offscreen => exact absurd rfl panel
  | builtIn =>
      refine ⟨_, rfl, fun e u g => ?_⟩
      change (ite (e.primary = true) (note _ _) (pure ())
          ({ u with body := .builtIn e.primary }, g)).1 = _ ∧
        (ite (e.primary = true) (note _ _) (pure ())
          ({ u with body := .builtIn e.primary }, g)).2.1.id = _
      split <;> exact ⟨rfl, rfl⟩
  | pluggable => exact ⟨_, rfl, fun e u g => ⟨rfl, rfl⟩⟩

theorem choose_of_blank (blank : d.IsFresh v) :
    d.choose true t = Display.chooseUnbound v true t := by
  have kind : d.variant = v := (congrArg Body.variant blank.body).trans (Body.variant_fresh v)
  unfold Display.choose
  rw [blank.id, kind]

/-- Where nothing can be chosen, a display says so. -/
theorem bringUp_of_missed {f : Failure} (blank : d.IsFresh v) (panel : v ≠ .offscreen)
    (report : h.report = .ok t) (missed : Display.chooseUnbound v true t = .error f) :
    (bringUp (d, h)).1 = .error (.failure f) := by
  obtain ⟨rest, brought, -⟩ := bringUp_of_blank (h := h) blank panel
  rw [brought, bind_apply, resolve_of_report report, choose_of_blank blank, missed]

/-- What is chosen for a display, it drives. -/
theorem drives_of_chosen (blank : d.IsFresh v) (panel : v ≠ .offscreen)
    (report : h.report = .ok t) (chosen : Display.chooseUnbound v true t = .ok e) :
    BindsTo d h v e := by
  obtain ⟨rest, brought, cachesLatest⟩ := bringUp_of_blank (h := h) blank panel
  have kind : (d.bind e.id).variant = v :=
    (congrArg Body.variant blank.body).trans (Body.variant_fresh v)
  have number : (d.bind e.id).id = some e.id := by
    unfold Display.bind
    rw [blank.id]
    rfl
  obtain ⟨g, ran, -⟩ := register_apply kind number blank.token h.asked
  rw [Hub.tokenAnswer_of_ground (h.ground_asked.trans rfl)] at ran
  have steps : bringUp (d, h) = (register >>= fun _ => rest e) (d.bind e.id, h.asked) := by
    rw [brought, bind_apply, resolve_of_report report, choose_of_blank blank, chosen]
  rw [bind_apply, ran] at steps
  cases answer : h.tokenAnswer v (some e.id) with
  | error stop =>
      rw [answer] at steps
      exact ⟨by rw [steps]; exact number, by rw [steps, answer]; rfl⟩
  | ok token =>
      rw [answer] at steps
      obtain ⟨done, kept⟩ := cachesLatest e { d.bind e.id with token := some token } g
      exact ⟨by rw [steps]; exact kept.trans number, by rw [steps, answer]; exact done⟩

/-- What becomes of a display with a connector that is not told what to drive. -/
structure BindsByReport (t : Topology) (d : Display) (h : Hub) (v : Variant) : Prop where
  /-- A panel goes for the primary one, -/
  primary : v = .builtIn → ∀ e ∈ t.entries, e.primary = true → BindsTo d h v e
  /-- and another display for the lowest one that is connected. -/
  lowest : v = .pluggable → ∀ e, t.Lowest (·.Usable v true) e → BindsTo d h v e
  /-- It fails with the hardware exactly if there is none. -/
  missed : (∀ text, h.faults .register ≠ some (.failure (.hardware text))) →
    ((∃ text, (bringUp (d, h)).1 = .error (.failure (.hardware text))) ↔
      ∀ e ∈ t.entries, ¬ e.Usable v true)

theorem faults_of_tokenAnswer {id : Option Int32} {text : String}
    (broken : h.tokenAnswer v id = .error (.failure (.hardware text))) :
    h.faults .register = some (.failure (.hardware text)) := by
  unfold Hub.tokenAnswer Hub.barred at broken
  revert broken
  cases h.faults .register with
  | some stop => exact fun same => congrArg some (Except.error.inj same)
  | none =>
      cases h.compositor.refusal? v id with
      | none => exact nofun
      | some refusal => cases refusal <;> exact nofun

/-- One mark at most, on a panel that is connected, is enough to go by. -/
theorem bindsByReport_of_report (blank : d.IsFresh v) (panel : v ≠ .offscreen)
    (report : h.report = .ok t)
    (once : ∀ a ∈ t.entries, ∀ b ∈ t.entries, a.primary = true → b.primary = true → a = b)
    (usable : ∀ e ∈ t.entries, e.primary = true → e.Usable .builtIn true) :
    BindsByReport t d h v := by
  refine ⟨?_, ?_, fun sound => ?_⟩
  · rintro rfl e among shown
    refine drives_of_chosen blank panel report (Topology.chooseUnbound_eq_ok_iff.mpr (Or.inl ?_))
    refine ⟨among, ⟨usable e among shown, shown⟩, fun a there ⟨_, also⟩ => ?_⟩
    exact Int.le_of_eq (congrArg (·.id.toInt) (once e among a there shown also))
  · rintro rfl e lowest
    have plain : ∀ a ∈ t.entries, a.Usable .pluggable true → a.primary = false := by
      rintro a there ⟨kind, -⟩
      refine Bool.eq_false_iff.mpr fun shown => ?_
      nomatch kind.symm.trans (usable a there shown).1
    exact drives_of_chosen blank panel report
      (Topology.chooseUnbound_eq_ok_iff.mpr (Or.inr ⟨plain, lowest⟩))
  · rw [Topology.not_usable_iff]
    cases choice : Display.chooseUnbound v true t with
    | error f =>
        obtain ⟨⟨text, rfl⟩, -⟩ := Topology.chooseUnbound_error choice
        exact iff_of_true ⟨text, bringUp_of_missed blank panel report choice⟩ ⟨_, rfl⟩
    | ok e =>
        have driven := drives_of_chosen blank panel report choice
        refine iff_of_false ?_ (by rintro ⟨f, ⟨⟩⟩)
        rintro ⟨text, broken⟩
        -- it was the compositor that failed then, and it never blames the hardware
        rw [driven.answer] at broken
        cases answer : h.tokenAnswer v (some e.id) with
        | ok token =>
            rw [answer] at broken
            nomatch broken
        | error stop =>
            rw [answer] at broken
            obtain rfl := Except.error.inj broken
            exact sound text (faults_of_tokenAnswer answer)

end Serve

namespace Connector

/-- What a scan marks, and what displays make of it. At most one entry is marked, and it is
    that of the first connected panel that is reported, if there is one. Where the same files
    are scanned again for a display that is not told what to drive, a panel goes for that
    entry, and another display for the lowest connected one of its kind. -/
theorem scan_firstPanel {storage : Storage} {root : String} {entries names : List String}
    (listed : storage.list root = .ok entries) (ordered : names.Pairwise (· ≤ ·))
    (chosen : names.Perm (selected entries)) :
    let l := survey root storage names
    ∃ t, (scan storage root).1 = .ok t ∧
      (∀ a ∈ t.entries, ∀ b ∈ t.entries, a.primary = true → b.primary = true → a = b) ∧
      (EnoughFree (numbers l) (l.countP (·.number.isNone)) →
        ((∃ e ∈ t.entries, e.primary = true) ↔ ∃ e ∈ t.entries, e.Usable .builtIn true) ∧
        ∀ e, (e ∈ t.entries ∧ e.primary = true) ↔ ∃ i, IsFirstPanel l (assigned l) i e) ∧
      ∀ (h : Hub) (d : Display) (v : Variant), h.storage = storage →
        h.hardware.listing = .connectors root → h.faults .queryStatus = none → d.IsFresh v →
        v ≠ .offscreen → Serve.BindsByReport t d h v := by
  intro l
  have scanned : (scan storage root).1 = .ok (topology l) := scan_of_list listed ordered chosen
  -- that there is one mark at most needs no numbers to be left
  have once : ∀ a ∈ (topology l).entries, ∀ b ∈ (topology l).entries, a.primary = true →
      b.primary = true → a = b := fun a here b there shown also =>
    primary_topology here shown there also
  refine ⟨topology l, scanned, once, fun spare => ?_, ?_⟩
  · have numbered := numbered_assigned spare
    exact ⟨exists_primary_iff numbered, fun e => primary_iff_firstPanel numbered⟩
  · rintro h d v rfl listing able blank panel
    have report := (Hub.report_connectors able listing scanned).1
    exact Serve.bindsByReport_of_report blank panel report once fun e => usable_of_primary

/-- A directory with three panels. The one that comes first has a number that another entry
    carries before it, and the last one is given the lowest number of all. -/
def desk : Storage where
  items := [
    (["drm"], .directory),
    (["drm", "card0-DP-1"], .directory),
    (["drm", "card0-DP-1", "connector_id"], .file (some "9\n")),
    (["drm", "card0-DP-1", "status"], .file (some "connected\n")),
    (["drm", "card0-DP-2"], .directory),
    (["drm", "card0-DP-2", "connector_id"], .file (some "4\n")),
    (["drm", "card0-DP-2", "status"], .file (some "connected\n")),
    (["drm", "card0-DSI-1"], .directory),
    (["drm", "card0-DSI-1", "connector_id"], .file (some "4\n")),
    (["drm", "card0-DSI-1", "status"], .file (some "connected\n")),
    (["drm", "card0-LVDS-1"], .directory),
    (["drm", "card0-LVDS-1", "connector_id"], .file (some "8\n")),
    (["drm", "card0-LVDS-1", "status"], .file (some "connected\n")),
    (["drm", "card0-eDP-1"], .directory),
    (["drm", "card0-eDP-1", "status"], .file (some "connected\n"))]

/-- What is read of `desk`. -/
def desked : List Connector := [
  ⟨some 9, .pluggable, true, "DP-1"⟩, ⟨some 4, .pluggable, true, "DP-2"⟩,
  ⟨some 4, .builtIn, true, "DSI-1"⟩, ⟨some 8, .builtIn, true, "LVDS-1"⟩,
  ⟨none, .builtIn, true, "eDP-1"⟩]

/-- A hub that finds its displays on the desk, with a compositor that is at work. -/
def deskHub : Hub where
  storage := desk
  loader := .disabled
  hardware := { resource := .ok {}, listing := .connectors "/drm", announced := false }
  compositor := { setup := some ⟨{}, none⟩ }

/-- The first panel that is reported is neither the first one by name nor the lowest
    one. -/
theorem scan_firstPanel_desk :
    assigned desked = [some 9, some 4, none, some 8, some 0] ∧
    ∃ t, (scan desk "/drm").1 = .ok t ∧
      (⟨8, .builtIn, true, true, "LVDS-1"⟩ : Entry) ∈ t.entries ∧
      Serve.BindsByReport t (.fresh .builtIn none .record none) deskHub .builtIn ∧
      Serve.BindsByReport t (.fresh .pluggable none .record none) deskHub .pluggable ∧
      (Serve.bringUp (.fresh .builtIn none .record none, deskHub)).2.1.id = some 8 := by
  have listed : desk.list "/drm" =
      .ok ["card0-DP-1", "card0-DP-2", "card0-DSI-1", "card0-LVDS-1", "card0-eDP-1"] := rfl
  have ordered : ["card0-DP-1", "card0-DP-2", "card0-DSI-1", "card0-LVDS-1",
      "card0-eDP-1"].Pairwise (· ≤ ·) := by
    decide +kernel
  have numbers : assigned desked = [some 9, some 4, none, some 8, some 0] := by decide
  obtain ⟨t, scanned, -, marks, bindsByReport⟩ := scan_firstPanel listed ordered (by decide +kernel)
  have read : survey "/drm" desk
      ["card0-DP-1", "card0-DP-2", "card0-DSI-1", "card0-LVDS-1", "card0-eDP-1"] = desked := by
    decide +kernel
  rw [read] at marks
  have firstPanel : IsFirstPanel desked (assigned desked) 3
    ⟨8, .builtIn, true, true, "LVDS-1"⟩ := by
    refine ⟨⟨_, rfl, ⟨rfl, rfl⟩, rfl⟩, by rw [numbers]; rfl, fun j c below there panel => ?_⟩
    obtain rfl | rfl | rfl : j = 0 ∨ j = 1 ∨ j = 2 := by omega
    · obtain rfl := Option.some.inj there
      nomatch panel.1
    · obtain rfl := Option.some.inj there
      nomatch panel.1
    · rw [numbers]
      rfl
  obtain ⟨member, shown⟩ := ((marks (enoughFree_of_length (by decide))).2 _).mpr ⟨3, firstPanel⟩
  have panel := bindsByReport deskHub (.fresh .builtIn none .record none) .builtIn rfl rfl rfl
    ⟨rfl, rfl, rfl⟩ (by decide)
  exact ⟨numbers, t, scanned, member, panel,
    bindsByReport deskHub (.fresh .pluggable none .record none) .pluggable rfl rfl rfl
      ⟨rfl, rfl, rfl⟩ (by decide),
    (panel.primary rfl _ member shown).bound⟩

end Connector

end DisplayHub
