import DisplayHub.Proofs.Survey

/-!
# Plugging and unplugging

What the number of a connector does not depend on.

Whoever holds a number holds on to it while displays come and go, so it must go on
meaning the connector that it meant. Two things may change around a connector. A
display is plugged into it or into another one, which shows in the files that say what
is connected and nowhere else. Or connectors appear and vanish, with a dock or a
dongle, and those are the ones that the kernel gave no number.

The first is a matter of not looking. Numbers are dealt out by looking at numbers
alone, so a survey with every connector unplugged is numbered in the same way, and the
report of it is the report there was, but for what is connected and which panel is the
primary one. This takes no counting, and holds even where the numbers run out.

The second is a matter of order. Numbers that are carried are dealt out first, and the
entries without one get theirs from what is left. So what becomes of the entries that
carry a number can be told from these entries alone (`firstServed`). That nothing is
put over them afterwards is where numbers have to be left.

## Main definitions

* `Connector.unplugged`, `Entry.unplugged`: With nothing plugged in.
* `Connector.carriers`: The entries that carry a number, by their names.
* `Connector.reportedNumbers`: The number under which each of them is reported.
* `Connector.firstServed`: The same, told from the carriers alone.

## Theorems

* `Connector.entries_unplugged`: A report is made without looking at what is
  connected.
* `Connector.reportedNumbers_eq`: What becomes of the carriers depends on nobody else.
* `Connector.scan_unmoved`: Neither of the two changes moves a number.
-/

namespace DisplayHub

/-- The entry with nothing plugged into it. -/
def Entry.unplugged (e : Entry) : Entry :=
  { e with connected := false, primary := false }

/-- A change that leaves the number of an entry can be made before it is put into a list
    or afterwards. -/
theorem insertEntry_map {f : Entry → Entry} (kept : ∀ e, (f e).id = e.id) (e : Entry)
    (l : List Entry) : (insertEntry e l).map f = insertEntry (f e) (l.map f) := by
  induction l with
  | nil => rfl
  | cons a rest ih =>
      simp only [insertEntry, List.map_cons, kept]
      split
      · rfl
      · split
        · rfl
        · rw [List.map_cons, ih]

theorem Topology.entries_foldl_map {f : Entry → Entry} (kept : ∀ e, (f e).id = e.id)
    (l : List Entry) {t u : Topology} (same : t.entries.map f = u.entries) :
    (l.foldl insert t).entries.map f = ((l.map f).foldl insert u).entries := by
  induction l generalizing t u with
  | nil => exact same
  | cons e rest ih =>
      refine ih ?_
      have put := insertEntry_map kept e t.entries
      rw [same] at put
      exact put

/-- The entries of a report can be changed before the report is made or afterwards. -/
theorem Topology.entries_ofList_map {f : Entry → Entry} (kept : ∀ e, (f e).id = e.id)
    (l : List Entry) : (Topology.ofList l).entries.map f = (Topology.ofList (l.map f)).entries :=
  entries_foldl_map kept l rfl

namespace Connector

/-- The connector with nothing plugged into it. -/
def unplugged (c : Connector) : Connector :=
  { c with connected := false }

/-! ### Not looking at what is connected -/

theorem claims_unplugged (taken : List Int32) (l : List Connector) :
    claims taken (l.map unplugged) = claims taken l := by
  induction l generalizing taken with
  | nil => rfl
  | cons c rest ih =>
      have number : c.unplugged.number = c.number := rfl
      rw [List.map_cons]
      unfold claims
      rw [number]
      cases c.number with
      | none => exact congrArg (none :: ·) (ih taken)
      | some id =>
          dsimp only
          rw [ih, ih]

theorem fallbacks_unplugged (taken : List Int32) (next : Nat)
    (l : List (Connector × Option Int32)) :
    fallbacks taken next (l.map fun p => (p.1.unplugged, p.2)) = fallbacks taken next l := by
  induction l generalizing taken next with
  | nil => rfl
  | cons p rest ih =>
      obtain ⟨c, claim⟩ := p
      have number : c.unplugged.number = c.number := rfl
      rw [List.map_cons]
      unfold fallbacks
      rw [number]
      cases c.number with
      | some id => exact congrArg (claim :: ·) (ih taken next)
      | none =>
          dsimp only
          rw [ih]

/-- Unplugging everything changes no number. -/
theorem assigned_unplugged (l : List Connector) : assigned (l.map unplugged) = assigned l := by
  have numbers_unplugged : numbers (l.map unplugged) = numbers l := by
    unfold numbers
    rw [List.filterMap_map]
    rfl
  have claimed : (l.map unplugged).zip (claims [] l) =
      (l.zip (claims [] l)).map fun p => (p.1.unplugged, p.2) := by
    rw [List.zip_map_left]
    rfl
  unfold assigned
  rw [numbers_unplugged, claims_unplugged, claimed, fallbacks_unplugged]

theorem reported_unplugged (l : List Connector) :
    reported (l.map unplugged) = (reported l).map fun p => (p.1, p.2.unplugged) := by
  unfold reported
  rw [assigned_unplugged, List.zip_map_left, List.filterMap_map, List.map_filterMap]
  refine List.filterMap_congr fun p _ => ?_
  obtain ⟨c, _ | k⟩ := p <;> rfl

/-- A report is made without looking at what is connected, which only decides what is
    said of it. -/
theorem entries_unplugged (l : List Connector) : (topology l).entries.map Entry.unplugged =
    (Topology.ofList ((reported (l.map unplugged)).map fun p => p.2.entry p.1)).entries := by
  have marked := congrArg (List.map Entry.unplugged) (markPrimary_unmarked (reported l) false)
  have kept (e : Entry) : e.unplugged.id = e.id := rfl
  unfold topology
  rw [Topology.entries_ofList_map kept, reported_unplugged]
  simp only [List.map_map] at marked ⊢
  exact congrArg (fun l => (Topology.ofList l).entries) marked

/-- Where the same entries give the same numbers, nothing else of them differs once
    everything is unplugged. -/
theorem survey_unplugged {root place : String} {storage other : Storage} {names : List String}
    (same : (readings root storage names).map (·.number) =
      (readings place other names).map (·.number)) :
    (survey root storage names).map unplugged = (survey place other names).map unplugged := by
  let told (number : Option String) (kind : Variant × String) : Connector :=
    ((⟨none, number⟩ : Reading).connector kind).unplugged
  have unread (r : List Reading) (kinds : List (Variant × String)) :
      (List.zipWith Reading.connector r kinds).map unplugged =
        List.zipWith told (r.map (·.number)) kinds := by
    rw [List.map_zipWith, List.zipWith_map_left]
    rfl
  unfold survey
  rw [unread, unread, same]

/-! ### Entries that carry a number -/

/-- The entries that carry a number, each with its name and its number. -/
def carriers (names : List String) (l : List Connector) : List (String × Int32) :=
  (names.zip l).filterMap fun p => p.2.number.map fun k => (p.1, k)

/-- The entries that carry a number, each with its name and the number under which it is
    reported, if it is. -/
def reportedNumbers (names : List String) (l : List Connector) : List (String × Option Int32) :=
  (names.zip (l.zip (assigned l))).filterMap fun p => p.2.1.number.map fun _ => (p.1, p.2.2)

/-- Gives each number to the first that carries it. -/
def firstServed (taken : List Int32) : List (String × Int32) → List (String × Option Int32)
  | [] => []
  | (name, k) :: rest =>
      if k ∈ taken then (name, none) :: firstServed taken rest
      else (name, some k) :: firstServed (k :: taken) rest

/-- The entries without a number leave to the others what these claimed. -/
theorem reportedNumbers_fallbacks (names : List String) (taken : List Int32) (next : Nat)
    (l : List (Connector × Option Int32)) :
    (names.zip ((l.map (·.1)).zip (fallbacks taken next l))).filterMap
        (fun p => p.2.1.number.map fun _ => (p.1, p.2.2)) =
      (names.zip l).filterMap fun p => p.2.1.number.map fun _ => (p.1, p.2.2) := by
  induction l generalizing names taken next with
  | nil => rfl
  | cons p rest ih =>
      obtain ⟨c, claim⟩ := p
      cases names with
      | nil => rfl
      | cons name names =>
          unfold fallbacks
          cases number : c.number with
          | some id =>
              simp only [List.map_cons, List.zip_cons_cons, List.filterMap_cons, number,
                Option.map_some, ih]
          | none =>
              simp only [List.map_cons, List.zip_cons_cons, List.filterMap_cons, number,
                Option.map_none, ih]

theorem reportedNumbers_claims (names : List String) (taken : List Int32) (l : List Connector) :
    (names.zip (l.zip (claims taken l))).filterMap
        (fun p => p.2.1.number.map fun _ => (p.1, p.2.2)) =
      firstServed taken (carriers names l) := by
  unfold carriers
  induction l generalizing names taken with
  | nil => cases names <;> rfl
  | cons c rest ih =>
      cases names with
      | nil => rfl
      | cons name names =>
          unfold claims
          cases number : c.number with
          | none =>
              simp only [List.zip_cons_cons, List.filterMap_cons, number, Option.map_none, ih]
          | some k =>
              -- what is claimed here is taken for all behind, and else nothing changes
              simp only [List.zip_cons_cons, List.filterMap_cons, number, Option.map_some]
              unfold firstServed
              by_cases gone : k ∈ taken
              · simp only [if_pos gone, List.zip_cons_cons, List.filterMap_cons, number,
                  Option.map_some, ih]
              · simp only [if_neg gone, List.zip_cons_cons, List.filterMap_cons, number,
                  Option.map_some, ih]

/-- What becomes of the entries that carry a number can be told from these alone. -/
theorem reportedNumbers_eq (names : List String) (l : List Connector) :
    reportedNumbers names l = firstServed [] (carriers names l) := by
  have firsts : (l.zip (claims [] l)).map (·.1) = l :=
    List.map_fst_zip (Nat.le_of_eq (length_claims [] l).symm)
  have left := reportedNumbers_fallbacks names (numbers l) 0 (l.zip (claims [] l))
  rw [firsts, reportedNumbers_claims] at left
  exact left

/-- An entry that is reported under the number that it carries has its place. -/
theorem mem_reportedNumbers_iff {names : List String} {l : List Connector} {name : String}
    {given : Option Int32} : (name, given) ∈ reportedNumbers names l ↔ ∃ (i : Nat) (c : Connector),
      names[i]? = some name ∧ l[i]? = some c ∧ (assigned l)[i]? = some given ∧
        c.number.isSome = true := by
  unfold reportedNumbers
  rw [List.mem_filterMap]
  constructor
  · rintro ⟨⟨entry, c, id⟩, among, same⟩
    obtain ⟨k, carries, same⟩ := Option.map_eq_some_iff.mp same
    obtain ⟨rfl, rfl⟩ := Prod.mk.inj same
    obtain ⟨i, there⟩ := List.mem_iff_getElem?.mp among
    obtain ⟨called, there⟩ := List.getElem?_zip_eq_some.mp there
    obtain ⟨entry, reported⟩ := List.getElem?_zip_eq_some.mp there
    exact ⟨i, c, called, entry, reported, carries ▸ rfl⟩
  · rintro ⟨i, c, called, entry, reported, carries⟩
    obtain ⟨k, carries⟩ := Option.isSome_iff_exists.mp carries
    have there : (names.zip (l.zip (assigned l)))[i]? = some (name, c, given) :=
      List.getElem?_zip_eq_some.mpr ⟨called, List.getElem?_zip_eq_some.mpr ⟨entry, reported⟩⟩
    exact ⟨_, List.mem_of_getElem? there, by rw [carries]; rfl⟩

/-- The connector at a place is what the name there says, apart from what was read. -/
theorem survey_kind {root : String} {storage : Storage} {names : List String} {i : Nat}
    {name : String} {c : Connector} (all : ∀ entry ∈ names, (driven entry).isSome = true)
    (called : names[i]? = some name) (entry : (survey root storage names)[i]? = some c) :
    driven name = some (c.variant, c.name) := by
  induction names generalizing storage i with
  | nil => nomatch called
  | cons first rest ih =>
      obtain ⟨kind, here⟩ := Option.isSome_iff_exists.mp (all first List.mem_cons_self)
      -- every name is that of a connector, so each adds one to the survey
      have shape : survey root storage (first :: rest) =
          (readBoth storage root first).1.connector kind ::
            survey root (readBoth storage root first).2 rest := by
        unfold survey
        rw [List.filterMap_cons_some here]
        rfl
      rw [shape] at entry
      cases i with
      | zero =>
          obtain rfl := Option.some.inj called
          obtain rfl := Option.some.inj entry
          exact here
      | succ i =>
          exact ih (fun entry among => all entry (List.mem_cons_of_mem first among)) called entry

/-- An entry that carries a number and is reported under it is found there, with the kind
    and the name that it is called after. -/
theorem find?_of_reportedNumbers {root : String} {storage : Storage} {names : List String}
    {name : String} {k : Int32} (all : ∀ entry ∈ names, (driven entry).isSome = true)
    (spare : EnoughFree (numbers (survey root storage names))
      ((survey root storage names).countP (·.number.isNone)))
    (stands : (name, some k) ∈ reportedNumbers names (survey root storage names)) :
    ∃ e, (topology (survey root storage names)).find? k = some e ∧
      driven name = some (e.variant, e.name) := by
  obtain ⟨i, c, called, entry, reported, -⟩ := mem_reportedNumbers_iff.mp stands
  obtain ⟨e, found, same⟩ :=
    (reports_topology (numbered_assigned spare)).all i c k entry reported
  have kind : e.variant = c.variant := congrArg Entry.variant same
  have label : e.name = c.name := congrArg Entry.name same
  refine ⟨e, found, ?_⟩
  rw [kind, label]
  exact survey_kind all called entry

/-! ### Two scans -/

/-- No number is moved by what is plugged in or by connectors without a number. -/
theorem scan_unmoved {storage other : Storage} {root place : String}
    {entries elsewhere names others : List String}
    (listed : storage.list root = .ok entries) (ordered : names.Pairwise (· ≤ ·))
    (chosen : names.Perm (selected entries))
    (listed' : other.list place = .ok elsewhere) (ordered' : others.Pairwise (· ≤ ·))
    (chosen' : others.Perm (selected elsewhere)) :
    let l := survey root storage names
    let l' := survey place other others
    ∃ t t', (scan storage root).1 = .ok t ∧ (scan other place).1 = .ok t' ∧
    -- the same entries with the same numbers, and anything plugged in
    (names = others →
      (readings root storage names).map (·.number) =
        (readings place other others).map (·.number) →
      t.entries.map Entry.unplugged = t'.entries.map Entry.unplugged) ∧
    -- the same entries that carry a number, and any others
    (carriers names l = carriers others l' →
      reportedNumbers names l = reportedNumbers others l' ∧
      (EnoughFree (numbers l) (l.countP (·.number.isNone)) →
        EnoughFree (numbers l') (l'.countP (·.number.isNone)) →
        ∀ name k, (name, some k) ∈ reportedNumbers names l → ∃ e e',
          t.find? k = some e ∧ t'.find? k = some e' ∧
          driven name = some (e.variant, e.name) ∧ driven name = some (e'.variant, e'.name))) := by
  intro l l'
  have all {names entries : List String} (chosen : names.Perm (selected entries)) :
      ∀ entry ∈ names, (driven entry).isSome = true := fun entry among =>
    (List.mem_filter.mp (chosen.mem_iff.mp among)).2
  refine ⟨topology l, topology l', scan_of_list listed ordered chosen,
    scan_of_list listed' ordered' chosen', ?_, ?_⟩
  · rintro rfl same
    rw [entries_unplugged, entries_unplugged, survey_unplugged same]
  · intro same
    have alike : reportedNumbers names l = reportedNumbers others l' := by
      rw [reportedNumbers_eq, reportedNumbers_eq, same]
    refine ⟨alike, fun spare spare' name k stands => ?_⟩
    obtain ⟨e, found, kind⟩ := find?_of_reportedNumbers (all chosen) spare stands
    obtain ⟨e', found', kind'⟩ := find?_of_reportedNumbers (all chosen') spare' (alike ▸ stands)
    exact ⟨e, e', found, found', kind, kind'⟩

/-- The directory of `dock` once the panel was closed and displays were plugged in
    elsewhere. The entry that vanished is back, without a number. -/
def redocked : Storage where
  items := [
    (["drm"], .directory),
    (["drm", "card0-DP-1"], .directory),
    (["drm", "card0-HDMI-A-1"], .directory),
    (["drm", "card0-HDMI-A-1", "connector_id"], .file (some "1\n")),
    (["drm", "card0-HDMI-A-1", "status"], .file (some "connected\n")),
    (["drm", "card0-eDP-1"], .directory),
    (["drm", "card0-eDP-1", "status"], .file (some "disconnected\n")),
    (["drm", "card1-HDMI-A-1"], .directory),
    (["drm", "card1-HDMI-A-1", "connector_id"], .file (some "1")),
    (["drm", "card1-HDMI-A-1", "status"], .file (some "connected"))]

/-- The same directory with one entry without a number gone and another one there. -/
def undocked : Storage where
  items := [
    (["drm"], .directory),
    (["drm", "card0-HDMI-A-1"], .directory),
    (["drm", "card0-HDMI-A-1", "connector_id"], .file (some "1\n")),
    (["drm", "card0-DSI-1"], .directory),
    (["drm", "card0-eDP-1"], .directory),
    (["drm", "card1-HDMI-A-1"], .directory),
    (["drm", "card1-HDMI-A-1", "connector_id"], .file (some "1\n"))]

/-- The first entry that carries a number keeps it through both changes, and the second one
    stays left out. -/
theorem scan_unmoved_dock :
    (∃ t t', (scan dock "/drm").1 = .ok t ∧ (scan redocked "/drm").1 = .ok t' ∧
      t.entries.map Entry.unplugged = t'.entries.map Entry.unplugged) ∧
    ∃ t t' e e', (scan dock "/drm").1 = .ok t ∧ (scan undocked "/drm").1 = .ok t' ∧
      t.find? 1 = some e ∧ t'.find? 1 = some e' ∧ (e.variant, e.name) = (e'.variant, e'.name) := by
  let names := ["card0-DP-1", "card0-HDMI-A-1", "card0-eDP-1", "card1-HDMI-A-1"]
  let others := ["card0-DSI-1", "card0-HDMI-A-1", "card0-eDP-1", "card1-HDMI-A-1"]
  have ordered : names.Pairwise (· ≤ ·) := by
    decide +kernel
  constructor
  · obtain ⟨t, t', scanned, scanned', plugged, -⟩ := @scan_unmoved dock redocked "/drm" "/drm"
      _ _ names names rfl ordered (by decide +kernel) rfl ordered (by decide +kernel)
    exact ⟨t, t', scanned, scanned', plugged rfl (by decide +kernel)⟩
  · obtain ⟨t, t', scanned, scanned', -, others⟩ := @scan_unmoved dock undocked "/drm" "/drm"
      _ _ names others rfl ordered (by decide +kernel) rfl (by decide +kernel) (by decide +kernel)
    obtain ⟨-, found⟩ := others (by decide +kernel)
    obtain ⟨e, e', there, there', kind, kind'⟩ := found (enoughFree_of_length (by decide +kernel))
      (enoughFree_of_length (by decide +kernel)) "card0-HDMI-A-1" 1 (by decide +kernel)
    exact ⟨t, t', e, e', scanned, scanned', there, there',
      Option.some.inj (kind.symm.trans kind')⟩

end Connector

end DisplayHub
