import DisplayHub.Proofs.Numbering

/-!
# Surveying Connectors

What a scan reports of a directory.

The scan lists a directory and goes through the names in their order. Two files are
read of each entry whose name is one that is driven, and of no other. What the files
give is an outcome like any other, the lack of a text being one: a file that is not
there, that cannot be read, or that went away after the directory was listed. The
files are read one after the other from the storage that the reading before left, so a
display that is unplugged in the middle shows in all that is read behind it.

`Reading` holds the outcome for one entry, and from here on the storage is gone. The
topology is made of the names that are driven, in their order, and of their readings.
Neither the order in which the directory lists them nor what else it lists can matter,
because neither is left to look at. What the numbers are is `Numbering`.

## Main definitions

* `Connector.driven`, `Connector.selected`: The entries that are driven.
* `Connector.Reading`, `Connector.readings`: What reading the files gave.
* `Connector.survey`: The connectors of entries, as read.

## Theorems

* `Connector.selected_inOrder`: The entries that are driven, in order.
* `Connector.found_readConnectors`: A scan finds what the survey has.
* `Connector.scan_numbered`: What a scan reports.
-/

namespace DisplayHub

namespace Connector

/-! ### Entries that are driven -/

/-- The kind of an entry and the name it is reported with, if its name is one of an entry
    that is driven. -/
def driven (entry : String) : Option (Variant × String) :=
  (splitName entry.toList).bind fun parts =>
    (variantOf (String.ofList parts.1)).map fun variant => (variant, String.ofList parts.2)

/-- The names of entries that are driven. -/
def selected (entries : List String) : List String :=
  entries.filter fun entry => (driven entry).isSome

/-- However a directory lists its entries, those that are driven come in one order. -/
theorem selected_inOrder {entries names : List String} (ordered : names.Pairwise (· ≤ ·))
    (chosen : names.Perm (selected entries)) : selected (inOrder entries) = names := by
  have sorted : (inOrder entries).Pairwise (· ≤ ·) := by
    have trans (a b c : String) : decide (a ≤ b) = true → decide (b ≤ c) = true →
        decide (a ≤ c) = true := by
      simpa only [decide_eq_true_eq] using String.le_trans
    have total (a b : String) : (decide (a ≤ b) || decide (b ≤ a)) = true := by
      simpa only [Bool.or_eq_true, decide_eq_true_eq] using String.le_total a b
    simpa only [inOrder, decide_eq_true_eq] using List.pairwise_mergeSort trans total entries
  have same : (selected (inOrder entries)).Perm names :=
    ((List.mergeSort_perm entries _).filter _).trans chosen.symm
  exact same.eq_of_pairwise (fun a b _ _ => String.le_antisymm) (sorted.filter _) ordered

/-! ### What the files give -/

/-- The texts of an entry's two files, without the blanks around them. A file that gave none
    has no text. -/
structure Reading where
  status : Option String
  number : Option String
deriving DecidableEq, Repr

/-- The connector that an entry is, after its files were read. -/
def Reading.connector (r : Reading) (kind : Variant × String) : Connector where
  number := r.number.bind fun text => Text.readInt32 text.toList
  variant := kind.1
  connected := r.status == some "connected"
  name := kind.2

/-- Reads the two files of an entry, the one after the other. -/
def readBoth (storage : Storage) (root entry : String) : Reading × Storage :=
  let dir := Path.join root entry
  let status := readTrimmed storage (Path.join dir "status")
  let number := readTrimmed status.2 (Path.join dir "connector_id")
  (⟨status.1, number.1⟩, number.2)

/-- What the files of entries give, read one entry after the other. -/
def readings (root : String) (storage : Storage) : List String → List Reading
  | [] => []
  | entry :: rest =>
      let read := readBoth storage root entry
      read.1 :: readings root read.2 rest

/-- The connectors of entries, as read. -/
def survey (root : String) (storage : Storage) (names : List String) : List Connector :=
  List.zipWith Reading.connector (readings root storage names) (names.filterMap driven)

theorem length_readings (root : String) (storage : Storage) (names : List String) :
    (readings root storage names).length = names.length := by
  induction names generalizing storage with
  | nil => rfl
  | cons entry rest ih => exact congrArg Nat.succ (ih _)

/-- There is one connector for each entry that is driven. -/
theorem length_survey {names : List String} (all : ∀ entry ∈ names, (driven entry).isSome = true)
    (root : String) (storage : Storage) : (survey root storage names).length = names.length := by
  have kinds : (names.filterMap driven).length = names.length := by
    rw [List.length_filterMap_eq_countP, List.countP_eq_length]
    exact all
  rw [survey, List.length_zipWith, length_readings, kinds, Nat.min_self]

theorem readEntry_of_not_driven {entry : String} (other : driven entry = none) (root : String)
    (p : Progress) :
    (readEntry root p entry).found = p.found ∧ (readEntry root p entry).storage = p.storage := by
  unfold driven at other
  unfold readEntry
  cases split : splitName entry.toList with
  | none => exact ⟨rfl, rfl⟩
  | some parts =>
      rw [split] at other
      have unknown : variantOf (String.ofList parts.1) = none := Option.map_eq_none_iff.mp other
      dsimp only
      rw [unknown]
      exact ⟨rfl, rfl⟩

theorem readFiles_eq (storage : Storage) (root entry : String) (kind : Variant × String) :
    readFiles storage root entry =
      (((readBoth storage root entry).1.connector kind).connected,
        ((readBoth storage root entry).1.connector kind).number,
        (readBoth storage root entry).2) := by
  unfold readFiles readBoth Reading.connector
  dsimp only

theorem readEntry_of_driven {entry : String} {kind : Variant × String}
    (here : driven entry = some kind) (root : String) (p : Progress) :
    (readEntry root p entry).found =
        p.found ++ [(readBoth p.storage root entry).1.connector kind] ∧
      (readEntry root p entry).storage = (readBoth p.storage root entry).2 := by
  unfold driven at here
  obtain ⟨parts, split, kept⟩ := Option.bind_eq_some_iff.mp here
  obtain ⟨variant, known, rfl⟩ := Option.map_eq_some_iff.mp kept
  unfold readEntry
  rw [split]
  dsimp only
  rw [known, readFiles_eq p.storage root entry (variant, String.ofList parts.2)]
  -- what was read stays closed, or comparing would read the files
  generalize readBoth p.storage root entry = read
  exact ⟨rfl, rfl⟩

/-- Only entries that are driven are read, and each adds the connector that it is. -/
theorem found_readConnectors (root : String) (entries : List String) (p : Progress) :
    (entries.foldl (readEntry root) p).found =
      p.found ++ survey root p.storage (selected entries) := by
  induction entries generalizing p with
  | nil => exact (List.append_nil _).symm
  | cons entry rest ih =>
      rw [List.foldl_cons, ih]
      cases here : driven entry with
      | none =>
          have skipped : selected (entry :: rest) = selected rest :=
            List.filter_cons_of_neg (by simp [here])
          obtain ⟨found, storage⟩ := readEntry_of_not_driven here root p
          rw [found, storage, skipped]
      | some kind =>
          have chosen : selected (entry :: rest) = entry :: selected rest :=
            List.filter_cons_of_pos (by simp [here])
          obtain ⟨found, storage⟩ := readEntry_of_driven here root p
          rw [found, storage, chosen, List.append_assoc, survey, survey,
            List.filterMap_cons_some here]
          rfl

/-! ### What is reported -/

/-- A scan reports the entries that are driven as the survey of them has it. -/
theorem scan_of_list {storage : Storage} {root : String} {entries names : List String}
    (listed : storage.list root = .ok entries) (ordered : names.Pairwise (· ≤ ·))
    (chosen : names.Perm (selected entries)) :
    (scan storage root).1 = .ok (topology (survey root storage names)) := by
  have found := found_readConnectors root (inOrder entries) { storage }
  rw [selected_inOrder ordered chosen] at found
  unfold scan
  rw [listed]
  exact congrArg (fun l => Except.ok (topology l)) found

/-- What a scan reports. The names are those of the entries that are driven, in order,
    whatever the order in which they were listed and whatever else was listed. What is
    reported depends on them and on what their files gave, and on nothing else. It numbers
    the entries as it should and loses none, if there are numbers enough to do so. -/
theorem scan_numbered {storage : Storage} {root : String} {entries names : List String}
    (listed : storage.list root = .ok entries) (ordered : names.Pairwise (· ≤ ·))
    (chosen : names.Perm (selected entries)) :
    let l := survey root storage names
    l.length = names.length ∧
    (scan storage root).1 = .ok (topology l) ∧
    (∀ (other : Storage) (place : String) (elsewhere : List String),
      other.list place = .ok elsewhere → names.Perm (selected elsewhere) →
      readings place other names = readings root storage names →
      (scan other place).1 = (scan storage root).1) ∧
    (EnoughFree (numbers l) (l.countP (·.number.isNone)) ↔
      ∃ ids, Numbered l ids ∧ Reports (topology l) l ids) := by
  have all : ∀ entry ∈ names, (driven entry).isSome = true := fun entry among =>
    (List.mem_filter.mp (chosen.mem_iff.mp among)).2
  refine ⟨length_survey all root storage, scan_of_list listed ordered chosen, ?_, ?_⟩
  · -- a scan is a function of the readings alone
    intro other place elsewhere listed' chosen' same
    rw [scan_of_list listed ordered chosen, scan_of_list listed' ordered chosen', survey, survey,
      same]
  · constructor
    · intro spare
      have numbered := numbered_assigned spare
      exact ⟨_, numbered, reports_topology numbered⟩
    · -- whoever numbers the entries as they should be found enough free numbers
      rintro ⟨ids, numbered, -⟩
      exact numbered.spare

/-- A directory with two cards. Two entries carry the same number, two carry none, one is
    gone as soon as its status is read, and some are no connectors at all. -/
def dock : Storage where
  items := [
    (["drm"], .directory),
    (["drm", "card1-HDMI-A-1"], .directory),
    (["drm", "card1-HDMI-A-1", "connector_id"], .file (some "1\n")),
    (["drm", "renderD128"], .directory),
    (["drm", "card0-eDP-1"], .directory),
    (["drm", "card0-eDP-1", "status"], .file (some "connected\n")),
    (["drm", "card0-HDMI-A-1"], .directory),
    (["drm", "card0-HDMI-A-1", "connector_id"], .file (some " 1\n")),
    (["drm", "card0-DP-1"], .directory),
    (["drm", "card0-DP-1", "connector_id"], .file (some "7\n")),
    (["drm", "card0-DP-1", "status"], .trap "connected\n" ["/drm/card0-DP-1"])]

/-- What reading the entries of `dock` gives. -/
def docked : List Connector := [
  ⟨none, .pluggable, true, "DP-1"⟩, ⟨some 1, .pluggable, false, "HDMI-A-1"⟩,
  ⟨none, .builtIn, true, "eDP-1"⟩, ⟨some 1, .pluggable, false, "HDMI-A-1"⟩]

theorem scan_numbered_dock :
    dock.list "/drm" =
      .ok ["card1-HDMI-A-1", "renderD128", "card0-eDP-1", "card0-HDMI-A-1", "card0-DP-1"] ∧
    assigned docked = [some 0, some 1, some 2, none] ∧
    (scan dock "/drm").1 = .ok (topology docked) ∧
    ∃ ids, Numbered docked ids ∧ Reports (topology docked) docked ids := by
  have listed : dock.list "/drm" =
      .ok ["card1-HDMI-A-1", "renderD128", "card0-eDP-1", "card0-HDMI-A-1", "card0-DP-1"] := rfl
  have ordered : ["card0-DP-1", "card0-HDMI-A-1", "card0-eDP-1", "card1-HDMI-A-1"].Pairwise
      (· ≤ ·) := by
    decide +kernel
  obtain ⟨-, reported, -, numbered⟩ := scan_numbered listed ordered (by decide +kernel)
  have read : survey "/drm" dock
      ["card0-DP-1", "card0-HDMI-A-1", "card0-eDP-1", "card1-HDMI-A-1"] = docked := by
    decide +kernel
  rw [read] at reported numbered
  exact ⟨listed, by decide, reported, numbered.mp (enoughFree_of_length (by decide))⟩

end Connector

end DisplayHub
