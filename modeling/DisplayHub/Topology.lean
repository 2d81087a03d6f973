import DisplayHub.Variant

/-!
# Topology

The displays that the hardware reports, by their numbers.

A report is kept in the order of the numbers, with one entry for each. The
entries carry their own number, so a report is a list of entries whose
numbers rise, and looking a number up can never give an entry of another one.
Where several entries of one number are put in, the last one stays.

## Main definitions

* `Entry`, `Interface`: One display as reported, and what matters of it to
  those who ask for an interface only.
* `Variant.displayName`, `idText`: Naming a display whose number may be missing.
* `Topology`: Entries in rising order of their numbers.
* `Topology.insert`, `Topology.ofList`: Putting entries in.
* `Topology.find?`: The entry of a number.
* `Topology.first?`: The interface that comes first.

## Theorems

* `mem_insertEntry`: What putting an entry in leaves.
* `insertEntry_rising`: Putting an entry in keeps the order.
* `Topology.find?_insert`: What is found after putting an entry in.
* `Topology.find?_eq_some_iff`: What is found under a number is the entry of
  the report that has it.
-/

namespace DisplayHub

/-- One display as the hardware reports it. -/
structure Entry where
  id : Int32
  variant : Variant
  connected : Bool := false
  primary : Bool := false
  name : String := ""
deriving DecidableEq, Repr

/-- The kind and the connection of one display interface. -/
structure Interface where
  variant : Variant
  connected : Bool
deriving DecidableEq, Repr

/-- The name that a display has for being of a kind, with its number once
    that is known. -/
def Variant.displayName (v : Variant) : Option Int32 → String
  | none => v.word
  | some id => v.word ++ "-" ++ toString id.toInt

/-- The number of a display as messages print it where it may be missing. -/
def idText : Option Int32 → String
  | none => "None"
  | some id => "Some(" ++ toString id.toInt ++ ")"

/-- The number comes before another one. -/
def Entry.before (a b : Entry) : Prop :=
  a.id.toInt < b.id.toInt

/-- Puts an entry into a list in the order of numbers, in place of any entry
    with its number. -/
def insertEntry (e : Entry) : List Entry → List Entry
  | [] => [e]
  | a :: rest =>
    if e.id.toInt < a.id.toInt then e :: a :: rest
    else if e.id.toInt = a.id.toInt then e :: rest
    else a :: insertEntry e rest

/-- What putting an entry in leaves is that entry and what was there. -/
theorem mem_insertEntry {e x : Entry} {l : List Entry} (h : x ∈ insertEntry e l) :
    x = e ∨ x ∈ l := by
  induction l with
  | nil => exact Or.inl (List.mem_singleton.mp h)
  | cons a rest ih =>
      simp only [insertEntry] at h
      split at h
      · exact List.mem_cons.mp h
      · split at h
        · rcases List.mem_cons.mp h with h | h
          · exact Or.inl h
          · exact Or.inr (List.mem_cons_of_mem a h)
        · rcases List.mem_cons.mp h with h | h
          · exact Or.inr (h ▸ List.mem_cons_self)
          · exact (ih h).imp id (List.mem_cons_of_mem a)

/-- Putting an entry in keeps the order. -/
theorem insertEntry_rising (e : Entry) {l : List Entry} (h : l.Pairwise Entry.before) :
    (insertEntry e l).Pairwise Entry.before := by
  induction l with
  | nil => exact List.pairwise_singleton _ _
  | cons a rest ih =>
      obtain ⟨ha, hrest⟩ := List.pairwise_cons.mp h
      simp only [insertEntry]
      split
      · next lt =>
          refine List.pairwise_cons.mpr ⟨fun x hx => ?_, h⟩
          rcases List.mem_cons.mp hx with rfl | hx
          · exact lt
          · exact Int.lt_trans lt (ha x hx)
      · split
        · next eq =>
            refine List.pairwise_cons.mpr ⟨fun x hx => ?_, hrest⟩
            have := ha x hx
            simp only [Entry.before] at this ⊢
            omega
        · next ne eq =>
            refine List.pairwise_cons.mpr ⟨fun x hx => ?_, ih hrest⟩
            rcases mem_insertEntry hx with rfl | hx
            · simp only [Entry.before]
              omega
            · exact ha x hx

/-- What is found after putting an entry in: the entry under its number, and
    what was there under any other. -/
theorem find?_insertEntry (e : Entry) (l : List Entry) (id : Int32) :
    (insertEntry e l).find? (fun x => x.id = id) =
      if e.id = id then some e else l.find? fun x => x.id = id := by
  induction l with
  | nil =>
      simp only [insertEntry, List.find?_cons, List.find?_nil]
      split <;> simp_all
  | cons a rest ih =>
      simp only [insertEntry]
      split
      · simp only [List.find?_cons]
        split <;> simp_all
      · split
        · next eq =>
            have same : a.id = e.id := (Int32.toInt_inj.mp eq).symm
            simp only [List.find?_cons, same]
            split <;> simp_all
        · next ne =>
            have other : e.id ≠ a.id := fun same => ne (congrArg Int32.toInt same)
            simp only [List.find?_cons, ih]
            by_cases ha : a.id = id
            · have he : e.id ≠ id := fun he => other (he.trans ha.symm)
              simp only [ha, he, decide_true, if_false]
            · simp only [ha, decide_false]

/-- The displays that the hardware reports, in rising order of their
    numbers. -/
structure Topology where
  entries : List Entry := []
  rising : entries.Pairwise Entry.before := by exact List.Pairwise.nil

namespace Topology

/-- The report of no displays. -/
def empty : Topology := {}

/-- Puts an entry in, in place of any entry with its number. -/
def insert (t : Topology) (e : Entry) : Topology :=
  ⟨insertEntry e t.entries, insertEntry_rising e t.rising⟩

/-- The report of a list of entries, of which the last one stays for each
    number. -/
def ofList (l : List Entry) : Topology :=
  l.foldl insert empty

/-- How many displays are reported. -/
def size (t : Topology) : Nat := t.entries.length

/-- The numbers reported, in rising order. -/
def ids (t : Topology) : List Int32 := t.entries.map (·.id)

/-- The entry of a number. -/
def find? (t : Topology) (id : Int32) : Option Entry :=
  t.entries.find? fun e => e.id = id

/-- The interface with the lowest number. -/
def first? (t : Topology) : Option Interface :=
  t.entries.head?.map fun e => ⟨e.variant, e.connected⟩

/-- Putting an entry in changes what is found under its number, and nothing
    else. -/
theorem find?_insert (t : Topology) (e : Entry) (id : Int32) :
    (t.insert e).find? id = if e.id = id then some e else t.find? id :=
  find?_insertEntry e t.entries id

/-- An entry is found under a number exactly if it is in the report and has
    that number. -/
theorem find?_eq_some_iff {t : Topology} {id : Int32} {e : Entry} :
    t.find? id = some e ↔ e ∈ t.entries ∧ e.id = id := by
  obtain ⟨entries, rising⟩ := t
  constructor
  · intro h
    exact ⟨List.mem_of_find?_eq_some h, by simpa using List.find?_some h⟩
  · rintro ⟨member, rfl⟩
    simp only [find?]
    induction entries with
    | nil => exact absurd member List.not_mem_nil
    | cons a rest ih =>
        obtain ⟨first, later⟩ := List.pairwise_cons.mp rising
        rw [List.find?_cons]
        rcases List.mem_cons.mp member with rfl | member
        · simp only [decide_true]
        · have ne : a.id ≠ e.id := fun same =>
            Int.ne_of_lt (first e member) (congrArg Int32.toInt same)
          simp only [ne, decide_false]
          exact ih later member

end Topology

end DisplayHub
