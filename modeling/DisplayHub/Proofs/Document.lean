import DisplayHub.Proofs.Flags
import DisplayHub.Proofs.Written
import DisplayHub.Settings.Loading
import Mathlib.Data.List.Forall2

/-!
# Documents read back

Whatever this library writes, it reads as the same value.

A text becomes its tree and the tree becomes a value, so with the trees of
written values known what is left concerns the readers alone. For plain values
that is one lemma each. A structure is written with all its fields in the
order of its table, and is read by looking each member's name up in that
table. `Fills` goes along the table and the members together, and says what
each field makes of the structure; that the look-up finds the field the walk
has come to is where the names have to be distinct.

A reader begins with a blank structure, and nothing of it is left in the end,
because every field of the table sets its part and the parts are all there
is. This is decided for each structure by computing, so a field that is
missing in a table, or is set in another one's place, would show there.

## Main definitions

* `Reads`: A reader finds a value in the tree of a written one.
* `Fills`: The members of an object fill the fields of a table in turn.
* `RecordField.Unchanging`: A member gives a structure what it has already.
* `RoundTrips`: Reading undoes writing.

## Theorems

* `reads_record`: A structure is read from the members that fill its table.
* `Resource.reads`, `Entry.reads`, `Settings.reads`, …: Each structure is read
  from its written form.
* `Fills.unchanging`: Each of the members that make up a structure changes nothing
  in it.
* `documents_round_trip`: All kinds of documents round trip.
* `Settings.fromFile_toText`: A file with written settings is loaded as these.
-/

namespace DisplayHub

namespace Json

/-- A reader finds a value in the tree of a written one. -/
def Reads {α : Type} (read : Reader α) (v : Value) (a : α) : Prop :=
  read v.node = .ok a

/-! ### Plain values -/

theorem reads_bool (b : Bool) : Reads readBool (.bool b) b :=
  rfl

theorem reads_text (s : String) : Reads readText (.text s) s :=
  Quoted.read_written s

/-- A whole number of at most 64 bits is read if it fits the type. -/
theorem reads_int {α : Type} {fits : Int → Option α} {n : Int} {a : α} (fit : fits n = some a)
    (low : -0x8000000000000000 ≤ n) (high : n < 0x10000000000000000) :
    Reads (readInt fits) (.int n) a := by
  have value := Numeral.value_written low high
  rw [Reads, Value.node, readInt]
  simp only [value, fit, require]

theorem reads_uint32 (n : UInt32) : Reads readUInt32 (.int n.toNat) n := by
  have small := n.toNat_lt
  refine reads_int ?_ (by omega) (by omega)
  rw [if_pos (by omega), Int.toNat_natCast, UInt32.ofNat_toNat]

theorem reads_uint64 (n : UInt64) : Reads readUInt64 (.int n.toNat) n := by
  have small := n.toNat_lt
  refine reads_int ?_ (by omega) (by omega)
  rw [if_pos (by omega), Int.toNat_natCast, UInt64.ofNat_toNat]

theorem reads_int32 (n : Int32) : Reads readInt32 (.int n.toInt) n := by
  have low := n.minValue_le_toInt
  have high := n.toInt_lt
  simp only [Int32.toInt_minValue] at low
  refine reads_int ?_ (by omega) (by omega)
  rw [if_pos (by omega), Int32.ofInt_toInt]

/-- A case of an enumeration is read from its name. -/
theorem reads_name {α : Type} {meaning : String → Option α} {s : String} {a : α}
    (means : meaning s = some a) : Reads (readName meaning) (.text s) a := by
  rw [Reads, Value.node, readName, Quoted.read_written]
  simp only [bind, Except.bind, means, require]

/-- A text with a meaning is read as what it means. -/
theorem reads_meaning {α : Type} {meaning : String → Option α} {s : String} {a : α}
    (means : meaning s = some a) : Reads (readMeaning meaning) (.text s) a := by
  have text : readText (Value.text s).node = .ok s := reads_text s
  rw [Reads, readMeaning, text]
  simp only [bind, Except.bind, means, require]

/-- A list is read if its items are. -/
theorem reads_list {α : Type} {read : Reader α} {write : α → Value}
    (reads : ∀ a, Reads read (write a) a) (l : List α) :
    Reads (readList read) (.list (l.map write)) l := by
  have items : readItems read (Value.itemNodes (l.map write)) = .ok l := by
    induction l with
    | nil => rfl
    | cons a l ih =>
        have first : read (write a).node = .ok a := reads a
        rw [List.map_cons, Value.itemNodes, readItems, first, ih]
        rfl
  rw [Reads, Value.node, readList, items]
  rfl

/-! ### Structures -/

/-- The members of an object fill the fields of a table in turn, which makes
    one structure of another. Each gives the second structure a part that it
    has already. -/
inductive Fills {α : Type} : List (RecordField α) → List (String × Value) → α → α → Prop
  | nil (a : α) : Fills [] [] a a
  | cons {field : RecordField α} {fields : List (RecordField α)} {v : Value}
      {members : List (String × Value)} {set : α → α} {a b : α} (read : Reads field.read v set)
      (own : set b = b) (rest : Fills fields members (set a) b) :
      Fills (field :: fields) ((field.name, v) :: members) a b

/-- A field that is set to what is read for it. -/
theorem Fills.of {α β : Type} {name : String} {required : Bool} {read : Reader β}
    {set : β → α → α} {x : β} {v : Value} {fields : List (RecordField α)}
    {members : List (String × Value)} {a b : α} (reads : Reads read v x) (own : set x b = b)
    (rest : Fills fields members (set x a) b) :
    Fills (.of name required read set :: fields) ((name, v) :: members) a b := by
  have found : Reads (RecordField.of name required read set).read v (set x) := by
    have value : read v.node = .ok x := reads
    simp only [Reads, RecordField.of, value, Except.map]
  exact .cons found own rest

/-- No field that comes before another one has its name. -/
theorem name_not_mem {α : Type} {done todo : List (RecordField α)} {field : RecordField α}
    (distinct : ((done ++ field :: todo).map (·.name)).Nodup) :
    field.name ∉ done.map (·.name) := by
  rw [List.map_append, List.map_cons] at distinct
  exact fun before => (List.nodup_append.mp distinct).2.2 _ before _ List.mem_cons_self rfl

/-- The name of a field leads to it if no other field has it. -/
theorem find?_field {α : Type} {done todo : List (RecordField α)} {field : RecordField α}
    (distinct : ((done ++ field :: todo).map (·.name)).Nodup) :
    (done ++ field :: todo).find? (fun f => f.name = field.name) = some field := by
  have before : done.find? (fun f => decide (f.name = field.name)) = none := by
    rw [List.find?_eq_none]
    intro f member same
    exact name_not_mem distinct (List.mem_map.mpr ⟨f, member, of_decide_eq_true same⟩)
  rw [List.find?_append, before, Option.none_or, List.find?_cons_of_pos (by simp)]

/-- Reading by name goes through the table as the members fill it, and sees
    every name of it once. -/
theorem readByName_of_fills {α : Type} {all done todo : List (RecordField α)}
    {members : List (String × Value)} {a b : α} {seen : List String}
    (fills : Fills todo members a b) (table : all = done ++ todo)
    (distinct : (all.map (·.name)).Nodup) (past : seen = (done.map (·.name)).reverse) :
    readByName all (Value.memberNodes members) seen a
      = .ok (b, (all.map (·.name)).reverse) := by
  -- the walk is past `done`, and what it has seen is the names there
  induction fills generalizing done seen with
  | nil => rw [Value.memberNodes, readByName, past, table, List.append_nil]
  | @cons field fields v members set a b read own rest ih =>
      have key : readKey (.quoted (.written field.name)) = .ok field.name :=
        Quoted.read_written field.name
      have value : field.read v.node = .ok set := read
      have found : all.find? (fun f => f.name = field.name) = some field := by
        rw [table] at distinct ⊢
        exact find?_field distinct
      -- a name that comes twice would be a fault
      have fresh : field.name ∉ seen := by
        rw [table] at distinct
        rw [past, List.mem_reverse]
        exact name_not_mem distinct
      have later : field.name :: seen = ((done ++ [field]).map (·.name)).reverse := by
        rw [past, List.map_append, List.reverse_append]
        rfl
      rw [Value.memberNodes, readByName, key]
      simp only [bind, Except.bind, found, if_neg fresh, value]
      exact ih (table.trans (List.append_cons done field fields)) later

/-- A structure is read from the members that fill its table. -/
theorem reads_record {α : Type} {fields : List (RecordField α)}
    {members : List (String × Value)} {blank a : α} (fills : Fills fields members blank a)
    (distinct : (fields.map (·.name)).Nodup) :
    Reads (readRecord blank fields) (.object members) a := by
  have named : readByName fields (Value.memberNodes members) [] blank
      = .ok (a, (fields.map (·.name)).reverse) :=
    readByName_of_fills fills (List.nil_append fields).symm distinct rfl
  have complete : complete fields (fields.map (·.name)).reverse = true := by
    rw [Json.complete, List.all_eq_true]
    intro field member
    have seen : (fields.map (·.name)).reverse.contains field.name = true := by
      rw [List.contains_iff_mem, List.mem_reverse]
      exact List.mem_map.mpr ⟨field, member, rfl⟩
    rw [seen, Bool.or_true]
  rw [Reads, Value.node, readRecord, named]
  simp only [bind, Except.bind, checkEnd, complete, if_true]
  rfl

/-! ### Members that change nothing -/

/-- The members that a value is written with, if it is written with any. -/
def Value.members : Value → List (String × Value)
  | .object members => members
  | _ => []

/-- What is written for a field of a structure is read as a change that leaves the
    structure as it is. -/
def RecordField.Unchanging {α : Type} (a : α) (field : RecordField α)
    (member : String × Value) : Prop :=
  member.1 = field.name ∧ ∃ set, Reads field.read member.2 set ∧ set a = a

/-- Each of the members that make up a structure changes nothing in it. -/
theorem Fills.unchanging {α : Type} {fields : List (RecordField α)}
    {members : List (String × Value)} {a b : α} (fills : Fills fields members a b) :
    List.Forall₂ (RecordField.Unchanging b) fields members := by
  induction fills with
  | nil => exact .nil
  | cons read own _ ih => exact .cons ⟨rfl, _, read, own⟩ ih

/-! ### Documents -/

/-- Reading undoes writing: what is written for any value reads back as that
    value, and so a text that is read, written and read again gives what it
    gave at first, or the same fault. -/
structure RoundTrips {α : Type} (read : Reader α) (write : α → Value) : Prop where
  back : ∀ a, readDocument read (write a).toText = .ok a
  again : ∀ text, (readDocument read text >>= fun a => readDocument read (write a).toText)
    = readDocument read text

/-- A reader that finds each value in its tree finds it in the text. -/
theorem roundTrips_of_reads {α : Type} {read : Reader α} {write : α → Value}
    (reads : ∀ a, Reads read (write a) a) : RoundTrips read write := by
  have back (a : α) : readDocument read (write a).toText = .ok a := by
    have found : read (write a).node = .ok a := reads a
    rw [readDocument, Value.toText, String.toList_ofList, parse_render]
    simp only [bind, Except.bind, found]
    rfl
  refine ⟨back, fun text => ?_⟩
  -- a text that is refused the first time has no value to be written
  cases given : readDocument read text with
  | error fault => rfl
  | ok a => exact back a

end Json

open Json

/-! ### Structures of the settings -/

theorem Variant.reads (v : Variant) : Reads ofNode (.text v.name) v :=
  reads_name (by cases v <;> decide)

theorem PixelFormat.reads (f : PixelFormat) : Reads ofNode (.text f.name) f :=
  reads_name (by cases f <;> decide)

theorem HardwareSource.reads (s : HardwareSource) : Reads ofNode (.text s.name) s :=
  reads_name (by cases s <;> decide)

theorem Capabilities.reads (c : Capabilities) : Reads ofNode (.text c.write) c :=
  reads_meaning c.read_write

theorem Resource.fills (r : Resource) : Fills fields r.toValue.members {} r := by
  have formats : Reads (readList PixelFormat.ofNode)
      (.list (r.rotatorFormats.map fun f => .text f.name)) r.rotatorFormats :=
    reads_list PixelFormat.reads r.rotatorFormats
  exact .of (reads_uint32 r.version) rfl <| .of (reads_uint32 r.vigPipes) rfl <|
    .of (reads_uint32 r.rgbPipes) rfl <| .of (reads_uint32 r.dmaPipes) rfl <|
    .of (reads_uint32 r.blendingStages) rfl <| .of (reads_uint32 r.mixers) rfl <|
    .of (reads_uint32 r.dspps) rfl <| .of (reads_uint64 r.maxBandwidth) rfl <|
    .of r.capabilities.reads rfl <| .of formats rfl <| .of (reads_uint32 r.maxBuiltIn) rfl <|
    .of (reads_uint32 r.maxPluggable) rfl <| .of (reads_uint32 r.maxOffscreen) rfl <| .nil r

/-- A resource description is read from its written form. -/
theorem Resource.reads (r : Resource) : Reads ofNode r.toValue r :=
  reads_record r.fills (by decide)

theorem Entry.fills (e : Entry) :
    Fills fields e.toValue.members ⟨0, .builtIn, false, false, ""⟩ e :=
  .of (reads_int32 e.id) rfl <| .of e.variant.reads rfl <| .of (reads_bool e.connected) rfl <|
    .of (reads_bool e.primary) rfl <| .of (reads_text e.name) rfl <| .nil e

/-- A display entry is read from its written form. -/
theorem Entry.reads (e : Entry) : Reads ofNode e.toValue e :=
  reads_record e.fills (by decide)

theorem Interface.fills (i : Interface) :
    Fills fields i.toValue.members ⟨.builtIn, false⟩ i :=
  .of i.variant.reads rfl <| .of (reads_bool i.connected) rfl <| .nil i

/-- An interface is read from its written form. -/
theorem Interface.reads (i : Interface) : Reads ofNode i.toValue i :=
  reads_record i.fills (by decide)

theorem ExtensionSettings.fills (s : ExtensionSettings) : Fills fields s.toValue.members {} s :=
  .of (reads_bool s.enabled) rfl <| .of (reads_text s.library) rfl <|
    .of (reads_list reads_text s.searchDirs) rfl <| .of (reads_text s.createSymbol) rfl <|
    .of (reads_text s.destroySymbol) rfl <| .of (reads_uint32 s.versionTag) rfl <| .nil s

/-- The extension section is read from its written form. -/
theorem ExtensionSettings.reads (s : ExtensionSettings) : Reads ofNode s.toValue s :=
  reads_record s.fills (by decide)

theorem HardwareSettings.fills (s : HardwareSettings) : Fills fields s.toValue.members {} s :=
  .of s.source.reads rfl <| .of (reads_text s.connectorRoot) rfl <| .of s.resource.reads rfl <|
    .of (reads_list Entry.reads s.displays) rfl <| .nil s

/-- The hardware section is read from its written form. -/
theorem HardwareSettings.reads (s : HardwareSettings) : Reads ofNode s.toValue s :=
  reads_record s.fills (by decide)

theorem SocketSettings.fills (s : SocketSettings) : Fills fields s.toValue.members {} s :=
  .of (reads_text s.directory) rfl <| .nil s

/-- The socket section is read from its written form. -/
theorem SocketSettings.reads (s : SocketSettings) : Reads ofNode s.toValue s :=
  reads_record s.fills (by decide)

theorem Settings.fills (s : Settings) : Fills fields s.toValue.members {} s :=
  .of s.extension.reads rfl <| .of s.hardware.reads rfl <| .of s.sockets.reads rfl <| .nil s

/-- Settings are read from their written form. -/
theorem Settings.reads (s : Settings) : Reads ofNode s.toValue s :=
  reads_record s.fills (by decide)

/-- Settings, resource descriptions, display entries, lists of these and
    interfaces round trip, whatever texts, numbers, flags and lists they
    hold. -/
theorem documents_round_trip :
    RoundTrips Settings.ofNode Settings.toValue
      ∧ RoundTrips Resource.ofNode Resource.toValue
      ∧ RoundTrips Entry.ofNode Entry.toValue
      ∧ RoundTrips (readList Entry.ofNode) (fun l => .list (l.map Entry.toValue))
      ∧ RoundTrips Interface.ofNode Interface.toValue :=
  ⟨roundTrips_of_reads Settings.reads, roundTrips_of_reads Resource.reads,
    roundTrips_of_reads Entry.reads, roundTrips_of_reads (reads_list Entry.reads),
    roundTrips_of_reads Interface.reads⟩

/-- A file that holds what was written for settings is loaded as these. -/
theorem Settings.fromFile_toText {storage : Storage} {path : String} {s : Settings}
    (holds : (storage.readText path).1 = .ok s.toValue.toText) :
    (fromFile storage path).result = .ok s := by
  have text : ofText s.toValue.toText = .ok s := (roundTrips_of_reads Settings.reads).back s
  rw [fromFile]
  split
  · next found =>
      rw [found] at holds
      exact absurd holds nofun
  · next found =>
      rw [found] at holds
      cases holds
      rw [text]

end DisplayHub
