import DisplayHub.Proofs.Tables

/-!
# Other ways to write a document

The same value, written otherwise.

Who writes a structure may give its members in any order, add members that nobody knows,
leave out a member whose value is the default, or give the first fields as a list. All of
these can be done anywhere in a document, and one after the other. `Varies` says so with one
rule for each, and three rules that go further inside: to a member, to a place in a list of
fields, and to an item of a list.

The rules speak of trees and not of texts, since nothing that can be told of the text alone
says where a member begins and ends. What a tree has to do with a text is said by the
grammar. It is used twice. A member that nobody knows may have any value that is spelled
somewhere, whether or not there is a reader for it. And a text that is accepted is spelled
as a whole, so that the rules apply to every such text.

The default that can be left out is that of the structure that the member is in, so a
section that is given in part keeps the defaults of the section for the rest. Which default
that is can be seen from what is written for the blank structure, where every field has a
member of its own. That this member is read, and as something that changes nothing, is proved
for every table and no condition on who writes it.

The rules alone would hold of a reader that accepts nothing. `Stable` therefore also says of
one form, the object, when it is accepted and as what, and the rules carry this over to all
the others.

## Main definitions

* `Varies`: One value written in two ways.
* `Stable`: Variation does not change what is read from a text.
* `Resource.table`, `Entry.table`, `Settings.table`, …: The tables of a document.

## Theorems

* `Varies.same`: Two writings of a value are read alike.
* `Table.stable`: What a table reads is stable.
* `documents_stable`: Documents of all kinds can be varied.
-/

namespace DisplayHub

namespace Json

/-! ### Fields that are set to a value -/

section Fields

variable {α β γ : Type} {name : String} {required : Bool} {read : Reader β} {set : β → α → α}

theorem read_of_iff {n : Node} {change : α → α} :
    (RecordField.of name required read set).read n = .ok change ↔
      ∃ b, read n = .ok b ∧ set b = change :=
  map_eq_ok_iff

theorem ThoroughFields.nil : ThoroughFields ([] : List (RecordField α)) :=
  nofun

theorem ThoroughFields.of {fields : List (RecordField α)} (first : Thorough read)
    (rest : ThoroughFields fields) :
    ThoroughFields (.of name required read set :: fields) := by
  refine List.forall_mem_cons.mpr ⟨fun n change sane found => ?_, rest⟩
  obtain ⟨b, value, -⟩ := read_of_iff.mp found
  exact first n b sane value

theorem apart_of {name' : String} {required' : Bool} {read' : Reader γ} {set' : γ → α → α}
    (apart : ∀ b c a, set b (set' c a) = set' c (set b a)) :
    (RecordField.of name required read set).Apart (.of name' required' read' set') := by
  intro n m s t found found' a
  obtain ⟨b, -, rfl⟩ := read_of_iff.mp found
  obtain ⟨c, -, rfl⟩ := read_of_iff.mp found'
  exact apart b c a

end Fields

/-! ### Variation -/

/-- One value written in two ways, for a reader. -/
inductive Varies : {α : Type} → Reader α → Node → Node → Prop where
  | refl {α : Type} (read : Reader α) (n : Node) : Varies read n n
  | symm {α : Type} {read : Reader α} {n n' : Node} (same : Varies read n n') : Varies read n' n
  | trans {α : Type} {read : Reader α} {n n' n'' : Node} (first : Varies read n n')
      (second : Varies read n' n'') : Varies read n n''
  /-- Members can come in any order. -/
  | permuted {α : Type} (t : Table α) {members members' : List (Key × Node)}
      (order : members.Perm members') :
      Varies t.read (.object members none) (.object members' none)
  /-- A member with a name that nobody knows can have any value that is JSON. -/
  | stranger {α : Type} (t : Table α) {key : Key} {n : Node} {name : String}
      {s rest : List Char} (members : List (Key × Node)) (named : readKey key = .ok name)
      (unknown : ∀ field ∈ t.fields, field.name ≠ name) (value : n.Spelled s rest) :
      Varies t.read (.object ((key, n) :: members) none) (.object members none)
  /-- A member can be left out if it has the default that is written for its structure, in
      whatever way that is written. -/
  | default {α : Type} (t : Table α) {field : RecordField α} {key : Key} {n : Node} {v : Value}
      {members : List (Key × Node)} (among : field ∈ t.fields) (optional : field.required = false)
      (named : readKey key = .ok field.name)
      (absent : ∀ m ∈ members, readKey m.1 ≠ .ok field.name) (own : (field.name, v) ∈ t.written)
      (alike : field.read n = field.read v.node) :
      Varies t.read (.object ((key, n) :: members) none) (.object members none)
  /-- The first fields can be written as a list. -/
  | listed {α : Type} (t : Table α) {first left : List (RecordField α)}
      {members : List (Key × Node)} (split : t.fields = first ++ left)
      (keyed : List.Forall₂ Table.Keyed members first) :
      Varies t.read (.list (members.map Prod.snd) none) (.object members none)
  /-- The value of a member can vary. -/
  | member {α β : Type} (t : Table α) {name : String} {required : Bool} {read : Reader β}
      {set : β → α → α} {key : Key} {n n' : Node} (members : List (Key × Node))
      (among : RecordField.of name required read set ∈ t.fields) (named : readKey key = .ok name)
      (inner : Varies read n n') :
      Varies t.read (.object ((key, n) :: members) none) (.object ((key, n') :: members) none)
  /-- In a list of the first fields, the value in any place can vary. -/
  | place {α β : Type} (t : Table α) {first left : List (RecordField α)} {name : String}
      {required : Bool} {read : Reader β} {set : β → α → α} {n n' : Node} {before : List Node}
      (after : List Node) (split : t.fields = first ++ .of name required read set :: left)
      (place : before.length = first.length) (inner : Varies read n n') :
      Varies t.read (.list (before ++ n :: after) none) (.list (before ++ n' :: after) none)
  /-- An item of a list can vary. -/
  | item {α : Type} {read : Reader α} {n n' : Node} (before after : List Node)
      (inner : Varies read n n') :
      Varies (readList read) (.list (before ++ n :: after) none)
        (.list (before ++ n' :: after) none)

/-- Two writings of a value are read alike. -/
theorem Varies.same {α : Type} {read : Reader α} {n n' : Node} (varies : Varies read n n') :
    ∀ a, read n = .ok a ↔ read n' = .ok a := by
  -- each rule is a fact about tables, and those that go inside carry it through the member
  induction varies with
  | refl read n => exact fun _ => Iff.rfl
  | symm _ ih => exact fun a => (ih a).symm
  | trans _ _ first second => exact fun a => (first a).trans (second a)
  | permuted t order => exact fun _ => Table.read_perm order
  | stranger t members named unknown value =>
      exact fun _ => Table.read_stranger named unknown value.whole
  | default t among optional named absent own alike =>
      obtain ⟨set, value, same⟩ := Table.read_written among own
      exact fun _ => Table.read_default named among optional absent (alike.trans value) same
  | listed t split keyed => exact fun _ => Table.read_listed split keyed
  | member t members among named inner ih =>
      refine fun _ => Table.read_member named among fun set => ?_
      rw [read_of_iff, read_of_iff]
      simp only [ih]
  | place t after split place inner ih =>
      refine fun _ => Table.read_place split place fun set => ?_
      rw [read_of_iff, read_of_iff]
      simp only [ih]
  | item before after inner ih =>
      intro l
      simp only [readList, bind_eq_ok_iff, readItems_congr before after ih]

/-! ### Documents -/

/-- Variation does not change what is read from a text. -/
structure Stable {α : Type} (t : Table α) (read : Reader α) (write : α → Value) : Prop where
  same : read = t.read
  /-- The defaults that can be left out are those that the blank structure is written with. -/
  written : write t.blank = .object t.written
  /-- A field that can be left out has its default among them, which is read and changes
      nothing. -/
  defaults : ∀ field ∈ t.fields, field.required = false → ∃ v set,
    (field.name, v) ∈ t.written ∧ field.read v.node = .ok set ∧ set t.blank = t.blank
  /-- Writing that default is leaving it out. -/
  omitted : ∀ field ∈ t.fields, field.required = false → ∀ v, (field.name, v) ∈ t.written →
    ∀ key members text text', readKey key = .ok field.name →
      (∀ m ∈ members, readKey m.1 ≠ .ok field.name) →
      (Node.object ((key, v.node) :: members) none).SpelledBy text →
      (Node.object members none).SpelledBy text' →
      ∀ a, readDocument read text = .ok a ↔ readDocument read text' = .ok a
  /-- A text that is accepted is that of a tree. -/
  spelled : ∀ text a, readDocument read text = .ok a → ∃ n : Node, n.SpelledBy text
  /-- An object gives what its members make of the blank structure, and nothing else keeps it
      from being accepted. -/
  yields : ∀ members text, (Node.object members none).SpelledBy text →
    ∀ a, readDocument read text = .ok a ↔ ∃ marks, t.Yields members marks a
  /-- The texts of two trees that vary each other are read alike. -/
  varied : ∀ n n' text text', n.SpelledBy text → n'.SpelledBy text' → Varies read n n' →
    ∀ a, readDocument read text = .ok a ↔ readDocument read text' = .ok a

theorem readDocument_of_spelledBy {α : Type} (read : Reader α) {n : Node} {text : String}
    (spelled : n.SpelledBy text) : readDocument read text = read n := by
  obtain ⟨rest, parsed, blank⟩ := parse_of_spelledBy spelled
  rw [readDocument, parsed]
  simp only [blank, List.isEmpty_nil, if_true]
  exact bind_pure (read n)

theorem Table.stable {α : Type} (t : Table α) {write : α → Value}
    (written : write t.blank = .object t.written) : Stable t t.read write where
  same := rfl
  written := written
  defaults field among _ := Table.exists_written among
  omitted := by
    intro field among optional v own key members text text' named absent spelled spelled' a
    rw [readDocument_of_spelledBy _ spelled, readDocument_of_spelledBy _ spelled']
    exact (Varies.default t among optional named absent own rfl).same a
  spelled := by
    intro text a accepted
    have parsed := Node.parse_parsed text.toList
    rw [readDocument] at accepted
    -- the reader sees every fault, so what it accepts has none and is spelled
    generalize Node.parse text.toList = found at parsed accepted
    obtain ⟨n, rest⟩ := found
    obtain ⟨b, read, accepted⟩ := bind_eq_ok_iff.mp accepted
    split at accepted
    · next blank =>
        have whole := t.thorough_read n b parsed.1 read
        exact ⟨n, rest, parsed.2 whole, List.isEmpty_iff.mp blank⟩
    · cases accepted
  yields := by
    intro members text spelled a
    rw [readDocument_of_spelledBy _ spelled]
    exact t.read_object_iff
  varied := by
    intro n n' text text' spelled spelled' varies a
    rw [readDocument_of_spelledBy _ spelled, readDocument_of_spelledBy _ spelled']
    exact varies.same a

end Json

open Json

/-! ### The tables of a document -/

theorem thorough_readUInt32 : Thorough readUInt32 :=
  thorough_readInt _

/-- The table of a resource description. -/
def Resource.table : Table Resource where
  blank := {}
  fields := fields
  written := (toValue {}).members
  distinct := by decide
  thorough :=
    .of thorough_readUInt32 <| .of thorough_readUInt32 <| .of thorough_readUInt32 <|
      .of thorough_readUInt32 <| .of thorough_readUInt32 <| .of thorough_readUInt32 <|
      .of thorough_readUInt32 <| .of (thorough_readInt _) <| .of (thorough_readMeaning _) <|
      .of (thorough_readList (thorough_readName _)) <| .of thorough_readUInt32 <|
      .of thorough_readUInt32 <| .of thorough_readUInt32 <| .nil
  apart := by
    simp only [fields, List.pairwise_cons, List.forall_mem_cons, List.not_mem_nil, false_imp_iff,
      implies_true, and_true, List.Pairwise.nil]
    and_intros
    all_goals exact apart_of fun _ _ _ => rfl
  unchanging := (fills {}).unchanging

/-- The table of a display entry. -/
def Entry.table : Table Entry where
  blank := ⟨0, .builtIn, false, false, ""⟩
  fields := fields
  written := (toValue ⟨0, .builtIn, false, false, ""⟩).members
  distinct := by decide
  thorough :=
    .of (thorough_readInt _) <| .of (thorough_readName _) <| .of thorough_readBool <|
      .of thorough_readBool <| .of thorough_readText <| .nil
  apart := by
    simp only [fields, List.pairwise_cons, List.forall_mem_cons, List.not_mem_nil, false_imp_iff,
      implies_true, and_true, List.Pairwise.nil]
    and_intros
    all_goals exact apart_of fun _ _ _ => rfl
  unchanging := (fills ⟨0, .builtIn, false, false, ""⟩).unchanging

/-- The table of an interface. -/
def Interface.table : Table Interface where
  blank := ⟨.builtIn, false⟩
  fields := fields
  written := (toValue ⟨.builtIn, false⟩).members
  distinct := by decide
  thorough :=
    .of (thorough_readName _) <| .of thorough_readBool <| .nil
  apart := List.pairwise_pair.mpr (apart_of fun _ _ _ => rfl)
  unchanging := (fills ⟨.builtIn, false⟩).unchanging

/-- The table of the extension section. -/
def ExtensionSettings.table : Table ExtensionSettings where
  blank := {}
  fields := fields
  written := (toValue {}).members
  distinct := by decide
  thorough :=
    .of thorough_readBool <| .of thorough_readText <| .of (thorough_readList thorough_readText) <|
      .of thorough_readText <| .of thorough_readText <| .of thorough_readUInt32 <| .nil
  apart := by
    simp only [fields, List.pairwise_cons, List.forall_mem_cons, List.not_mem_nil, false_imp_iff,
      implies_true, and_true, List.Pairwise.nil]
    and_intros
    all_goals exact apart_of fun _ _ _ => rfl
  unchanging := (fills {}).unchanging

/-- The table of the hardware section. -/
def HardwareSettings.table : Table HardwareSettings where
  blank := {}
  fields := fields
  written := (toValue {}).members
  distinct := by decide
  thorough :=
    .of (thorough_readName _) <| .of thorough_readText <| .of Resource.table.thorough_read <|
      .of (thorough_readList Entry.table.thorough_read) <| .nil
  apart := by
    simp only [fields, List.pairwise_cons, List.forall_mem_cons, List.not_mem_nil, false_imp_iff,
      implies_true, and_true, List.Pairwise.nil]
    and_intros
    all_goals exact apart_of fun _ _ _ => rfl
  unchanging := (fills {}).unchanging

/-- The table of the socket section. -/
def SocketSettings.table : Table SocketSettings where
  blank := {}
  fields := fields
  written := (toValue {}).members
  distinct := by decide
  thorough :=
    .of thorough_readText .nil
  apart := List.pairwise_singleton _ _
  unchanging := (fills {}).unchanging

/-- The table of settings. -/
def Settings.table : Table Settings where
  blank := {}
  fields := fields
  written := (toValue {}).members
  distinct := by decide
  thorough :=
    .of ExtensionSettings.table.thorough_read <| .of HardwareSettings.table.thorough_read <|
      .of SocketSettings.table.thorough_read <| .nil
  apart := by
    simp only [fields, List.pairwise_cons, List.forall_mem_cons, List.not_mem_nil, false_imp_iff,
      implies_true, and_true, List.Pairwise.nil]
    and_intros
    all_goals exact apart_of fun _ _ _ => rfl
  unchanging := (fills {}).unchanging

/-- Settings and their sections, resource descriptions, display entries and interfaces can be
    written in all these ways. -/
theorem documents_stable :
    Stable Settings.table Settings.ofNode Settings.toValue
      ∧ Stable ExtensionSettings.table ExtensionSettings.ofNode ExtensionSettings.toValue
      ∧ Stable HardwareSettings.table HardwareSettings.ofNode HardwareSettings.toValue
      ∧ Stable SocketSettings.table SocketSettings.ofNode SocketSettings.toValue
      ∧ Stable Resource.table Resource.ofNode Resource.toValue
      ∧ Stable Entry.table Entry.ofNode Entry.toValue
      ∧ Stable Interface.table Interface.ofNode Interface.toValue :=
  ⟨Table.stable _ rfl, Table.stable _ rfl, Table.stable _ rfl, Table.stable _ rfl,
    Table.stable _ rfl, Table.stable _ rfl, Table.stable _ rfl⟩

-- two sections given in part, and as lists: the rest of each is as it is by default
example : Settings.ofText "[[false], [\"static\", \"/sys\"]]" =
    .ok { extension := { enabled := false },
          hardware := { source := .fixed, connectorRoot := "/sys" } } := by
  decide +kernel

end DisplayHub
