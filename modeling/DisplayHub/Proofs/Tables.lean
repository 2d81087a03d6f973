import DisplayHub.Proofs.Document
import DisplayHub.Proofs.Grammar
import Mathlib.Data.List.Nodup
import Mathlib.Data.List.Pairwise
import Mathlib.Data.List.Perm.Basic

/-!
# Tables of fields

What a structure is read as, without the loop that reads it.

The reader changes one structure member by member, so that the order of the members seems to
matter. It does not, because two fields of a table never touch the same part. A table is
therefore kept with what its fields have to satisfy, and `Table.Marks` takes an object apart
into the changes that its members make. The loop accepts the object if the names are all
different and none is missing that the structure cannot do without, and then the changes are
made in turn. Both can be said of the changes in any order, and so `Table.read_object_iff`
is all that has to be known of the loop.

A list is read by another loop, with no names. It finds the changes of the object whose
members have the names that the list leaves out.

A table also has what is written for the blank structure. It is kept as a list of members,
one for each field, so that the default of a field is the value under its name.

The rest is about faults. A value that is passed over is held against the grammar, and one
that is read is held against its reader, which may stop before the end of it. No reader
accepts a value with a fault further inside. For words, numbers and texts this is seen at
once. A structure sees to it that every member is read or passed over.

## Main definitions

* `Thorough`: A reader accepts nothing that has a fault.
* `Table`: The fields of a structure, and what they have to satisfy.
* `Table.Mark`, `Table.Marks`: What one member changes, and all of them.
* `Table.Yields`: What an object makes of the blank structure.

## Theorems

* `Table.read_object_iff`: What an object is read as.
* `Table.read_perm`, `Table.read_stranger`, `Table.read_default`, `Table.read_member`: The
  same for members in another order, a member nobody knows, a default and another value.
* `Table.read_written`: The default that is written for a field is read, and changes nothing.
* `Table.read_listed`: A list of the first fields is read as the object that has these.
* `Table.thorough_read`: Structures are read with every fault.
-/

namespace DisplayHub

namespace Json

section Results

variable {α β : Type} {x : Except Fault α} {b : β}

theorem bind_eq_ok_iff {f : α → Except Fault β} :
    (x >>= f) = .ok b ↔ ∃ a, x = .ok a ∧ f a = .ok b := by
  cases x with
  | error f => exact ⟨nofun, nofun⟩
  | ok a => exact ⟨fun found => ⟨a, rfl, found⟩, fun ⟨_, rfl, found⟩ => found⟩

theorem map_eq_ok_iff {f : α → β} : x.map f = .ok b ↔ ∃ a, x = .ok a ∧ f a = b := by
  cases x with
  | error f => exact ⟨nofun, nofun⟩
  | ok a =>
      exact ⟨fun found => ⟨a, rfl, Except.ok.inj found⟩, fun ⟨_, rfl, found⟩ => congrArg _ found⟩

theorem checkEnd_eq_ok_iff {f : Option Fault} : checkEnd f = .ok () ↔ f = none := by
  cases f with
  | none => exact ⟨fun _ => rfl, fun _ => rfl⟩
  | some f => exact ⟨nofun, nofun⟩

end Results

/-! ### Readers that see every fault -/

/-- A reader accepts nothing that has a fault, in whatever part it is. -/
def Thorough {α : Type} (read : Reader α) : Prop :=
  ∀ n a, n.Sane → read n = .ok a → n.skip = none

section Plain

variable {α β : Type} {q : Quoted} {n : Node} {s : String}

theorem joinPieces_whole {fault : Option Fault} {ps : List Piece} {cs : List Char}
    (joined : joinPieces fault ps = .ok cs) : fault = none := by
  fun_induction joinPieces fault ps generalizing cs with
  | case2 whole => exact whole
  | case3 _ _ ih | case5 _ _ _ _ _ _ ih | case9 _ _ _ _ ih =>
      obtain ⟨more, found, -⟩ := map_eq_ok_iff.mp joined
      exact ih found
  | case1 | case4 | case6 | case7 | case8 => nomatch joined

theorem Quoted.whole_of_read (read : q.read = .ok s) : q.fault = none := by
  obtain ⟨cs, joined, -⟩ := map_eq_ok_iff.mp read
  exact joinPieces_whole joined

theorem Key.whole_of_read {key : Key} (read : readKey key = .ok s) : key.skip = none := by
  cases key with
  | quoted q => exact Quoted.whole_of_read read
  | odd f g => nomatch read

theorem thorough_readBool : Thorough readBool := by
  rintro n b - read
  unfold readBool at read
  split at read
  · rfl
  · nomatch read

theorem thorough_readInt (fits : Int → Option α) : Thorough (readInt fits) := by
  rintro n a sane read
  unfold readInt at read
  split at read
  · next n =>
      rcases sane with whole | ⟨f, g, rfl⟩
      · exact whole
      · nomatch read
  · nomatch read

theorem thorough_readText : Thorough readText := by
  rintro n s - read
  unfold readText at read
  split at read
  · exact Quoted.whole_of_read read
  · nomatch read

theorem thorough_readMeaning (meaning : String → Option α) : Thorough (readMeaning meaning) := by
  intro n a sane read
  obtain ⟨s, text, -⟩ := bind_eq_ok_iff.mp read
  exact thorough_readText n s sane text

theorem thorough_readName (meaning : String → Option α) : Thorough (readName meaning) := by
  rintro n a - read
  unfold readName at read
  split at read
  · cases read
  · obtain ⟨s, text, -⟩ := bind_eq_ok_iff.mp read
    exact Quoted.whole_of_read text
  · cases read
  · cases read
  · next key value rest fault =>
      obtain ⟨s, named, read⟩ := bind_eq_ok_iff.mp read
      obtain ⟨b, -, read⟩ := bind_eq_ok_iff.mp read
      have whole : key.skip = none := by
        cases key with
        | quoted q => exact Quoted.whole_of_read named
        | odd f g => cases named
      split at read
      · split at read
        · simp only [Node.skip, Node.skipMembers, whole, orFault]
        · cases read
        · cases read
      · cases read
  · cases read

theorem readItems_whole {read : Reader α} (thorough : Thorough read) {items : List Node}
    {l : List α} (sane : SaneItems items) (found : readItems read items = .ok l) :
    Node.skipItems items = none := by
  induction items generalizing l with
  | nil => rfl
  | cons n items ih =>
      obtain ⟨a, first, found⟩ := bind_eq_ok_iff.mp found
      obtain ⟨as, later, -⟩ := bind_eq_ok_iff.mp found
      exact orFault_eq_none.mpr ⟨thorough n a sane.1 first, ih sane.2 later⟩

theorem readItems_congr {read : Reader α} {n' : Node} (before after : List Node)
    (same : ∀ a, read n = .ok a ↔ read n' = .ok a) (l : List α) :
    readItems read (before ++ n :: after) = .ok l ↔
      readItems read (before ++ n' :: after) = .ok l := by
  induction before generalizing l with
  | nil => simp only [List.nil_append, readItems, bind_eq_ok_iff, same]
  | cons m before ih => simp only [List.cons_append, readItems, bind_eq_ok_iff, ih]

theorem thorough_readList {read : Reader α} (thorough : Thorough read) :
    Thorough (readList read) := by
  intro n l sane found
  unfold readList at found
  split at found
  · next items fault =>
      obtain ⟨as, items, found⟩ := bind_eq_ok_iff.mp found
      obtain ⟨_, done, -⟩ := bind_eq_ok_iff.mp found
      exact orFault_eq_none.mpr
        ⟨readItems_whole thorough sane items, checkEnd_eq_ok_iff.mp done⟩
  · nomatch found

end Plain

/-! ### Tables -/

/-- Two fields can be set in either order. -/
def RecordField.Apart {α : Type} (f g : RecordField α) : Prop :=
  ∀ n m s t, f.read n = .ok s → g.read m = .ok t → ∀ a, s (t a) = t (s a)

/-- No field accepts a fault. -/
def ThoroughFields {α : Type} (fields : List (RecordField α)) : Prop :=
  ∀ field ∈ fields, Thorough field.read

/-- The fields of a structure, what it is without them, and what is written for it then. The
    names are all different, no field accepts a fault, no two of them change the same part, and
    what is written for the blank structure changes nothing in it when it is read. -/
structure Table (α : Type) where
  blank : α
  fields : List (RecordField α)
  written : List (String × Value)
  distinct : (fields.map (·.name)).Nodup
  thorough : ThoroughFields fields
  apart : fields.Pairwise RecordField.Apart
  unchanging : List.Forall₂ (RecordField.Unchanging blank) fields written

/-- Reads a structure. -/
def Table.read {α : Type} (t : Table α) : Reader α :=
  readRecord t.blank t.fields

namespace Table

variable {α : Type} {t : Table α} {field : RecordField α} {key : Key} {n : Node} {name : String}
  {members members' : List (Key × Node)} {marks marks' : List (String × (α → α))}
  {set : α → α} {a b : α}

theorem find_field (among : field ∈ t.fields) :
    t.fields.find? (fun f => f.name = field.name) = some field := by
  obtain ⟨done, todo, split⟩ := List.append_of_mem among
  have distinct := t.distinct
  rw [split] at distinct ⊢
  exact find?_field distinct

/-! ### Marks -/

/-- What a member changes: a mark with the name and the change, or nothing if nobody knows the
    name and the value is passed over. -/
inductive Mark (t : Table α) : Key × Node → List (String × (α → α)) → Prop where
  | known (key : Key) (n : Node) (field : RecordField α) (set : α → α)
      (named : readKey key = .ok field.name) (among : field ∈ t.fields)
      (value : field.read n = .ok set) : t.Mark (key, n) [(field.name, set)]
  | stranger (key : Key) (n : Node) (name : String) (named : readKey key = .ok name)
      (unknown : ∀ field ∈ t.fields, field.name ≠ name) (whole : n.skip = none) :
      t.Mark (key, n) []

/-- What the members of an object change. -/
inductive Marks (t : Table α) : List (Key × Node) → List (String × (α → α)) → Prop where
  | nil : t.Marks [] []
  | cons {m : Key × Node} {own : List (String × (α → α))} {members : List (Key × Node)}
      {marks : List (String × (α → α))} (first : t.Mark m own) (rest : t.Marks members marks) :
      t.Marks (m :: members) (own ++ marks)

/-- The names in marks. -/
def names (marks : List (String × (α → α))) : List String :=
  marks.map Prod.fst

/-- Makes the changes, in turn. -/
def change (marks : List (String × (α → α))) (a : α) : α :=
  marks.foldl (fun a mark => mark.2 a) a

theorem change_cons (marks : List (String × (α → α))) :
    change ((name, set) :: marks) a = change marks (set a) :=
  rfl

/-- Members that are marked are read, if no name comes twice. -/
theorem readByName_of_marks (all : t.Marks members marks) (seen : List String) (a : α)
    (once : (names marks).Nodup) (fresh : ∀ name ∈ names marks, name ∉ seen) :
    readByName t.fields members seen a = .ok (change marks a, (names marks).reverse ++ seen) := by
  -- what was seen is in the way only of the marks that are still to come
  induction all generalizing seen a with
  | nil => rfl
  | @cons m own members marks first rest ih =>
      cases first with
      | known key n field set named among value =>
          obtain ⟨other, once⟩ := List.nodup_cons.mp once
          have later (name : String) (mem : name ∈ names marks) : name ∉ field.name :: seen := by
            rw [List.mem_cons, not_or]
            exact ⟨fun same => other (same ▸ mem), fresh name (List.mem_cons_of_mem _ mem)⟩
          rw [readByName, named]
          simp only [bind, Except.bind, find_field among, if_neg (fresh _ List.mem_cons_self),
            value, ih _ _ once later]
          simp only [names, change, List.singleton_append, List.map_cons, List.foldl_cons,
            List.reverse_cons, List.append_assoc]
      | stranger key n name named unknown whole =>
          have found : t.fields.find? (fun f => f.name = name) = none :=
            List.find?_eq_none.mpr fun field among => by simpa using unknown field among
          rw [readByName, named]
          simp only [bind, Except.bind, found, pass, whole, checkEnd, ih seen a once fresh]
          rfl

/-- Members that are read are marked, and no name comes twice. -/
theorem marks_of_readByName {seen seen' : List String}
    (read : readByName t.fields members seen a = .ok (b, seen')) :
    ∃ marks, t.Marks members marks ∧ (names marks).Nodup ∧ (∀ name ∈ names marks, name ∉ seen) ∧
      b = change marks a ∧ seen' = (names marks).reverse ++ seen := by
  induction members generalizing seen a with
  | nil =>
      obtain ⟨rfl, rfl⟩ := Prod.mk.inj (Except.ok.inj read)
      exact ⟨[], .nil, List.nodup_nil, nofun, rfl, rfl⟩
  | cons member members ih =>
      obtain ⟨key, n⟩ := member
      obtain ⟨name, named, read⟩ := bind_eq_ok_iff.mp read
      split at read
      · next field found =>
          obtain rfl : field.name = name := of_decide_eq_true (List.find?_some found :)
          split at read
          · nomatch read
          · next new =>
              obtain ⟨set, value, read⟩ := bind_eq_ok_iff.mp read
              obtain ⟨marks, all, once, fresh, rfl, rfl⟩ := ih read
              have among := List.mem_of_find?_eq_some found
              have other : field.name ∉ names marks := fun mem =>
                fresh field.name mem List.mem_cons_self
              have later : ∀ name ∈ names ((field.name, set) :: marks), name ∉ seen := by
                rintro name (_ | ⟨_, mem⟩)
                · exact new
                · exact fun early => fresh name mem (List.mem_cons_of_mem _ early)
              have first := Mark.known key n field set named among value
              refine ⟨(field.name, set) :: marks, .cons first all,
                List.nodup_cons.mpr ⟨other, once⟩, later, rfl, ?_⟩
              simp only [names, List.map_cons, List.reverse_cons, List.append_assoc,
                List.singleton_append]
      · next found =>
          obtain ⟨_, whole, read⟩ := bind_eq_ok_iff.mp read
          obtain ⟨marks, all, rest⟩ := ih read
          have unknown : ∀ field ∈ t.fields, field.name ≠ name := fun field among same =>
            List.find?_eq_none.mp found field among (decide_eq_true same)
          have stranger := Mark.stranger key n name named unknown (checkEnd_eq_ok_iff.mp whole)
          exact ⟨marks, .cons stranger all, rest⟩

/-- What an object yields: it is marked, no name comes twice, no name is missing that the
    structure cannot do without, and the changes are made. -/
structure Yields (t : Table α) (members : List (Key × Node)) (marks : List (String × (α → α)))
    (a : α) : Prop where
  all : t.Marks members marks
  once : (names marks).Nodup
  complete : ∀ field ∈ t.fields, field.required = true → field.name ∈ names marks
  result : a = change marks t.blank

theorem complete_iff {seen : List String} : complete t.fields seen = true ↔
    ∀ field ∈ t.fields, field.required = true → field.name ∈ seen := by
  simp only [complete, List.all_eq_true, Bool.or_eq_true, Bool.not_eq_true', List.contains_iff_mem]
  refine forall₂_congr fun field _ => ?_
  cases field.required <;> simp

/-- What an object is read as. -/
theorem read_object_iff :
    t.read (.object members none) = .ok a ↔ ∃ marks, t.Yields members marks a := by
  constructor
  · intro read
    obtain ⟨⟨b, seen⟩, found, read⟩ := bind_eq_ok_iff.mp read
    obtain ⟨marks, all, once, -, rfl, rfl⟩ := marks_of_readByName found
    obtain ⟨_, -, read⟩ := bind_eq_ok_iff.mp read
    split at read
    · next whole =>
        obtain rfl := Except.ok.inj read
        refine ⟨marks, all, once, ?_, rfl⟩
        simpa using complete_iff.mp whole
    · nomatch read
  · rintro ⟨marks, all, once, whole, rfl⟩
    have found := readByName_of_marks all [] t.blank once nofun
    have complete : complete t.fields ((names marks).reverse ++ []) = true := by
      rw [complete_iff]
      simpa using whole
    rw [Table.read, readRecord, found]
    simp only [bind, Except.bind, checkEnd, complete, if_true]
    rfl

/-! ### The order of members -/

theorem Marks.perm (all : t.Marks members marks) (order : members.Perm members') :
    ∃ marks', t.Marks members' marks' ∧ marks.Perm marks' := by
  induction order generalizing marks with
  | nil => exact ⟨marks, all, .refl marks⟩
  | cons m order ih =>
      cases all with
      | cons first rest =>
          obtain ⟨marks', rest, same⟩ := ih rest
          exact ⟨_, .cons first rest, same.append_left _⟩
  | swap m m' members =>
      cases all with
      | cons first rest =>
          cases rest with
          | cons second rest =>
              exact ⟨_, .cons second (.cons first rest), List.perm_append_comm_assoc ..⟩
  | trans _ _ first second =>
      obtain ⟨marks', all, same⟩ := first all
      obtain ⟨marks'', all, same'⟩ := second all
      exact ⟨marks'', all, same.trans same'⟩

/-- Each mark is a change of a field that has its name. -/
theorem Marks.of_field (all : t.Marks members marks) {mark : String × (α → α)}
    (mem : mark ∈ marks) :
    ∃ field ∈ t.fields, field.name = mark.1 ∧ ∃ n, field.read n = .ok mark.2 := by
  induction all with
  | nil => nomatch mem
  | cons first rest ih =>
      rcases List.mem_append.mp mem with mem | mem
      · cases first with
        | known key n field set named among value =>
            obtain rfl := List.mem_singleton.mp mem
            exact ⟨field, among, rfl, n, value⟩
        | stranger => nomatch mem
      · exact ih mem

/-- Changes of different names can be made in either order. -/
theorem change_perm (all : t.Marks members marks) (once : (names marks).Nodup)
    (order : marks.Perm marks') (a : α) : change marks a = change marks' a := by
  refine order.foldl_eq' (fun x mem y mem' z => ?_) a
  -- two marks of one name are the same mark
  by_cases same : x.1 = y.1
  · rw [List.inj_on_of_nodup_map once mem mem' same]
  · obtain ⟨f, among, named, n, value⟩ := all.of_field mem
    obtain ⟨g, among', named', m, value'⟩ := all.of_field mem'
    have : Std.Symm (RecordField.Apart (α := α)) :=
      ⟨fun f g apart n m s t read read' a => (apart m n t s read' read a).symm⟩
    have other : f ≠ g := by
      rintro rfl
      exact same (named.symm.trans named')
    exact (t.apart.forall among among' other n m _ _ value value' z).symm

/-- The order of members does not matter. -/
theorem Yields.perm (yields : t.Yields members marks a) (order : members.Perm members') :
    ∃ marks', t.Yields members' marks' a := by
  obtain ⟨all, once, complete, rfl⟩ := yields
  obtain ⟨marks', all', same⟩ := all.perm order
  have names : (names marks).Perm (names marks') := same.map Prod.fst
  refine ⟨marks', all', names.nodup_iff.mp once, fun field among required => ?_,
    change_perm all once same t.blank⟩
  exact names.mem_iff.mp (complete field among required)

/-- Objects whose members are marked alike are read alike. -/
theorem read_congr (same : ∀ marks, t.Marks members marks ↔ t.Marks members' marks) :
    t.read (.object members none) = .ok a ↔ t.read (.object members' none) = .ok a := by
  rw [read_object_iff, read_object_iff]
  refine exists_congr fun marks => ⟨?_, ?_⟩
  · rintro ⟨all, once, complete, result⟩
    exact ⟨(same marks).mp all, once, complete, result⟩
  · rintro ⟨all, once, complete, result⟩
    exact ⟨(same marks).mpr all, once, complete, result⟩

theorem read_perm (order : members.Perm members') :
    t.read (.object members none) = .ok a ↔ t.read (.object members' none) = .ok a := by
  rw [read_object_iff, read_object_iff]
  exact ⟨fun ⟨_, yields⟩ => yields.perm order, fun ⟨_, yields⟩ => yields.perm order.symm⟩

/-! ### One member more -/

theorem marks_known (named : readKey key = .ok field.name) (among : field ∈ t.fields) :
    t.Marks ((key, n) :: members) marks ↔ ∃ set rest, field.read n = .ok set ∧
      t.Marks members rest ∧ marks = (field.name, set) :: rest := by
  constructor
  · intro all
    cases all with
    | cons first rest =>
        cases first with
        | known _ _ field' set named' among' value =>
            have same := Except.ok.inj (named.symm.trans named')
            obtain rfl := List.inj_on_of_nodup_map t.distinct among among' same
            exact ⟨set, _, value, rest, rfl⟩
        | stranger _ _ name named' unknown =>
            exact absurd (Except.ok.inj (named.symm.trans named')) (unknown field among)
  · rintro ⟨set, rest, value, all, rfl⟩
    exact .cons (.known key n field set named among value) all

theorem marks_stranger (named : readKey key = .ok name)
    (unknown : ∀ field ∈ t.fields, field.name ≠ name) (whole : n.skip = none) :
    t.Marks ((key, n) :: members) marks ↔ t.Marks members marks := by
  constructor
  · intro all
    cases all with
    | cons first rest =>
        cases first with
        | known _ _ field _ named' among =>
            exact absurd (Except.ok.inj (named'.symm.trans named)) (unknown field among)
        | stranger => exact rest
  · exact .cons (.stranger key n name named unknown whole)

/-- A member that nobody knows makes no difference. -/
theorem read_stranger (named : readKey key = .ok name)
    (unknown : ∀ field ∈ t.fields, field.name ≠ name) (whole : n.skip = none) :
    t.read (.object ((key, n) :: members) none) = .ok a ↔
      t.read (.object members none) = .ok a :=
  read_congr fun _ => marks_stranger named unknown whole

/-- A value can be written in any way that its field reads alike. -/
theorem read_member {n' : Node} (named : readKey key = .ok field.name) (among : field ∈ t.fields)
    (same : ∀ set, field.read n = .ok set ↔ field.read n' = .ok set) :
    t.read (.object ((key, n) :: members) none) = .ok a ↔
      t.read (.object ((key, n') :: members) none) = .ok a := by
  refine read_congr fun marks => ?_
  rw [marks_known named among, marks_known named among]
  simp only [same]

/-- A mark has its name from a member. -/
theorem Marks.of_member (all : t.Marks members marks) (mem : name ∈ names marks) :
    ∃ m ∈ members, readKey m.1 = .ok name := by
  induction all with
  | nil => nomatch mem
  | @cons m own members marks first rest ih =>
      rw [names, List.map_append] at mem
      rcases List.mem_append.mp mem with mem | mem
      · cases first with
        | known key n field set named =>
            obtain rfl := List.mem_singleton.mp mem
            exact ⟨_, List.mem_cons_self, named⟩
        | stranger => nomatch mem
      · obtain ⟨m, among, named⟩ := ih mem
        exact ⟨m, List.mem_cons_of_mem _ among, named⟩

/-- Every field has its own default, which is written under its name and changes nothing. -/
theorem exists_written (among : field ∈ t.fields) : ∃ v set, (field.name, v) ∈ t.written ∧
    field.read v.node = .ok set ∧ set t.blank = t.blank := by
  have each := t.unchanging
  generalize t.fields = fields, t.written = written at each among ⊢
  induction each with
  | nil => nomatch among
  | @cons first member fields written here rest ih =>
      rcases List.mem_cons.mp among with rfl | among
      · obtain ⟨name, set, read, same⟩ := here
        exact ⟨member.2, set, name ▸ List.mem_cons_self, read, same⟩
      · obtain ⟨v, set, own, found⟩ := ih among
        exact ⟨v, set, List.mem_cons_of_mem _ own, found⟩

/-- What is written for the blank structure is written once under each name. -/
theorem written_unique {v v' : Value} (own : (name, v) ∈ t.written)
    (own' : (name, v') ∈ t.written) : v = v' := by
  have same : t.written.map Prod.fst = t.fields.map (·.name) := by
    have each := t.unchanging
    generalize t.fields = fields, t.written = written at each ⊢
    induction each with
    | nil => rfl
    | cons here rest ih => rw [List.map_cons, List.map_cons, here.1, ih]
  have once : (t.written.map Prod.fst).Nodup := same ▸ t.distinct
  exact congrArg Prod.snd (List.inj_on_of_nodup_map once own own' rfl)

/-- Reading the default that is written for a field changes nothing in the blank structure. -/
theorem read_written {v : Value} (among : field ∈ t.fields) (own : (field.name, v) ∈ t.written) :
    ∃ set, field.read v.node = .ok set ∧ set t.blank = t.blank := by
  obtain ⟨v', set, own', read, same⟩ := exists_written among
  obtain rfl := written_unique own own'
  exact ⟨set, read, same⟩

/-- To write a default is to leave the member out. -/
theorem read_default (named : readKey key = .ok field.name) (among : field ∈ t.fields)
    (optional : field.required = false) (absent : ∀ m ∈ members, readKey m.1 ≠ .ok field.name)
    (value : field.read n = .ok set) (same : set t.blank = t.blank) :
    t.read (.object ((key, n) :: members) none) = .ok a ↔
      t.read (.object members none) = .ok a := by
  rw [read_object_iff, read_object_iff]
  constructor
  · rintro ⟨_, all, once, complete, rfl⟩
    obtain ⟨set', marks, value', rest, rfl⟩ := (marks_known named among).mp all
    obtain rfl := Except.ok.inj (value.symm.trans value')
    refine ⟨marks, rest, (List.nodup_cons.mp once).2, fun other among' required => ?_, ?_⟩
    · -- a field that is required is another one
      rcases List.mem_cons.mp (complete other among' required) with clash | mem
      · obtain rfl := List.inj_on_of_nodup_map t.distinct among' among clash
        nomatch required.symm.trans optional
      · exact mem
    · rw [change_cons, same]
  · rintro ⟨marks, all, once, complete, rfl⟩
    -- the member can be put back, since no other one has its name
    have fresh : field.name ∉ names marks := fun mem => by
      obtain ⟨m, among, named⟩ := all.of_member mem
      exact absent m among named
    refine ⟨(field.name, set) :: marks, (marks_known named among).mpr ⟨set, marks, value, all, rfl⟩,
      List.nodup_cons.mpr ⟨fresh, once⟩, fun other among' required => ?_, ?_⟩
    · exact List.mem_cons_of_mem _ (complete other among' required)
    · rw [change_cons, same]

/-! ### Fields in order -/

/-- A member has the name of a field. -/
def Keyed (m : Key × Node) (field : RecordField α) : Prop :=
  readKey m.1 = .ok field.name

section Listed

variable {first left : List (RecordField α)}

theorem readInOrder_nil : readInOrder none left [] a = .ok b ↔
    b = a ∧ ∀ field ∈ left, field.required = false := by
  induction left with
  | nil => exact ⟨fun read => ⟨(Except.ok.inj read).symm, nofun⟩, fun ⟨same, _⟩ => same ▸ rfl⟩
  | cons field left ih =>
      rw [List.forall_mem_cons, readInOrder]
      cases required : field.required with
      | false =>
          refine Iff.trans ih (and_congr_right fun _ => ?_)
          simp only [true_and]
      | true => exact ⟨nofun, fun ⟨_, optional, _⟩ => nomatch optional⟩

theorem names_of_keyed (keyed : List.Forall₂ Keyed members first)
    (known : ∀ field ∈ first, field ∈ t.fields) (all : t.Marks members marks) :
    names marks = first.map (·.name) := by
  induction keyed generalizing marks with
  | nil =>
      cases all
      rfl
  | @cons m field members first named keyed ih =>
      obtain ⟨among, known⟩ := List.forall_mem_cons.mp known
      obtain ⟨set, marks, -, rest, rfl⟩ := (marks_known named among).mp all
      exact congrArg _ (ih known rest)

theorem readInOrder_iff (keyed : List.Forall₂ Keyed members first)
    (known : ∀ field ∈ first, field ∈ t.fields) :
    readInOrder none (first ++ left) (members.map Prod.snd) a = .ok b ↔
      (∃ marks, t.Marks members marks ∧ b = change marks a) ∧
        ∀ field ∈ left, field.required = false := by
  induction keyed generalizing a with
  | nil =>
      refine readInOrder_nil.trans (and_congr_left fun _ => ⟨?_, ?_⟩)
      · rintro rfl
        exact ⟨[], .nil, rfl⟩
      · rintro ⟨_, ⟨⟩, rfl⟩
        rfl
  | @cons m field members first named keyed ih =>
      obtain ⟨among, known⟩ := List.forall_mem_cons.mp known
      refine bind_eq_ok_iff.trans ⟨?_, ?_⟩
      · rintro ⟨set, value, read⟩
        obtain ⟨⟨marks, all, rfl⟩, optional⟩ := (ih known).mp read
        exact ⟨⟨_, (marks_known named among).mpr ⟨set, marks, value, all, rfl⟩, rfl⟩, optional⟩
      · rintro ⟨⟨_, all, rfl⟩, optional⟩
        obtain ⟨set, marks, value, rest, rfl⟩ := (marks_known named among).mp all
        exact ⟨set, value, (ih known).mpr ⟨⟨marks, rest, rfl⟩, optional⟩⟩

/-- A list of the first fields is read as the object that has these. -/
theorem read_listed (split : t.fields = first ++ left) (keyed : List.Forall₂ Keyed members first) :
    t.read (.list (members.map Prod.snd) none) = .ok a ↔
      t.read (.object members none) = .ok a := by
  have distinct := t.distinct
  rw [split, List.map_append] at distinct
  obtain ⟨once, -, other⟩ := List.nodup_append.mp distinct
  have known : ∀ field ∈ first, field ∈ t.fields := fun field mem =>
    split ▸ List.mem_append_left left mem
  rw [read_object_iff, Table.read, readRecord, split, readInOrder_iff keyed known]
  constructor
  · rintro ⟨⟨marks, all, rfl⟩, optional⟩
    have names := names_of_keyed keyed known all
    refine ⟨marks, all, names ▸ once, fun field among required => ?_, rfl⟩
    rw [split] at among
    rcases List.mem_append.mp among with among | among
    · rw [names]
      exact List.mem_map_of_mem among
    · exact absurd ((optional field among).symm.trans required) Bool.false_ne_true
  · rintro ⟨marks, all, -, complete, rfl⟩
    refine ⟨⟨marks, all, rfl⟩, fun field among => Bool.eq_false_iff.mpr fun required => ?_⟩
    -- a field that is left has no name among the first
    have mem := complete field (split ▸ List.mem_append_right first among) required
    rw [names_of_keyed keyed known all] at mem
    exact other _ mem _ (List.mem_map_of_mem among) rfl

theorem readInOrder_congr {n' : Node} {before after : List Node}
    (place : before.length = first.length)
    (same : ∀ set, field.read n = .ok set ↔ field.read n' = .ok set) :
    readInOrder none (first ++ field :: left) (before ++ n :: after) a = .ok b ↔
      readInOrder none (first ++ field :: left) (before ++ n' :: after) a = .ok b := by
  induction first generalizing before a with
  | nil =>
      obtain rfl := List.length_eq_zero_iff.mp place
      simp only [List.nil_append, readInOrder, bind_eq_ok_iff, same]
  | cons f first ih =>
      obtain ⟨m, before, rfl⟩ := List.exists_cons_of_length_eq_add_one place
      simp only [List.cons_append, readInOrder, bind_eq_ok_iff, ih (Nat.succ.inj place)]

/-- In a list, a value can be written in any way that the field in its place reads alike. -/
theorem read_place {n' : Node} {before after : List Node}
    (split : t.fields = first ++ field :: left) (place : before.length = first.length)
    (same : ∀ set, field.read n = .ok set ↔ field.read n' = .ok set) :
    t.read (.list (before ++ n :: after) none) = .ok a ↔
      t.read (.list (before ++ n' :: after) none) = .ok a := by
  rw [Table.read, readRecord, readRecord, split]
  exact readInOrder_congr place same

end Listed

/-! ### A structure is read with every fault -/

theorem Marks.whole (all : t.Marks members marks) (sane : SaneMembers members) :
    Node.skipMembers members = none := by
  induction all with
  | nil => rfl
  | cons first rest ih =>
      refine orFault_eq_none.mpr ⟨?_, ih sane.2⟩
      cases first with
      | known key n field set named among value =>
          have inside := t.thorough field among n set sane.1 value
          exact orFault_eq_none.mpr ⟨Key.whole_of_read named, inside⟩
      | stranger key n name named unknown whole =>
          exact orFault_eq_none.mpr ⟨Key.whole_of_read named, whole⟩

theorem readInOrder_whole {fault : Option Fault} {fields : List (RecordField α)}
    {items : List Node} (thorough : ThoroughFields fields) (sane : SaneItems items)
    (read : readInOrder fault fields items a = .ok b) :
    Node.skipItems items = none ∧ fault = none := by
  fun_induction readInOrder fault fields items a with
  | case1 | case3 =>
      obtain ⟨_, done, -⟩ := bind_eq_ok_iff.mp read
      exact ⟨rfl, checkEnd_eq_ok_iff.mp done⟩
  | case2 => nomatch read
  | case4 field fields n rest a ih =>
      obtain ⟨first, others⟩ := List.forall_mem_cons.mp thorough
      obtain ⟨set, value, read⟩ := bind_eq_ok_iff.mp read
      obtain ⟨items, done⟩ := ih set others sane.2 read
      exact ⟨orFault_eq_none.mpr ⟨first n set sane.1 value, items⟩, done⟩

theorem thorough_read (t : Table α) : Thorough t.read := by
  intro n a sane read
  cases n with
  | list items fault =>
      exact orFault_eq_none.mpr (readInOrder_whole t.thorough sane read)
  | object members fault =>
      obtain ⟨⟨b, seen⟩, found, read⟩ := bind_eq_ok_iff.mp read
      obtain ⟨marks, all, -⟩ := marks_of_readByName found
      obtain ⟨_, done, -⟩ := bind_eq_ok_iff.mp read
      exact orFault_eq_none.mpr ⟨all.whole sane, checkEnd_eq_ok_iff.mp done⟩
  | cut | word | number | text => nomatch read

end Table

end Json

end DisplayHub
