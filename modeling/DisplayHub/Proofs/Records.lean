import DisplayHub.Proofs.Frame

/-!
# Records

What operations leave behind, and the numbers they hand out.

`Frame` says what operations leave alone, and records are what it leaves out:
there, nothing that is written in the journal matters. Here it is the other way
round. The `trace` of a hub is what was left behind without the notes, in the
order of time. An operation is `Logged` with the records it adds to the trace
and the interfaces and providers it hands out, and it is `OnlyLogged` if it
changed nothing else. Both are put together one after the other, so what a long operation leaves
behind is read off the parts it is made of.

An interface that is let go leaves behind that it was destroyed, unless somebody
else holds it (`letGoRecords`).

## Main definitions

* `Hub.trace`: What was left behind, without the notes.
* `Hub.Logged`, `Hub.OnlyLogged`: What was recorded, and nothing else.
* `Extension.destroyRecords`: What an interface leaves behind.
* `Extension.letGoRecords`: What it leaves behind when one holder lets it go.

## Theorems

* `Hub.Logged.trans`, `Hub.OnlyLogged.trans`: Records are put one after the other.
* `Hub.onlyLogged_note`, `Hub.onlyLogged_recordCall`, …: One record.
* `Hub.onlyLogged_letGo?`: An interface that is let go.
* `Hub.count_calls`: What is left behind shows how often a call was made.
-/

namespace DisplayHub

namespace Hub

/-- What was left behind, without the notes. -/
def trace (h : Hub) : List Record :=
  h.journal.records.toList.filter fun r => r.note?.isNone

/-- What was recorded: so many interfaces and providers were handed
    out, and this was left behind. -/
structure Logged (loaded created : Nat) (records : List Record) (h h' : Hub) : Prop where
  extensions : h'.extensions = h.extensions + loaded
  providers : h'.providers = h.providers + created
  trace : h'.trace = h.trace ++ records

/-- The same, and nothing else changed. -/
structure OnlyLogged (loaded created : Nat) (records : List Record) (h h' : Hub) : Prop extends
    Logged loaded created records h h' where
  ground : h'.ground = h.ground
  storage : h'.storage = h.storage

/-! ### Writing records -/

section Logs

variable {h u v : Hub} {a b c d : Nat} {l m : List Record}

theorem Logged.trans (first : Logged a b l h u) (rest : Logged c d m u v) :
    Logged (a + c) (b + d) (l ++ m) h v where
  extensions := by rw [rest.extensions, first.extensions, Nat.add_assoc]
  providers := by rw [rest.providers, first.providers, Nat.add_assoc]
  trace := by rw [rest.trace, first.trace, List.append_assoc]

theorem OnlyLogged.trans (first : OnlyLogged a b l h u) (rest : OnlyLogged c d m u v) :
    OnlyLogged (a + c) (b + d) (l ++ m) h v where
  toLogged := first.toLogged.trans rest.toLogged
  ground := rest.ground.trans first.ground
  storage := rest.storage.trans first.storage

/-- Only the records count. -/
theorem Logged.same (logged : Logged a b l h u) (extensions : v.extensions = u.extensions)
    (providers : v.providers = u.providers) (journal : v.journal = u.journal) :
    Logged a b l h v where
  extensions := extensions.trans logged.extensions
  providers := providers.trans logged.providers
  trace := by
    rw [← logged.trace]
    unfold Hub.trace
    rw [journal]

theorem trace_add (r : Record) (h : Hub) (j : Hub) (added : j.journal = h.journal.add r) :
    j.trace = h.trace ++ if r.note?.isNone then [r] else [] := by
  unfold trace
  rw [added]
  simp only [Journal.add, Array.toList_push, List.filter_append, List.filter_cons,
    List.filter_nil]

theorem onlyLogged_note (level : Level) (text : String) (h : Hub) :
    OnlyLogged 0 0 [] h (h.note level text) where
  extensions := rfl
  providers := rfl
  trace := trace_add (.note ⟨level, text⟩) h _ rfl
  ground := rfl
  storage := rfl

theorem Logged.note (logged : Logged a b l h u) (level : Level) (text : String) :
    Logged a b l h (u.note level text) := by
  have noted := logged.trans (onlyLogged_note level text u).toLogged
  rwa [List.append_nil] at noted

theorem onlyLogged_noteAll (notes : List Note) (h : Hub) :
    OnlyLogged 0 0 [] h (h.noteAll notes) where
  extensions := rfl
  providers := rfl
  trace := by
    have silent : (notes.map Record.note).filter (fun r => r.note?.isNone) = [] := by
      simp [List.filter_map, Function.comp_def, Record.note?]
    simp [trace, noteAll, Journal.addAll, silent]
  ground := rfl
  storage := rfl

theorem onlyLogged_recordCall (call : Call) (h : Hub) :
    OnlyLogged 0 0 [.call call] h (h.recordCall call) where
  extensions := rfl
  providers := rfl
  trace := trace_add (.call call) h _ rfl
  ground := rfl
  storage := rfl

theorem onlyLogged_recordEvents (events : List LibraryEvent) (h : Hub) :
    OnlyLogged 0 0 (events.map .library) h (h.recordEvents events) where
  extensions := rfl
  providers := rfl
  trace := by
    have all : (events.map Record.library).filter (fun r => r.note?.isNone) =
        events.map Record.library := by
      refine List.filter_eq_self.mpr fun r recorded => ?_
      obtain ⟨event, -, rfl⟩ := List.mem_map.mp recorded
      rfl
    simp [trace, recordEvents, Journal.addAll, all]
  ground := rfl
  storage := rfl

end Logs

end Hub

/-- What is left behind when an interface is destroyed. -/
def Extension.destroyRecords (e : Extension) : List Record :=
  match e.opened with
  | none => [.call .destroyExtension]
  | some i => [.library i.destruction.seen, .library .unload]

/-- What is left behind when one holder lets an interface go, and two others may
    hold it. -/
def Extension.letGoRecords (one other : Option Extension) : Option Extension → List Record
  | none => []
  | some e => if one == some e || other == some e then [] else e.destroyRecords

namespace Hub

variable {h u : Hub} {a b : Nat} {l : List Record}

/-- An interface that nobody holds is destroyed when it is let go. -/
theorem onlyLogged_letGo {e : Extension} (free : h.holds e = false) :
    OnlyLogged 0 0 e.destroyRecords h (h.letGo e) := by
  rw [letGo_of_free free]
  unfold destroyExtension Extension.destroyRecords
  cases e.opened with
  | none => exact onlyLogged_recordCall _ h
  | some i =>
      -- how it went is noted either way
      have destroyed := onlyLogged_recordEvents [i.destruction.seen, .unload] h
      dsimp only
      split
      · exact destroyed.trans (onlyLogged_note _ _ _)
      · exact destroyed.trans (onlyLogged_note _ _ _)

theorem onlyLogged_handOut (h : Hub) :
    h.OnlyLogged 1 0 [] { h with extensions := h.extensions + 1 } :=
  ⟨⟨rfl, rfl, (List.append_nil _).symm⟩, rfl, rfl⟩

theorem onlyLogged_abandonProvider (provider : Nat) (h : Hub) :
    OnlyLogged 0 0 [.call .destroyProvider] h (h.abandonProvider provider) :=
  (onlyLogged_note _ _ h).trans ((onlyLogged_recordCall _ _).trans (onlyLogged_noteAll _ _))

/-- What somebody holds stays when it is let go elsewhere. -/
theorem letGo?_of_holds {extension : Option Extension}
    (held : ∀ e, extension = some e → h.holds e = true) : h.letGo? extension = h := by
  cases extension with
  | none => rfl
  | some e => exact letGo_of_holds (held e rfl)

theorem onlyLogged_letGo? (extension : Option Extension) (h : Hub) : h.OnlyLogged 0 0
    (Extension.letGoRecords h.core.extension h.compositor.extension? extension)
      (h.letGo? extension) := by
  have nothing : h.OnlyLogged 0 0 [] h := ⟨⟨rfl, rfl, (List.append_nil _).symm⟩, rfl, rfl⟩
  cases extension with
  | none => exact nothing
  | some e =>
      -- the two who may hold it are the core and the compositor
      change h.OnlyLogged 0 0 (if h.holds e = true then [] else e.destroyRecords)
        (h.letGo? (some e))
      by_cases held : h.holds e = true
      · rw [if_pos held, letGo?_of_holds fun e' same => by cases same; exact held]
        exact nothing
      · rw [if_neg held]
        exact onlyLogged_letGo (Bool.eq_false_iff.mpr held)

/-- What is left behind shows how often a call was made. -/
theorem count_calls (call : Call) (h : Hub) :
    h.journal.calls.count call = h.trace.count (.call call) := by
  unfold trace Journal.calls
  -- notes are not left behind, and the other records are no calls
  induction h.journal.records.toList with
  | nil => rfl
  | cons r rest ih =>
      cases r with
      | call c =>
          have shown : (Record.call c).call? = some c := rfl
          rw [List.filterMap_cons_some shown, List.filter_cons_of_pos rfl, List.count_cons,
            List.count_cons, ih]
          simp
      | note n => rwa [List.filterMap_cons_none rfl, List.filter_cons_of_neg Bool.false_ne_true]
      | delivery d =>
          rw [List.filterMap_cons_none rfl, List.filter_cons_of_pos rfl, List.count_cons, ih]
          simp
      | library e =>
          rw [List.filterMap_cons_none rfl, List.filter_cons_of_pos rfl, List.count_cons, ih]
          simp

end Hub

end DisplayHub
