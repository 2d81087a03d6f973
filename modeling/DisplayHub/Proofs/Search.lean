import DisplayHub.Extension.Trial
import DisplayHub.Proofs.LibraryUse

/-!
# Looking for the library

Which library is loaded, and what it sees.

The paths are gone through in their order until one opens. What comes before it left a
note and nothing else. What comes behind it is not even looked at, so it is nowhere in
what a search gives (`ExtensionSettings.findLibrary_of_first`): not if the library turns
out to lack an entry point, and not if it fails when it is asked for an interface.

From there on one of five things happens to a library, and in four of them there is no
interface to be had. All four unload it at once, and only two of them came as far as to
call it. An interface that was handed out is told apart by what happens when it is let go,
since nobody else holds it: it is destroyed, and its library is unloaded behind it, whether
the library says that this went well or not.

None of this leaves anything that the next time could find. So it may be done as often as
is wanted, with the same answer each time and the same events (`trials_loadOutcome`).

## Main definitions

* `ExtensionSettings.SearchOrder`: The paths that are gone through, in order.
* `ExtensionSettings.OpenedOutcome`: What becomes of a library that opened.
* `ExtensionSettings.LoadOutcome`: What loading and letting go gives.
* `Episode.OfVersion`: What a library can see of its life.
* `Hub.LoadsFromLibrary`: A hub that holds no interface and looks for a library.

## Theorems

* `ExtensionSettings.exists_first`: Some path is the first to open, or none opens.
* `ExtensionSettings.loadOutcome_attempt`: What an attempt gives.
* `Hub.trial_loadsFromLibrary`: Loading and letting go is an attempt and what comes of it.
* `trials_loadOutcome`: Doing so, as often as is wanted.
-/

namespace DisplayHub

/-- What is seen of an attempt if its interface is let go at once. -/
def Attempt.trial (a : Attempt) : Trial where
  outcome := match a.result with
    | .error f => .trouble (.stop (.failure f))
    | .ok none => .value .nothing
    | .ok (some i) => .value (.extension i.versionTag false)
  whileLoading := a.events
  afterwards := match a.result with
    | .ok (some i) => [i.destruction.seen, .unload]
    | _ => []

/-- A library was asked for an interface of a version, if it was asked for one. -/
def Episode.OfVersion (tag : UInt32) : Episode → Prop
  | lacking => True
  | refused asked => asked = tag
  | provided asked _ => asked = tag

namespace ExtensionSettings

variable {s : ExtensionSettings} {storage : Storage} {override : Option String}
  {before after paths : List String} {path : String} {library : Library}

/-! ### Where it is looked for -/

/-- The paths that are gone through: the one that the environment gives, if it is not empty,
    those where the library is found, and the library by itself. -/
structure SearchOrder (s : ExtensionSettings) (storage : Storage) (override : Option String)
    (given found paths : List String) : Prop where
  parts : paths = given ++ found ++ [s.library]
  given : given = override.toList.filter (· ≠ "")
  /-- A library with a slash is a path already, -/
  path : '/' ∈ s.library.toList → found = []
  /-- and any other one is looked for in the directories, one after the other. -/
  name : '/' ∉ s.library.toList →
    found = (s.searchDirs.map (Path.join · s.library)).filter storage.exists?

theorem searchOrder_candidates (s : ExtensionSettings) (storage : Storage)
    (override : Option String) :
    ∃ given found, s.SearchOrder storage override given found (s.candidates storage override) := by
  have given : (override.filter fun path => !path.isEmpty).toList =
      override.toList.filter (· ≠ "") := by
    cases override with
    | none => rfl
    | some path =>
        by_cases empty : path = ""
        · subst empty
          rfl
        · simp [Option.filter, empty]
  unfold candidates
  rw [given]
  by_cases slash : '/' ∈ s.library.toList
  · have named : ¬ Path.isPlain s.library = true := by simp [Path.isPlain, slash]
    rw [if_neg named]
    exact ⟨_, [], by rw [List.append_nil], rfl, fun _ => rfl, fun plain => absurd slash plain⟩
  · have plain : Path.isPlain s.library = true := by simp [Path.isPlain, slash]
    rw [if_pos plain]
    exact ⟨_, _, rfl, rfl, fun named => absurd named slash, fun _ => rfl⟩

/-! ### The first path that opens -/

/-- What is noted about a path that does not open. -/
def unopened (path : String) : Note :=
  ⟨.debug, "DylibExtensionLoader: dlopen " ++ path ++ " failed"⟩

theorem findLibrary_of_none (shut : ∀ p ∈ paths, openLibrary storage p = none) :
    findLibrary storage paths = (none, paths.map unopened) := by
  induction paths with
  | nil => rfl
  | cons p rest ih =>
      obtain ⟨here, later⟩ := List.forall_mem_cons.mp shut
      unfold findLibrary
      rw [here, ih later]
      rfl

/-- What comes behind a path that opens is not looked at. -/
theorem findLibrary_of_first (shut : ∀ p ∈ before, openLibrary storage p = none)
    (opens : openLibrary storage path = some library) (after : List String) :
    findLibrary storage (before ++ path :: after) =
      (some (path, library), before.map unopened) := by
  induction before with
  | nil =>
      rw [List.nil_append]
      unfold findLibrary
      rw [opens]
      rfl
  | cons p rest ih =>
      obtain ⟨here, later⟩ := List.forall_mem_cons.mp shut
      rw [List.cons_append]
      unfold findLibrary
      rw [here, ih later]
      rfl

theorem exists_first (storage : Storage) (paths : List String) :
    (∀ p ∈ paths, openLibrary storage p = none) ∨
      ∃ before path after library, paths = before ++ path :: after ∧
        (∀ p ∈ before, openLibrary storage p = none) ∧
        openLibrary storage path = some library := by
  induction paths with
  | nil => exact Or.inl (fun _ none => absurd none List.not_mem_nil)
  | cons p rest ih =>
      cases here : openLibrary storage p with
      | some library => exact Or.inr ⟨[], p, rest, library, rfl, nofun, here⟩
      | none =>
          rcases ih with shut | ⟨before, path, after, library, rfl, shut, opens⟩
          · exact Or.inl (List.forall_mem_cons.mpr ⟨here, shut⟩)
          · exact Or.inr ⟨p :: before, path, after, library, rfl,
              List.forall_mem_cons.mpr ⟨here, shut⟩, opens⟩

/-! ### What becomes of a library -/

/-- What becomes of a library that opened. -/
inductive OpenedOutcome (s : ExtensionSettings) (path : String) (library : Library) :
    Trial → Prop where
  /-- It has nothing to create an interface with, whatever else it lacks. -/
  | uncreatable (lacks : library.find? s.createSymbol = none) :
      s.OpenedOutcome path library ⟨.trouble (.stop (.failure (.undefined
        ("symbol " ++ s.createSymbol ++ ": " ++ missingSymbol path s.createSymbol)))),
        [.load, .unload], []⟩
  /-- It has nothing to destroy one with. -/
  | undestroyable (creator : EntryPoint) (has : library.find? s.createSymbol = some creator)
      (lacks : library.find? s.destroySymbol = none) :
      s.OpenedOutcome path library ⟨.trouble (.stop (.failure (.undefined
        ("symbol " ++ s.destroySymbol ++ ": " ++ missingSymbol path s.destroySymbol)))),
        [.load, .unload], []⟩
  /-- It answers with a status that is not zero, even if it gives an interface. -/
  | refused (creator destroyer : EntryPoint) (event : LibraryEvent) (status : Int32) (given : Bool)
      (creates : library.find? s.createSymbol = some creator)
      (destroys : library.find? s.destroySymbol = some destroyer)
      (answers : creator.create s.versionTag = ⟨event, status, given⟩) (bad : status ≠ 0) :
      s.OpenedOutcome path library ⟨.trouble (.stop (.failure (.ofStatus status))),
        [.load, event, .unload], []⟩
  /-- It says that all is well and gives none. -/
  | empty (creator destroyer : EntryPoint) (event : LibraryEvent)
      (creates : library.find? s.createSymbol = some creator)
      (destroys : library.find? s.destroySymbol = some destroyer)
      (answers : creator.create s.versionTag = ⟨event, 0, false⟩) :
      s.OpenedOutcome path library ⟨.trouble (.stop (.failure (.undefined
        (s.createSymbol ++ " returned a null interface")))), [.load, event, .unload], []⟩
  /-- It gives one, which is destroyed when it is let go. -/
  | provided (creator destroyer : EntryPoint) (event : LibraryEvent)
      (creates : library.find? s.createSymbol = some creator)
      (destroys : library.find? s.destroySymbol = some destroyer)
      (answers : creator.create s.versionTag = ⟨event, 0, true⟩) :
      s.OpenedOutcome path library ⟨.value (.extension s.versionTag false), [.load, event],
        [destroyer.destroy.seen, .unload]⟩

/-- What loading and letting go gives. -/
inductive LoadOutcome (s : ExtensionSettings) (storage : Storage) (override : Option String) :
    Trial → Prop where
  /-- No path opens. -/
  | missed (shut : ∀ p ∈ s.candidates storage override, openLibrary storage p = none)
      (noted : (s.attempt storage override).notes =
        (s.candidates storage override).map unopened ++
          [⟨.warn, "Unable to load " ++ s.library ++ ", continuing without extension"⟩]) :
      s.LoadOutcome storage override ⟨.value .nothing, [], []⟩
  /-- The first path that opens is the one, and nothing is noted about any behind it. -/
  | opened (before : List String) (path : String) (after : List String) (library : Library)
      (note : Note) (t : Trial) (order : s.candidates storage override = before ++ path :: after)
      (shut : ∀ p ∈ before, openLibrary storage p = none)
      (opens : openLibrary storage path = some library)
      (noted : (s.attempt storage override).notes = before.map unopened ++ [note])
      (outcome : s.OpenedOutcome path library t) : s.LoadOutcome storage override t

/-- What comes after a library was opened adds one note. -/
theorem openedOutcome_createIn {creator destroyer : EntryPoint}
    (creates : library.find? s.createSymbol = some creator)
    (destroys : library.find? s.destroySymbol = some destroyer) (notes : List Note) :
    s.OpenedOutcome path library (s.createIn path creator destroyer notes).trial ∧
      ∃ note, (s.createIn path creator destroyer notes).notes = notes ++ [note] := by
  unfold createIn
  rcases answers : creator.create s.versionTag with ⟨event, status, given⟩
  dsimp only
  by_cases bad : status ≠ 0
  · rw [if_pos bad]
    exact ⟨.refused creator destroyer event status given creates destroys answers bad, _, rfl⟩
  · rw [if_neg bad]
    obtain rfl : status = 0 := Decidable.not_not.mp bad
    cases given with
    | false => exact ⟨.empty creator destroyer event creates destroys answers, _, rfl⟩
    | true => exact ⟨.provided creator destroyer event creates destroys answers, _, rfl⟩

theorem loadOutcome_attempt (s : ExtensionSettings) (storage : Storage) (override : Option String) :
    s.LoadOutcome storage override (s.attempt storage override).trial := by
  rcases exists_first storage (s.candidates storage override) with
    shut | ⟨before, path, after, library, order, shut, opens⟩
  · have ended : s.attempt storage override = ⟨.ok none,
        (s.candidates storage override).map unopened ++
          [⟨.warn, "Unable to load " ++ s.library ++ ", continuing without extension"⟩], []⟩ := by
      unfold attempt
      rw [findLibrary_of_none shut]
    rw [ended]
    exact .missed shut (congrArg Attempt.notes ended)
  · -- the search ends here, so what lies behind is not in what it gives
    have found := findLibrary_of_first shut opens after
    rw [← order] at found
    have outcome : s.OpenedOutcome path library (s.attempt storage override).trial ∧
        ∃ note, (s.attempt storage override).notes = before.map unopened ++ [note] := by
      unfold attempt
      rw [found]
      dsimp only
      cases creates : library.find? s.createSymbol with
      | none => exact ⟨.uncreatable creates, _, rfl⟩
      | some creator =>
          cases destroys : library.find? s.destroySymbol with
          | none => exact ⟨.undestroyable creator creates destroys, _, rfl⟩
          | some destroyer => exact openedOutcome_createIn creates destroys _
    obtain ⟨outcome, note, noted⟩ := outcome
    exact .opened before path after library note _ order shut opens noted outcome

/-- There is no answer exactly if no path opens. -/
theorem LoadOutcome.missed_iff {t : Trial} (outcome : s.LoadOutcome storage override t) :
    t.outcome = .value .nothing ↔
      ∀ p ∈ s.candidates storage override, openLibrary storage p = none := by
  cases outcome with
  | missed shut noted => exact iff_of_true rfl shut
  | opened before path after library note t order shut opens noted outcome =>
      have among : path ∈ s.candidates storage override :=
        order ▸ List.mem_append_right before List.mem_cons_self
      refine iff_of_false ?_ fun all => ?_
      · cases outcome <;> nofun
      · nomatch opens.symm.trans (all path among)

theorem OpenedOutcome.episode {t : Trial} (outcome : s.OpenedOutcome path library t)
    (matching : library.Matches s) : ∃ episode : Episode, episode.OfVersion s.versionTag ∧
      t.whileLoading ++ t.afterwards = episode.events ∧
      (t.outcome = .value (.extension s.versionTag false) ↔ episode.gave = true) := by
  have created {creator : EntryPoint} {event : LibraryEvent} {status : Int32} {given : Bool}
      (creates : library.find? s.createSymbol = some creator)
      (answers : creator.create s.versionTag = ⟨event, status, given⟩) :
      event = .create s.versionTag := by
    rw [← matching.creator creator creates s.versionTag, answers]
  -- three of the five came as far as the call to create, and saw it as that
  cases outcome with
  | uncreatable lacks => exact ⟨.lacking, trivial, rfl, nofun, nofun⟩
  | undestroyable creator has lacks => exact ⟨.lacking, trivial, rfl, nofun, nofun⟩
  | refused creator destroyer event status given creates destroys answers bad =>
      obtain rfl := created creates answers
      exact ⟨.refused s.versionTag, rfl, rfl, nofun, nofun⟩
  | empty creator destroyer event creates destroys answers =>
      obtain rfl := created creates answers
      exact ⟨.refused s.versionTag, rfl, rfl, nofun, nofun⟩
  | provided creator destroyer event creates destroys answers =>
      obtain rfl := created creates answers
      rw [matching.destroyer destroyer destroys]
      exact ⟨.provided s.versionTag destroyer.destroy.status, rfl, rfl, fun _ => rfl, fun _ => rfl⟩

/-- Where the names of the entry points lead where they should in the library that is found,
    it sees one episode of its life. If none is found, nothing is seen at all. -/
theorem LoadOutcome.episode {t : Trial} (outcome : s.LoadOutcome storage override t)
    (matching : ∀ path library,
      (findLibrary storage (s.candidates storage override)).1 = some (path, library) →
        library.Matches s) :
    (t.outcome = .value .nothing ∧ t.whileLoading ++ t.afterwards = []) ∨
      ∃ episode : Episode, episode.OfVersion s.versionTag ∧
        t.whileLoading ++ t.afterwards = episode.events ∧
        (t.outcome = .value (.extension s.versionTag false) ↔ episode.gave = true) := by
  cases outcome with
  | missed shut noted => exact Or.inl ⟨rfl, rfl⟩
  | opened before path after library note t order shut opens noted outcome =>
      have found := findLibrary_of_first shut opens after
      rw [← order] at found
      exact Or.inr (outcome.episode (matching path library (congrArg Prod.fst found)))

end ExtensionSettings

/-! ### Trials -/

namespace Hub

variable {h : Hub} {s : ExtensionSettings}

/-- A hub that holds no interface and looks for a library whenever it is to load one. -/
structure LoadsFromLibrary (h : Hub) (s : ExtensionSettings) : Prop where
  loader : h.loader = .library s
  able : h.faults .loadExtension = none
  core : h.core.extension = none
  compositor : h.compositor.extension? = none

theorem loadsFromLibrary_trialHub (s : ExtensionSettings) (storage : Storage)
    (override : Option String) : (trialHub (.library s) storage override).LoadsFromLibrary s :=
  ⟨rfl, rfl, rfl, rfl⟩

end Hub

namespace Journal

theorem addAll_addAll (j : Journal) (l m : List Record) :
    (j.addAll l).addAll m = j.addAll (l ++ m) := by
  unfold addAll
  congr 1
  apply Array.ext'
  simp

theorem library_since_addAll (j : Journal) (l : List Record) :
    (j.since (j.addAll l)).library = l.filterMap Record.library? := by
  have size : (j.records ++ l).size = j.records.size + l.length := by
    rw [← Array.length_toList, Array.toList_appendList, List.length_append, Array.length_toList]
  have rest : ((j.records ++ l).extract j.records.size).toList = l := by
    rw [Array.toList_extract, Array.toList_appendList, size]
    simp
  unfold since addAll library
  rw [rest]

end Journal

namespace Hub

variable {h : Hub} {s : ExtensionSettings}

/-- A hub after an attempt, before the interface that it gave is counted. -/
def attempted (h : Hub) (a : Attempt) : Hub :=
  ((h.recordCall .loadExtension).noteAll a.notes).recordEvents a.events

/-- A hub after an attempt whose interface was handed out. -/
def supplied (h : Hub) (a : Attempt) : Hub :=
  { h.attempted a with extensions := h.extensions + 1 }

theorem loadExtension_of_loadsFromLibrary (fromLibrary : h.LoadsFromLibrary s) :
    Act.loadExtension h =
      match (s.attempt h.storage h.override).result with
      | .error f => (.error (.failure f), h.attempted (s.attempt h.storage h.override))
      | .ok none => (.ok none, h.attempted (s.attempt h.storage h.override))
      | .ok (some i) => (.ok (some ⟨h.extensions, some i⟩),
          h.supplied (s.attempt h.storage h.override)) := by
  have same : (h.recordCall .loadExtension).loader = .library s := fromLibrary.loader
  have able : h.barred .loadExtension = .ok () := by
    unfold barred
    rw [fromLibrary.able]
  unfold Act.loadExtension
  rw [bind_apply, Act.visit_barred, able]
  dsimp only
  rw [get_bind, same]
  dsimp only
  rw [modify_bind]
  change (Act.ofExcept (s.attempt h.storage h.override).result >>= fun opened =>
    _ : Act (Option Extension)) (h.attempted (s.attempt h.storage h.override)) = _
  rcases (s.attempt h.storage h.override).result with f | (_ | i) <;> rfl

theorem journal_attempted (h : Hub) (a : Attempt) : (h.attempted a).journal =
    h.journal.addAll (.call .loadExtension :: (a.notes.map .note ++ a.events.map .library)) := by
  change ((h.journal.addAll [.call .loadExtension]).addAll (a.notes.map .note)).addAll
    (a.events.map .library) = _
  rw [Journal.addAll_addAll, Journal.addAll_addAll]
  rfl

theorem library_since_attempted (h : Hub) (a : Attempt) :
    (h.journal.since (h.attempted a).journal).library = a.events := by
  have silent : (a.notes.map Record.note).filterMap Record.library? = [] := by
    rw [List.filterMap_map, List.filterMap_eq_nil_iff]
    exact fun _ _ => rfl
  have seen : (a.events.map Record.library).filterMap Record.library? = a.events := by
    rw [List.filterMap_map]
    exact List.filterMap_some
  rw [journal_attempted, Journal.library_since_addAll, List.filterMap_cons_none rfl,
    List.filterMap_append, silent, seen, List.nil_append]

theorem library_since_destroyExtension (h : Hub) (serial : Nat) (i : OpenInterface) :
    (h.journal.since (h.destroyExtension ⟨serial, some i⟩).journal).library =
      [i.destruction.seen, .unload] := by
  have written (event : LibraryEvent) (level : Level) (text : String) :
      ((h.recordEvents [event, .unload]).note level text).journal =
        h.journal.addAll [.library event, .library .unload, .note ⟨level, text⟩] :=
    Journal.addAll_addAll h.journal [.library event, .library .unload] [.note ⟨level, text⟩]
  unfold destroyExtension
  dsimp only
  split
  · rw [written, Journal.library_since_addAll]
    rfl
  · rw [written, Journal.library_since_addAll]
    rfl

theorem holds_supplied (fromLibrary : h.LoadsFromLibrary s) (a : Attempt) (e : Extension) :
    (h.supplied a).holds e = false := by
  change (h.core.extension == some e || h.compositor.extension? == some e) = false
  rw [fromLibrary.core, fromLibrary.compositor]
  rfl

/-- Loading and letting go is an attempt and what comes of it, and changes nothing that the
    next time depends on. -/
theorem trial_loadsFromLibrary (fromLibrary : h.LoadsFromLibrary s) :
    (trial h).1 = (s.attempt h.storage h.override).trial ∧
    (trial h).2.LoadsFromLibrary s ∧ (trial h).2.storage = h.storage ∧
    (trial h).2.override = h.override := by
  have loaded := loadExtension_of_loadsFromLibrary fromLibrary
  -- the attempt stays closed, or comparing would go through the files
  generalize s.attempt h.storage h.override = a at loaded ⊢
  have seen := h.library_since_attempted a
  have nothing (u : Hub) : (u.journal.since u.journal).library = [] :=
    u.journal.library_since_addAll []
  have kept : (h.attempted a).LoadsFromLibrary s :=
    ⟨fromLibrary.loader, fromLibrary.able, fromLibrary.core, fromLibrary.compositor⟩
  unfold trial Attempt.trial
  rw [loaded]
  cases result : a.result with
  | error f =>
      dsimp only
      rw [seen, nothing]
      exact ⟨rfl, kept, rfl, rfl⟩
  | ok opened =>
      cases opened with
      | none =>
          dsimp only
          rw [seen, letGo?, nothing]
          exact ⟨rfl, kept, rfl, rfl⟩
      | some i =>
          change (⟨_, (h.journal.since (h.attempted a).journal).library,
              ((h.supplied a).journal.since ((h.supplied a).letGo _).journal).library⟩ : Trial) =
            _ ∧ ((h.supplied a).letGo _).LoadsFromLibrary s ∧ ((h.supplied a).letGo _).storage = _ ∧
              ((h.supplied a).letGo _).override = _
          obtain ⟨j, same⟩ := destroyExtension_keeps ⟨h.extensions, some i⟩ (h.supplied a)
          rw [letGo_of_free (holds_supplied fromLibrary a _), library_since_destroyExtension, seen,
            same]
          exact ⟨rfl, ⟨kept.loader, kept.able, kept.core, kept.compositor⟩, rfl, rfl⟩

end Hub

theorem trials_succ (times : Nat) (h : Hub) : trials (times + 1) h =
    ((trial h).1 :: (trials times (trial h).2).1, (trials times (trial h).2).2) :=
  rfl

/-- Loading an extension and letting it go, as often as is wanted. Every time the paths are
    gone through in the same order up to the first one that opens, and there is no extension
    exactly if none does. A library whose entry points are of the right kind sees one whole
    episode of its life, whatever they answer, and one in which an interface was handed out
    exactly if loading gave one. -/
theorem trials_loadOutcome {h : Hub} {s : ExtensionSettings} (fromLibrary : h.LoadsFromLibrary s)
    (times : Nat) : (∃ given found, s.SearchOrder h.storage h.override given found
      (s.candidates h.storage h.override)) ∧
    (trials times h).1.length = times ∧
    ∀ t ∈ (trials times h).1, s.LoadOutcome h.storage h.override t ∧
      (t.outcome = .value .nothing ↔
        ∀ p ∈ s.candidates h.storage h.override, openLibrary h.storage p = none) ∧
      ((∀ path library, (ExtensionSettings.findLibrary h.storage
          (s.candidates h.storage h.override)).1 = some (path, library) → library.Matches s) →
        (t.outcome = .value .nothing ∧ t.whileLoading ++ t.afterwards = []) ∨
        ∃ episode : Episode, episode.OfVersion s.versionTag ∧
          t.whileLoading ++ t.afterwards = episode.events ∧
          (t.outcome = .value (.extension s.versionTag false) ↔ episode.gave = true)) := by
  suffices all : (trials times h).1.length = times ∧
      ∀ t ∈ (trials times h).1, s.LoadOutcome h.storage h.override t from
    ⟨s.searchOrder_candidates h.storage h.override, all.1, fun t among =>
      ⟨all.2 t among, (all.2 t among).missed_iff, (all.2 t among).episode⟩⟩
  -- a trial leaves behind what the next one needs, with the same files
  induction times generalizing h with
  | zero => exact ⟨rfl, fun t none => absurd none List.not_mem_nil⟩
  | succ times ih =>
      obtain ⟨first, still, storage, override⟩ := Hub.trial_loadsFromLibrary fromLibrary
      obtain ⟨length, rest⟩ := ih still
      rw [storage, override] at rest
      rw [trials_succ, first]
      exact ⟨congrArg (· + 1) length,
        List.forall_mem_cons.mpr ⟨s.loadOutcome_attempt h.storage h.override, rest⟩⟩

/-- Two directories, with a file in the first one that is no library. -/
def annex : Storage where
  items := [
    (["one"], .directory),
    (["one", "libvendor.so"], .file (some "text")),
    (["three"], .directory),
    (["three", "libvendor.so"], .library (.refusingZeroTag "vendor_open" "vendor_close"))]

/-- Settings with the names that this library goes by. -/
def vendorNames : ExtensionSettings where
  library := "libvendor.so"
  searchDirs := ["/one", "/two", "/three"]
  createSymbol := "vendor_open"
  destroySymbol := "vendor_close"

/-- The second path opens, behind one that does not. Its library is loaded twice, and unloaded
    both times though it says that it failed. -/
theorem trials_loadOutcome_annex :
    vendorNames.candidates annex (some "") =
      ["/one/libvendor.so", "/three/libvendor.so", "libvendor.so"] ∧
    annex.LibrariesMatch vendorNames ∧
    (trials 2 (trialHub (.library vendorNames) annex (some ""))).1.map (·.afterwards) =
      [[.destroy (-5), .unload], [.destroy (-5), .unload]] ∧
    (trials 2 (trialHub (.library vendorNames) annex (some ""))).1.length = 2 ∧
    ∀ t ∈ (trials 2 (trialHub (.library vendorNames) annex (some ""))).1,
      (t.outcome = .value .nothing ∧ t.whileLoading ++ t.afterwards = []) ∨
      ∃ episode : Episode, episode.OfVersion vendorNames.versionTag ∧
        t.whileLoading ++ t.afterwards = episode.events ∧
        (t.outcome = .value (.extension vendorNames.versionTag false) ↔ episode.gave = true) := by
  -- it is the only library that there is
  have only : annex.LibrariesMatch vendorNames := by
    refine Storage.librariesMatch_of_items fun item among library holds => ?_
    simp only [annex, List.mem_cons, List.not_mem_nil, or_false] at among
    rcases among with rfl | rfl | rfl | rfl
    · cases holds
    · cases holds
    · cases holds
    · obtain rfl := Item.library.inj holds
      exact Library.matches_refusingZeroTag (s := vendorNames) (by decide)
  obtain ⟨-, length, each⟩ :=
    trials_loadOutcome (Hub.loadsFromLibrary_trialHub vendorNames annex (some "")) 2
  refine ⟨by decide +kernel, only, by decide +kernel, length, fun t among => ?_⟩
  refine (each t among).2.2 fun path library found => only path library ?_
  exact ExtensionSettings.openLibrary_of_findLibrary (Prod.ext found rfl)

end DisplayHub
