import DisplayHub.Proofs.BootstrapState

/-!
# The Use of Libraries

How long an interface from a vendor's library lives.

The core and the compositor both hold the interface, and the last one to let go
destroys it. Neither knows which of them that will be: on the way up the one
that lets go is whoever began the sequence that did not come to its end, and on
the way down it is the core, after the compositor. What has to be shown is that
there is always a last one, and that by then nobody needs the interface any
more.

What a library answers is up to the library, and it may be another one the next
time. All that is asked of it is that an entry point is what its name says
(`Library.Matches`). Whether an interface is given, and whether destroying it is
said to have gone well, can depend on anything.

What a library sees of its own life comes in episodes (`Episode`), each from its
loading to its unloading, and there is never more than one that goes on. An
interface that was handed out is destroyed once in its episode, right before the
library is unloaded. A library whose interface could not be had is unloaded
without a call to destroy anything.

What a single step does to libraries is `LibraryStep`, and it has five cases. Two of
them destroy an interface, and both tell where the hub stood at that moment:
nobody held the interface any more, and every provider that was ever created had
been released (`NoLongerHolds`).

Collaborators may fail at any time. But the color service and the report must
not bring the whole program down, because then the compositor is left behind
with an interface that the core does not know of (`Step.keepsLoader`).

## Main definitions

* `Library.Matches`, `Storage.LibrariesMatch`: The names of the entry points lead
  where they should.
* `Episode`: A library from its loading to its unloading.
* `ExtensionSettings.Provides`: Where an interface is from.
* `Hub.inUse`, `Hub.inUseEvents`: The interface that goes on, and what its library has
  seen.
* `Hub.NoLongerHolds`, `Hub.LibraryStep`: What a step does to libraries.
* `Hub.LibraryInvariant`: What is true of libraries at any time.
* `Hub.teardownCore`: A hub that goes down, before the core lets its interface go.
* `Session.LibrariesMatch`: The libraries that there are in a run match.
* `Hub.UnusedWithLibrary`: A hub to begin with.

## Theorems

* `ExtensionSettings.attempt_cases`: How an attempt to load a library ends.
* `ExtensionSettings.Provides.seen`: What a library sees of an interface.
* `BootstrapState.SameExtension.transition`: The core and the compositor hold the same interface.
* `Hub.LibraryInvariant.step`: What a step does to libraries keeps the invariant.
* `Hub.libraryStep_bootstrap`, `Hub.libraryStep_teardown`: Coming up and going down.
* `Session.libraryStep_step`: Every step that keeps the loader.
* `Session.libraryStep_after`: Any run of them.
-/

namespace DisplayHub

/-! ### Entry points -/

/-- Each of the two names that the settings give leads to an entry point of the
    right kind in a library, or to none. -/
structure Library.Matches (library : Library) (s : ExtensionSettings) : Prop where
  creator : ∀ p, library.find? s.createSymbol = some p → p.IsCreator
  destroyer : ∀ p, library.find? s.destroySymbol = some p → p.IsDestroyer

/-- A library that gives an interface of every version but zero, and says each
    time that destroying it went wrong. -/
def Library.refusingZeroTag (creates destroys : String) : Library where
  entryPoint? name :=
    if name = creates then some (.creator fun tag => (if tag = 0 then 7 else 0, true))
    else if name = destroys then some (.destroyer (-5))
    else none

theorem Library.matches_refusingZeroTag {s : ExtensionSettings}
    (apart : s.destroySymbol ≠ s.createSymbol) :
    (refusingZeroTag s.createSymbol s.destroySymbol).Matches s where
  creator p found := by
    have point := (if_pos rfl).symm.trans (entryPoint?_of_find? found)
    obtain rfl := Option.some.inj point
    exact EntryPoint.isCreator_creator _
  destroyer p found := by
    have point := (if_neg apart).symm.trans (entryPoint?_of_find? found)
    obtain rfl := Option.some.inj ((if_pos rfl).symm.trans point)
    exact EntryPoint.isDestroyer_destroyer _

/-- A library without any names matches whatever it is asked for. -/
theorem Library.matches_empty (s : ExtensionSettings) :
    (⟨fun _ => none⟩ : Library).Matches s where
  creator _ found := nomatch entryPoint?_of_find? found
  destroyer _ found := nomatch entryPoint?_of_find? found

/-- So it is in every library that can be opened. -/
def Storage.LibrariesMatch (storage : Storage) (s : ExtensionSettings) : Prop :=
  ∀ path library, openLibrary storage path = some library → library.Matches s

/-- It is enough to look at those that are there. -/
theorem Storage.librariesMatch_of_items {storage : Storage} {s : ExtensionSettings}
    (all : ∀ item ∈ storage.items, ∀ library, item.2 = .library library → library.Matches s) :
    storage.LibrariesMatch s := by
  intro path library opens
  unfold openLibrary at opens
  split at opens
  · nomatch opens
  · split at opens
    · next other found =>
        obtain rfl := Option.some.inj opens
        obtain ⟨row, among⟩ := mem_of_item found nofun
        exact all _ among other rfl
    · nomatch opens

/-- Whether a library sees that an interface is destroyed. -/
def LibraryEvent.destroys : LibraryEvent → Bool
  | destroy _ => true
  | load | create _ | unload => false

/-- What a library sees from its loading to its unloading. -/
inductive Episode where
  /-- It lacks an entry point. -/
  | lacking
  /-- It gave no interface, or one together with an error. -/
  | refused (tag : UInt32)
  /-- Its interface was handed out, and destroyed in the end, or at least it was
      told to. -/
  | provided (tag : UInt32) (status : Int32)
deriving DecidableEq, Repr

namespace Episode

def events : Episode → List LibraryEvent
  | lacking => [.load, .unload]
  | refused tag => [.load, .create tag, .unload]
  | provided tag status => [.load, .create tag, .destroy status, .unload]

/-- Whether an interface was handed out. -/
def gave : Episode → Bool
  | provided _ _ => true
  | _ => false

/-- An interface is destroyed as often as one was handed out. -/
theorem countP_events (episode : Episode) :
    episode.events.countP LibraryEvent.destroys = episode.gave.toNat := by
  cases episode <;> rfl

end Episode

namespace ExtensionSettings

/-- An interface is from a library that can be opened. It was created by the entry
    point with the one name, which was seen as `made`, and will be destroyed by
    that with the other. -/
structure Provides (s : ExtensionSettings) (storage : Storage) (i : OpenInterface)
    (made : LibraryEvent) : Prop where
  tag : i.versionTag = s.versionTag
  points : ∃ library creator destroyer, openLibrary storage i.path = some library ∧
    library.find? s.createSymbol = some creator ∧ (creator.create s.versionTag).seen = made ∧
    library.find? s.destroySymbol = some destroyer ∧ destroyer.destroy = i.destruction

/-- Where libraries match, they see an interface created and destroyed. -/
theorem Provides.seen {s : ExtensionSettings} {storage : Storage} {i : OpenInterface}
    {made : LibraryEvent} (provides : s.Provides storage i made)
    (matching : storage.LibrariesMatch s) :
    made = .create i.versionTag ∧ i.destruction.seen = .destroy i.destruction.status := by
  obtain ⟨tag, library, creator, destroyer, opens, creates, rfl, destroys, destruction⟩ := provides
  obtain ⟨is_creator, is_destroyer⟩ := matching i.path library opens
  rw [tag, ← destruction]
  exact ⟨is_creator creator creates s.versionTag, is_destroyer destroyer destroys⟩

/-- A library that is found has been opened. -/
theorem openLibrary_of_findLibrary {storage : Storage} {paths : List String} {path : String}
    {library : Library} {notes : List Note}
    (found : findLibrary storage paths = (some (path, library), notes)) :
    openLibrary storage path = some library := by
  induction paths generalizing notes with
  | nil => nomatch found
  | cons p rest ih =>
      unfold findLibrary at found
      split at found
      · next opens =>
          obtain ⟨⟨⟩, -⟩ := Prod.mk.inj found
          exact opens
      · obtain ⟨later, -⟩ := Prod.mk.inj found
        exact ih (Prod.ext later rfl)

/-- A library that is asked for an interface gives it, or is unloaded at once. -/
theorem createIn_cases (s : ExtensionSettings) (path : String) (creator destroyer : EntryPoint)
    (notes : List Note) :
    (∃ f, (s.createIn path creator destroyer notes).result = .error f ∧
        (s.createIn path creator destroyer notes).events =
          [.load, (creator.create s.versionTag).seen, .unload]) ∨
      ((s.createIn path creator destroyer notes).result =
          .ok (some ⟨path, s.versionTag, destroyer.destroy⟩) ∧
        (s.createIn path creator destroyer notes).events =
          [.load, (creator.create s.versionTag).seen]) := by
  unfold createIn
  dsimp only
  split
  · exact Or.inl ⟨_, rfl, rfl⟩
  · split
    · exact Or.inl ⟨_, rfl, rfl⟩
    · exact Or.inr ⟨rfl, rfl⟩

/-- How an attempt to load a library ends. -/
theorem attempt_cases (s : ExtensionSettings) (storage : Storage) (override : Option String) :
    ((s.attempt storage override).result = .ok none ∧
        (s.attempt storage override).events = []) ∨
      (∃ f, (s.attempt storage override).result = .error f ∧ (storage.LibrariesMatch s →
        ∃ episode : Episode, episode.gave = false ∧
          (s.attempt storage override).events = episode.events)) ∨
      ∃ i made, (s.attempt storage override).result = .ok (some i) ∧
        s.Provides storage i made ∧ (s.attempt storage override).events = [.load, made] := by
  unfold attempt
  rcases found : findLibrary storage (s.candidates storage override) with
    ⟨_ | ⟨path, library⟩, notes⟩
  -- that no library is found is no failure
  · exact Or.inl ⟨rfl, rfl⟩
  have opens := openLibrary_of_findLibrary found
  refine Or.inr ?_
  dsimp only
  cases creates : library.find? s.createSymbol with
  | none => exact Or.inl ⟨_, rfl, fun _ => ⟨.lacking, rfl, rfl⟩⟩
  | some creator =>
      cases destroys : library.find? s.destroySymbol with
      | none => exact Or.inl ⟨_, rfl, fun _ => ⟨.lacking, rfl, rfl⟩⟩
      | some destroyer =>
          dsimp only
          rcases s.createIn_cases path creator destroyer notes with
            ⟨f, result, events⟩ | ⟨result, events⟩
          · refine Or.inl ⟨f, result, fun matching => ⟨.refused s.versionTag, rfl, ?_⟩⟩
            rw [events, (matching path library opens).creator creator creates]
            rfl
          · exact Or.inr ⟨_, _, result,
              ⟨rfl, library, creator, destroyer, opens, creates, rfl, destroys, rfl⟩, events⟩

end ExtensionSettings

/-- What a library saw can be read off the records of a call. -/
theorem Record.filterMap_library (call : Call) (events : List LibraryEvent) :
    (Record.call call :: events.map Record.library).filterMap Record.library? = events := by
  rw [List.filterMap_cons_none rfl, List.filterMap_map]
  exact List.filterMap_some

/-- An interface is from a library, which sees it destroyed when it is. -/
def Extension.FromLibrary (e : Extension) : Prop :=
  ∃ i, e.opened = some i ∧ i.destruction.seen = .destroy i.destruction.status

namespace Hub

/-! ### What a step does -/

/-- The interface that goes on, which is there while the hub is up and has one. -/
def inUse (h : Hub) : Option Extension :=
  if h.initialized then h.core.extension else none

/-- What its library has seen so far. -/
def inUseEvents (h : Hub) : List LibraryEvent :=
  match h.inUse with
  | some e => [.load, .create e.versionTag]
  | none => []

/-- Nobody holds an interface, and every provider that was ever created was
    released. -/
structure NoLongerHolds (e : Extension) (h : Hub) : Prop where
  core : h.core.extension ≠ some e
  compositor : h.compositor.extension? ≠ some e
  providers : h.providers = h.journal.calls.count .destroyProvider

/-- What a step does to libraries. -/
inductive LibraryStep (h : Hub) : Step → Hub → Prop where
  /-- They see nothing, and what goes on goes on. -/
  | nothing (step : Step) (h' : Hub) (library : h'.journal.library = h.journal.library)
      (extensions : h'.extensions = h.extensions) (inUse : h'.inUse = h.inUse) :
      LibraryStep h step h'
  /-- No interface can be had, and a library that was loaded is unloaded without
      being told to destroy one. -/
  | denied (stop : Stop) (episode : Episode) (h' : Hub)
      (answer : (Act.loadExtension h).1 = .error stop) (gave : episode.gave = false)
      (library : h'.journal.library = h.journal.library ++ episode.events)
      (extensions : h'.extensions = h.extensions) (before : h.inUse = none)
      (after : h'.inUse = none) : LibraryStep h .bootstrap h'
  /-- The hub comes up with an interface. -/
  | taken (e : Extension) (h' : Hub) (fromLibrary : e.FromLibrary)
      (answer : (Act.loadExtension h).1 = .ok (some e))
      (library : h'.journal.library = h.journal.library ++ h'.inUseEvents)
      (extensions : h'.extensions = h.extensions + 1) (before : h.inUse = none)
      (after : h'.inUse = some e) : LibraryStep h .bootstrap h'
  /-- The hub gets an interface and does not come up, and destroys it last of
      all. -/
  | returned (e : Extension) (stop : Stop) (loaded u : Hub) (fromLibrary : e.FromLibrary)
      (load : Act.loadExtension h = (.ok (some e), loaded))
      (stopped : Act.assemble (some e) loaded = (.error stop, u))
      (library : u.journal.library = h.journal.library ++ [.load, .create e.versionTag])
      (extensions : u.extensions = h.extensions + 1) (notHeld : u.NoLongerHolds e)
      (before : h.inUse = none) (after : u.inUse = none) :
      LibraryStep h .bootstrap (u.destroyExtension e)
  /-- The hub goes down, and destroys its interface last of all. -/
  | released (e : Extension) (u : Hub) (fromLibrary : e.FromLibrary)
      (teardownCore : u = { h.disableColor.stopCompositor.dismissProvider with core := {} })
      (library : u.journal.library = h.journal.library)
      (extensions : u.extensions = h.extensions) (notHeld : u.NoLongerHolds e)
      (before : h.inUse = some e) (after : u.inUse = none) :
      LibraryStep h .teardown
        ((u.destroyExtension e).note .info "DisplayCore: deinitialized")

/-- What is true of libraries at any time. -/
structure LibraryInvariant (h : Hub) : Prop where
  /-- Of the interfaces that were handed out, the one of a hub that is up and has
      one was not destroyed yet, and every other one was. -/
  counted : h.extensions = h.journal.library.countP LibraryEvent.destroys +
    (h.initialized && h.core.extension.isSome).toNat
  /-- One episode came to its end after the other, and the next one goes on. -/
  seen : ∃ closed : List Episode,
    h.journal.library = closed.flatMap Episode.events ++ h.inUseEvents
  fromLibrary : ∀ e, h.inUse = some e → e.FromLibrary
  /-- The core and the compositor hold what goes on, and nothing else. -/
  core : h.core.extension = h.inUse
  compositor : h.compositor.extension? = h.inUse

section Logs

variable {h h' u : Hub} {a b : Nat} {l : List Record} {l' : List LibraryEvent}

theorem toNat_inUse (h : Hub) :
    (h.initialized && h.core.extension.isSome).toNat = h.inUse.isSome.toNat := by
  unfold inUse
  cases h.initialized <;> rfl

/-- What libraries saw is left behind. -/
theorem library_of_trace (added : h'.trace = h.trace ++ l) :
    h'.journal.library = h.journal.library ++ l.filterMap Record.library? := by
  have seen (v : Hub) : v.journal.library = v.trace.filterMap Record.library? := by
    unfold trace Journal.library
    rw [List.filterMap_filter]
    -- a trace leaves out some records, but none of a library
    congr 1
    funext r
    cases r <;> rfl
  rw [seen, seen, added, List.filterMap_append]

/-- A library that is told to destroy its interface is unloaded after that. -/
theorem library_destroyExtension {e : Extension} (fromLibrary : e.FromLibrary) (h : Hub) :
    ∃ status, (h.destroyExtension e).journal.library =
      h.journal.library ++ [.destroy status, .unload] := by
  obtain ⟨i, opened, destroys⟩ := fromLibrary
  refine ⟨i.destruction.status, ?_⟩
  unfold destroyExtension
  rw [opened]
  dsimp only
  rw [destroys]
  split
  · exact library_of_trace ((onlyLogged_recordEvents _ h).trans (onlyLogged_note _ _ _)).trace
  · exact library_of_trace ((onlyLogged_recordEvents _ h).trans (onlyLogged_note _ _ _)).trace

theorem extensions_destroyExtension (e : Extension) (h : Hub) :
    (h.destroyExtension e).extensions = h.extensions := by
  obtain ⟨journal, same⟩ := destroyExtension_keeps e h
  rw [same]

theorem inUse_destroyExtension (e : Extension) (h : Hub) :
    (h.destroyExtension e).inUse = h.inUse := by
  obtain ⟨journal, same⟩ := destroyExtension_keeps e h
  rw [same]
  rfl

theorem NoLongerHolds.free {e : Extension} (notHeld : h.NoLongerHolds e) : h.holds e = false := by
  simp [holds, notHeld.core, notHeld.compositor]

theorem inUse_of_ground (same : h'.ground = h.ground) : h'.inUse = h.inUse :=
  Hub.told_of_ground inUse same rfl rfl

theorem inUseEvents_of_inUse {e : Extension} (inUse : h.inUse = some e) :
    h.inUseEvents = [.load, .create e.versionTag] := by
  unfold inUseEvents
  rw [inUse]

theorem inUseEvents_of_none (inUse : h.inUse = none) : h.inUseEvents = [] := by
  unfold inUseEvents
  rw [inUse]

theorem countP_inUseEvents (h : Hub) : h.inUseEvents.countP LibraryEvent.destroys = 0 := by
  unfold inUseEvents
  split <;> rfl

/-- An episode that comes to its end keeps the invariant. -/
theorem LibraryInvariant.close (kept : h.LibraryInvariant) (episode : Episode)
    (rest : h.inUseEvents ++ l' = episode.events)
    (library : h'.journal.library = h.journal.library ++ l')
    (extensions : h'.extensions + h.inUse.isSome.toNat = h.extensions + episode.gave.toNat)
    (after : h'.inUse = none) (core : h'.core.extension = h'.inUse)
    (compositor : h'.compositor.extension? = h'.inUse) : h'.LibraryInvariant := by
  refine ⟨?_, ?_, fun e inUse => absurd (after.symm.trans inUse) nofun, core, compositor⟩
  · -- an opening destroys nothing, so whatever its episode destroys comes with the rest
    have counted := kept.counted
    have closing := episode.countP_events
    rw [← rest, List.countP_append, countP_inUseEvents, Nat.zero_add] at closing
    rw [toNat_inUse] at counted ⊢
    rw [library, List.countP_append, closing, after]
    change h'.extensions = _ + 0
    omega
  · obtain ⟨closed, seen⟩ := kept.seen
    refine ⟨closed ++ [episode], ?_⟩
    rw [library, seen, inUseEvents_of_none after, List.append_assoc, rest]
    simp

/-- What a step does to libraries keeps the invariant. -/
theorem LibraryInvariant.step {step : Step} (kept : h.LibraryInvariant)
    (libraryStep : h.LibraryStep step h')
    (core : h'.core.extension = h'.inUse) (compositor : h'.compositor.extension? = h'.inUse) :
    h'.LibraryInvariant := by
  cases libraryStep with
  | nothing _ _ library extensions inUse =>
      obtain ⟨counted, seen, fromLibrary, -, -⟩ := kept
      refine ⟨?_, ?_, inUse ▸ fromLibrary, core, compositor⟩
      · rw [toNat_inUse] at counted ⊢
        rw [library, extensions, inUse, counted]
      · unfold inUseEvents at seen ⊢
        rwa [library, inUse]
  | denied stop episode _ answer gave library extensions before after =>
      -- nothing went on before, so all of the episode is seen in this step
      refine kept.close episode ?_ library ?_ after core compositor
      · rw [inUseEvents_of_none before]
        rfl
      · rw [extensions, before, gave]
        rfl
  | taken e _ given answer library extensions before after =>
      -- the episode is open now, and is not among those that are closed
      obtain ⟨counted, ⟨closed, seen⟩, -, -, -⟩ := kept
      refine ⟨?_, ⟨closed, ?_⟩, ?_, core, compositor⟩
      · rw [toNat_inUse, before] at counted
        rw [toNat_inUse, library, List.countP_append, countP_inUseEvents, extensions, after,
          counted]
        rfl
      · rw [library, seen, inUseEvents_of_none before, List.append_nil]
      · intro f inUse
        obtain rfl := Option.some.inj (after.symm.trans inUse)
        exact given
  | returned e stop loaded u fromLibrary load stopped library extensions notHeld before after =>
      obtain ⟨status, destroyed⟩ := library_destroyExtension fromLibrary u
      rw [library, List.append_assoc] at destroyed
      refine kept.close (.provided e.versionTag status) ?_ destroyed ?_
        ((inUse_destroyExtension e u).trans after) core compositor
      · rw [inUseEvents_of_none before]
        rfl
      · rw [extensions_destroyExtension, extensions, before]
        rfl
  | released e u fromLibrary teardownCore library extensions notHeld before after =>
      -- the opening was seen before, and this step adds the end
      obtain ⟨status, destroyed⟩ := library_destroyExtension fromLibrary u
      have noted := library_of_trace
        (onlyLogged_note .info "DisplayCore: deinitialized" (u.destroyExtension e)).trace
      rw [List.filterMap_nil, List.append_nil, destroyed, library] at noted
      refine kept.close (.provided e.versionTag status) ?_ noted ?_
        ((inUse_destroyExtension e u).trans after) core compositor
      · rw [inUseEvents_of_inUse before]
        rfl
      · change (u.destroyExtension e).extensions + _ = _
        rw [extensions_destroyExtension, extensions, before]
        rfl

end Logs

end Hub

/-! ### Who holds it -/

namespace BootstrapState

/-- The core and the compositor hold the same interface, and none while the hub
    rests. -/
structure SameExtension (s : BootstrapState) : Prop where
  providersBalanced : s.ProvidersBalanced
  same : s.setup.bind Setup.extension = s.core.extension
  down : s.core.provider = none → s.core.extension = none
  dark : s.faults .startColor ≠ some .collapse
  blind : s.faults .queryStatus ≠ some .collapse

theorem SameExtension.transition {s t : BootstrapState} (transition : s.Transition t)
    (sameExtension : s.SameExtension) : t.SameExtension := by
  have providersBalanced := sameExtension.providersBalanced.transition transition
  obtain ⟨-, same, down, dark, blind⟩ := sameExtension
  cases transition with
  | stay => exact ⟨providersBalanced, same, down, dark, blind⟩
  | fall => exact ⟨providersBalanced, rfl, fun _ => rfl, dark, blind⟩
  | fail loads creates => exact ⟨providersBalanced, same, down, dark, blind⟩
  | collapse extension resource color idle reason next =>
      -- neither of the two that could do it does
      rcases reason with collapses | collapses
      · exact absurd collapses dark
      · exact absurd collapses blind
  | rise extension resource atRest idle offered next =>
      exact ⟨providersBalanced, rfl, nofun, dark, blind⟩
  | probe loads => exact ⟨providersBalanced, same, down, dark, blind⟩

end BootstrapState

namespace Hub

open Act

variable {h : Hub} {settings : ExtensionSettings}

theorem extension_coreButReport (h : Hub) : h.coreButReport.extension = h.core.extension := by
  unfold coreButReport
  split <;> rfl

/-- The core has an interface only while the hub is up. -/
theorem core_of_sameExtension (sameExtension : h.bootstrapState.SameExtension) :
    h.core.extension = h.inUse := by
  unfold inUse
  cases up : h.initialized with
  | true => rfl
  | false =>
      have provider : h.coreButReport.provider = none := by
        unfold coreButReport
        rw [up]
        simpa [initialized] using up
      exact (extension_coreButReport h).symm.trans (sameExtension.down provider)

theorem compositor_of_sameExtension (sameExtension : h.bootstrapState.SameExtension) :
    h.compositor.extension? = h.inUse := by
  rw [← core_of_sameExtension sameExtension, ← extension_coreButReport]
  exact sameExtension.same

/-- There is one more provider created than released while the hub is up. -/
theorem balanced_of_providersBalanced (providersBalanced : h.bootstrapState.ProvidersBalanced) :
    h.providers = h.journal.calls.count .destroyProvider + h.initialized.toNat := by
  have up : h.coreButReport.provider.isSome = h.initialized := by
    unfold coreButReport
    split <;> rfl
  rw [← up]
  exact providersBalanced.balanced

/-! ### Going down -/

/-- A hub that goes down, up to where the core lets its interface go. -/
def teardownCore (h : Hub) : Hub :=
  { h.disableColor.stopCompositor.dismissProvider with core := {} }

theorem ground_teardownCore (h : Hub) : h.teardownCore.ground = { h.ground with
    core := {}
    compositor := h.compositor.stop
    color := { h.color with active := false } } := by
  have dismissed (u : Hub) : { u.dismissProvider with core := {} }.ground =
      { u.ground with core := {} } := by
    unfold dismissProvider
    split <;> rfl
  unfold teardownCore
  rw [dismissed, ground_stopped]

theorem teardown_eq (h : Hub) : h.teardown =
    (h.teardownCore.letGo? h.core.extension).note .info "DisplayCore: deinitialized" := by
  have kept (u : Hub) : u.dismissProvider.core.extension = u.core.extension := by
    unfold dismissProvider
    split <;> rfl
  have known : h.disableColor.stopCompositor.core = h.core :=
    Hub.told_of_ground Hub.core (ground_stopped h) rfl rfl
  -- the core has its interface still when it is asked for it
  have held := (kept h.disableColor.stopCompositor).trans (congrArg Core.extension known)
  change (letGo? h.disableColor.stopCompositor.dismissProvider.core.extension h.teardownCore).note _
    _ = _
  rw [held]

/-- What the core and the compositor hold together is not destroyed before the
    core lets it go. -/
theorem logged_teardownCore (up : h.initialized = true)
    (same : h.compositor.extension? = h.core.extension) : h.Logged 0 0
      [.call .stopColor, .call .stopCompositor, .call .destroyProvider] h.teardownCore := by
  have dark := ground_disableColor h
  have core : h.disableColor.core = h.core := Hub.told_of_ground Hub.core dark rfl rfl
  have compositor : h.disableColor.compositor = h.compositor :=
    Hub.told_of_ground Hub.compositor dark rfl rfl
  -- the compositor lets go of an interface that the core has too
  have parted : Extension.letGoRecords h.disableColor.core.extension none
      h.disableColor.compositor.extension? = [] := by
    rw [core, compositor, same]
    cases h.core.extension with
    | none => rfl
    | some e => simp [Extension.letGoRecords]
  have stopped := logged_stopCompositor h.disableColor
  have dismissed := logged_dismissProvider h.disableColor.stopCompositor
  have still : h.disableColor.stopCompositor.initialized = true :=
    Hub.told_of_ground Hub.initialized (ground_stopped h) rfl up
  rw [parted] at stopped
  rw [still] at dismissed
  exact (((logged_disableColor h).trans stopped).trans dismissed).same rfl rfl rfl

/-- Going down, the compositor lets the interface go first, then the provider is
    released, and the core is the last to let go. -/
theorem libraryStep_teardown (kept : h.LibraryInvariant)
    (sameExtension : h.bootstrapState.SameExtension) : h.LibraryStep .teardown h.teardown := by
  have ground := ground_teardownCore h
  have down : h.teardownCore.inUse = none := Hub.told_of_ground Hub.inUse ground rfl rfl
  have core := kept.core
  cases inUse : h.inUse with
  | none =>
      have compositor := kept.compositor
      rw [inUse] at core compositor
      have logged := logged_teardown h
      have silent : h.downRecords.filterMap Record.library? = [] := by
        unfold downRecords
        rw [core, compositor]
        cases h.initialized <;> rfl
      have after : h.teardown.inUse = none :=
        Hub.told_of_ground Hub.inUse (ground_teardown h) rfl rfl
      refine LibraryStep.nothing _ _ ?_ logged.extensions (after.trans inUse.symm)
      rw [library_of_trace logged.trace, silent, List.append_nil]
  | some e =>
      have up : h.initialized = true := by
        unfold Hub.inUse at inUse
        split at inUse
        · assumption
        · nomatch inUse
      have logged := logged_teardownCore up (kept.compositor.trans kept.core.symm)
      have notHeld : h.teardownCore.NoLongerHolds e := by
        have forgot : h.teardownCore.core.extension = none :=
          Hub.told_of_ground (fun u : Hub => u.core.extension) ground rfl rfl
        have idle : h.teardownCore.compositor.extension? = none :=
          Hub.told_of_ground (fun u : Hub => u.compositor.extension?) ground rfl rfl
        refine ⟨by rw [forgot]; exact nofun, by rw [idle]; exact nofun, ?_⟩
        -- one provider more was created than released, and that one is released now
        rw [logged.providers, balanced_of_providersBalanced sameExtension.providersBalanced, up,
          count_calls, count_calls, logged.trace, List.count_append]
        rfl
      rw [teardown_eq, core, inUse]
      change h.LibraryStep .teardown ((h.teardownCore.letGo e).note _ _)
      rw [letGo_of_free notHeld.free]
      refine LibraryStep.released e h.teardownCore
        (kept.fromLibrary e inUse) rfl ?_ logged.extensions notHeld inUse down
      exact (library_of_trace logged.trace).trans (List.append_nil _)

/-! ### Coming up -/

/-- What loading the extension answers, and what a library sees of it. -/
theorem loading_cases (loader : h.loader = .library settings) :
    (∃ stop, h.extensionAnswer = .error stop ∧ (h.storage.LibrariesMatch settings →
        h.loading.filterMap Record.library? = [] ∨ ∃ episode : Episode, episode.gave = false ∧
          h.loading.filterMap Record.library? = episode.events)) ∨
      (h.extensionAnswer = .ok none ∧ h.loading.filterMap Record.library? = []) ∨
      ∃ e i made, h.extensionAnswer = .ok (some e) ∧ e.opened = some i ∧
        settings.Provides h.storage i made ∧
        h.loading.filterMap Record.library? = [.load, made] := by
  have seen := Record.filterMap_library .loadExtension
  unfold extensionAnswer loading
  rw [loader]
  -- where the call itself stops, no library is looked for
  cases h.barred .loadExtension with
  | error stop => exact Or.inl ⟨stop, rfl, fun _ => Or.inl rfl⟩
  | ok _ =>
      dsimp only
      rcases settings.attempt_cases h.storage h.override with
        ⟨result, events⟩ | ⟨f, result, events⟩ | ⟨i, made, result, provides, events⟩
      · rw [result, events]
        exact Or.inr (Or.inl ⟨rfl, rfl⟩)
      · rw [result, seen]
        exact Or.inl ⟨_, rfl, fun matching => Or.inr (events matching)⟩
      · rw [result, events, seen]
        exact Or.inr (Or.inr ⟨⟨h.extensions, some i⟩, i, made, rfl, rfl, provides, rfl⟩)

/-- On the way up a library sees nothing but its loading. -/
theorem library_upRecords (h : Hub) :
    h.upRecords.filterMap Record.library? = h.loading.filterMap Record.library? := by
  -- whatever else is asked on the way is a call to somebody else
  have optionalRecords : h.optionalRecords.filterMap Record.library? = [] := by
    unfold optionalRecords
    split <;> rfl
  unfold upRecords
  rw [List.filterMap_append]
  cases h.extensionAnswer with
  | error stop => exact List.append_nil _
  | ok extension =>
      cases h.providerAnswer with
      | error stop => exact List.append_nil _
      | ok _ =>
          cases h.resourceAnswer with
          | error stop => exact List.append_nil _
          | ok resource =>
              dsimp only
              cases h.compositorAnswer resource extension with
              | error stop => exact List.append_nil _
              | ok c =>
                  rw [List.filterMap_cons_none rfl, List.filterMap_cons_none rfl,
                    List.filterMap_cons_none rfl, optionalRecords, List.append_nil]

/-- Where the way up ends, it sees what becomes of its interface. -/
theorem library_undoRecords {extension : Option Extension}
    (loaded : h.extensionAnswer = .ok extension) : h.undoRecords.filterMap Record.library? =
      ((extension.map Extension.destroyRecords).getD []).filterMap Record.library? := by
  unfold undoRecords
  rw [loaded]
  dsimp only
  rw [List.filterMap_append]
  cases h.providerAnswer <;> rfl

/-- A hub that has an interface and does not come up lets it go last of all. -/
theorem libraryStep_of_stopped {e : Extension} {u w : Hub} {stop : Stop}
    (sameExtension : h.bootstrapState.SameExtension) (down : h.initialized = false)
    (inUse : h.inUse = none)
    (loaded : h.extensionAnswer = .ok (some e)) (fromLibrary : e.FromLibrary)
    (library : h.loading.filterMap Record.library? = [.load, .create e.versionTag])
    (load : Act.loadExtension h = (h.extensionAnswer, u))
    (stopped : Act.assemble (some e) u = (.error stop, w))
    (onlyLogged : h.OnlyLogged h.loads h.creates (h.upRecords ++ h.undoRecords) (w.letGo e)) :
    h.LibraryStep .bootstrap (w.letGo e) := by
  have ground : w.ground = h.ground := (ground_letGo e w).symm.trans onlyLogged.ground
  have free : w.holds e = false := by
    have same : w.holds e = h.holds e :=
      Hub.told_of_ground (fun v : Hub => v.holds e) ground rfl rfl
    rw [same]
    refine Bool.eq_false_iff.mpr fun held => ?_
    -- whoever holds an interface has one with a smaller number
    have older := heldIssued_of_providersBalanced sameExtension.providersBalanced e held
    rw [serial_of_extensionAnswer loaded] at older
    exact Nat.lt_irrefl _ older
  have last := onlyLogged_letGo free
  have notHeld : w.NoLongerHolds e := by
    unfold holds at free
    rw [Bool.or_eq_false_iff] at free
    refine ⟨by simpa using free.1, by simpa using free.2, ?_⟩
    -- what was created on the way is counted on both sides by now
    have created : w.providers = h.providers + h.creates :=
      last.providers.symm.trans onlyLogged.providers
    have released : (w.letGo e).trace.count (.call .destroyProvider) =
        w.trace.count (.call .destroyProvider) := by
      rw [last.trace, List.count_append, count_destroyRecords, Nat.add_zero]
    rw [created, balanced_of_providersBalanced sameExtension.providersBalanced, down, count_calls,
      count_calls, ← released,
      onlyLogged.trace, List.count_append, List.count_append, count_upRecords, count_undoRecords]
    simp
  rw [letGo_of_free notHeld.free]
  refine LibraryStep.returned e stop u w fromLibrary
    (load.trans (by rw [loaded])) stopped ?_ ?_ notHeld inUse ((inUse_of_ground ground).trans inUse)
  · -- that it is let go stands at the end of both accounts, and before it they agree
    have whole := library_of_trace onlyLogged.trace
    rw [library_of_trace last.trace, List.filterMap_append, library_upRecords, library,
      library_undoRecords loaded, ← List.append_assoc] at whole
    exact List.append_cancel_right whole
  · have loads : h.loads = 1 := loads_of_extensionAnswer loaded
    rw [← loads]
    exact last.extensions.symm.trans onlyLogged.extensions

/-- Where loading the extension stops, nothing more is asked. -/
theorem libraryStep_of_denied {stop : Stop} (down : h.initialized = false) (inUse : h.inUse = none)
    (loaded : h.extensionAnswer = .error stop)
    (library : h.loading.filterMap Record.library? = [] ∨ ∃ episode : Episode,
      episode.gave = false ∧ h.loading.filterMap Record.library? = episode.events) :
    h.LibraryStep .bootstrap (Act.bootstrap h).2 := by
  obtain ⟨u, load, onlyLogged, ran⟩ := bootstrap_of_down down
  rw [loaded] at ran
  have extensions : u.extensions = h.extensions := by
    have loads : h.loads = 0 := by
      unfold loads
      rw [loaded]
    rw [onlyLogged.extensions, loads]
    rfl
  have after := inUse_of_ground onlyLogged.ground
  have seen := library_of_trace onlyLogged.trace
  rw [ran]
  rcases library with library | ⟨episode, gave, library⟩
  · rw [library, List.append_nil] at seen
    exact LibraryStep.nothing _ u seen extensions after
  · rw [library] at seen
    exact LibraryStep.denied stop episode u (by rw [load, loaded]) gave seen extensions inUse
      (after.trans inUse)

/-- A hub that goes on without an extension shows libraries nothing. -/
theorem libraryStep_of_none (outcome : h.BootstrapOutcome (Act.bootstrap h).1 (Act.bootstrap h).2)
    (noCollapse : h.NoOptionalCollapse) (inUse : h.inUse = none)
    (loaded : h.extensionAnswer = .ok none) (library : h.loading.filterMap Record.library? = []) :
    h.LibraryStep .bootstrap (Act.bootstrap h).2 := by
  have loads : h.loads = 0 := loads_of_extensionAnswer loaded
  generalize (Act.bootstrap h).1 = r at outcome
  generalize (Act.bootstrap h).2 = h' at outcome
  cases outcome with
  | failed stop _ _ onlyLogged =>
      refine LibraryStep.nothing _ h' ?_ (by rw [onlyLogged.extensions, loads]; rfl)
        (inUse_of_ground onlyLogged.ground)
      rw [library_of_trace onlyLogged.trace, List.filterMap_append, library_upRecords, library,
        library_undoRecords loaded]
      exact List.append_nil _
  | collapsed _ _ _ _ _ _ collapses => exact absurd noCollapse collapses
  | up extension resource c topology _ _ _ answered _ _ logged ground =>
      obtain rfl : extension = none := Except.ok.inj (answered.symm.trans loaded)
      have after : h'.inUse = none := Hub.told_of_ground Hub.inUse ground rfl rfl
      refine LibraryStep.nothing _ h' ?_ (by rw [logged.extensions, loads]; rfl)
        (after.trans inUse.symm)
      rw [library_of_trace logged.trace, library_upRecords, library, List.append_nil]

/-- A hub that has an interface comes up with it, or lets it go. -/
theorem libraryStep_of_loaded {e : Extension} (sameExtension : h.bootstrapState.SameExtension)
    (down : h.initialized = false) (inUse : h.inUse = none)
    (loaded : h.extensionAnswer = .ok (some e)) (fromLibrary : e.FromLibrary)
    (library : h.loading.filterMap Record.library? = [.load, .create e.versionTag]) :
    h.LibraryStep .bootstrap (Act.bootstrap h).2 := by
  obtain ⟨u, load, -, ran⟩ := bootstrap_of_down down
  have outcome := bootstrapOutcome_bootstrap
    (heldIssued_of_providersBalanced sameExtension.providersBalanced) down
  rw [loaded] at ran
  dsimp only at ran
  -- how the assembly ends decides, and the whole ends in the same way
  rcases assembled : Act.assemble (some e) u with ⟨stop | _, w⟩
  · rw [onStop_of_error assembled] at ran
    rw [ran] at outcome ⊢
    change h.BootstrapOutcome (.error stop) (w.letGo e) at outcome
    change h.LibraryStep .bootstrap (w.letGo e)
    generalize ended : w.letGo e = h' at outcome
    cases outcome with
    | failed _ _ _ onlyLogged =>
        subst ended
        exact libraryStep_of_stopped sameExtension down inUse loaded fromLibrary library load
          assembled onlyLogged
    | collapsed _ _ _ _ _ _ collapses =>
        exact absurd ⟨sameExtension.dark, sameExtension.blind⟩ collapses
  · rw [onStop_of_ok assembled] at ran
    rw [ran] at outcome ⊢
    cases outcome with
    | up extension resource c topology _ _ _ answered _ _ logged ground =>
        obtain rfl : extension = some e := Except.ok.inj (answered.symm.trans loaded)
        have after : w.inUse = some e := Hub.told_of_ground Hub.inUse ground rfl rfl
        have loads : h.loads = 1 := loads_of_extensionAnswer loaded
        refine LibraryStep.taken e w fromLibrary (by rw [load, loaded]) ?_
          (by rw [logged.extensions, loads]) inUse after
        rw [library_of_trace logged.trace, library_upRecords, library, inUseEvents_of_inUse after]

/-- Coming up, or trying to. -/
theorem libraryStep_bootstrap (sameExtension : h.bootstrapState.SameExtension)
    (loader : h.loader = .library settings)
    (matching : h.storage.LibrariesMatch settings) :
    h.LibraryStep .bootstrap (Act.bootstrap h).2 := by
  cases up : h.initialized with
  | true =>
      rw [bootstrap_of_up up]
      have noted := onlyLogged_note .error "DisplayCore: init called on an initialized core" h
      exact LibraryStep.nothing _ _ ((library_of_trace noted.trace).trans (List.append_nil _))
        rfl rfl
  | false =>
      have inUse : h.inUse = none := by
        unfold Hub.inUse
        rw [up]
        rfl
      -- what loading gave decides what follows: no answer, no interface, or one
      rcases loading_cases loader with
        ⟨stop, loaded, library⟩ | ⟨loaded, library⟩ |
          ⟨e, i, made, loaded, opened, provides, library⟩
      · exact libraryStep_of_denied up inUse loaded (library matching)
      · exact libraryStep_of_none (bootstrapOutcome_bootstrap
          (heldIssued_of_providersBalanced sameExtension.providersBalanced) up)
          ⟨sameExtension.dark, sameExtension.blind⟩ inUse loaded library
      · obtain ⟨rfl, destroys⟩ := provides.seen matching
        have tag : e.versionTag = i.versionTag := by
          unfold Extension.versionTag
          rw [opened]
        rw [← tag] at library
        exact libraryStep_of_loaded sameExtension up inUse loaded ⟨i, opened, destroys⟩ library

/-! ### Everything else -/

/-- What libraries saw, how many interfaces were handed out, and the one that goes
    on. -/
def libraryView (h : Hub) : List LibraryEvent × Nat × Option Extension :=
  (h.journal.library, h.extensions, h.inUse)

theorem libraryView_of_onlyLogged {h h' : Hub} {l : List Record}
    (onlyLogged : h.OnlyLogged 0 0 l h')
    (silent : l.filterMap Record.library? = []) : h'.libraryView = h.libraryView := by
  have library := library_of_trace onlyLogged.trace
  rw [silent, List.append_nil] at library
  exact Prod.ext library (Prod.ext onlyLogged.extensions (inUse_of_ground onlyLogged.ground))

theorem ignoresService_libraryView : IgnoresService libraryView where
  noted level text h := libraryView_of_onlyLogged (onlyLogged_note level text h) rfl
  notedAll notes h := libraryView_of_onlyLogged (onlyLogged_noteAll notes h) rfl
  called h _ := libraryView_of_onlyLogged (onlyLogged_recordCall _ h) rfl
  read _ _ := rfl
  counted _ _ := rfl
  dealt _ _ _ := rfl

/-- What handlers are told is nothing to a library. -/
theorem libraryView_deliver (handler : Handler) (notice : Notice) (h : Hub) :
    (h.deliver handler notice).libraryView = h.libraryView :=
  libraryView_of_onlyLogged (l := [.delivery ⟨handler, notice⟩])
    ⟨⟨rfl, rfl, trace_add (.delivery ⟨handler, notice⟩) h _ rfl⟩, rfl, rfl⟩ rfl

theorem libraryStep_of_libraryView {h' : Hub} (step : Step)
    (same : h'.libraryView = h.libraryView) : h.LibraryStep step h' := by
  obtain ⟨library, rest⟩ := Prod.mk.inj same
  obtain ⟨extensions, inUse⟩ := Prod.mk.inj rest
  exact LibraryStep.nothing step h' library extensions inUse

end Hub

/-- The steps that leave an extension to the hub, and make neither the color
    service nor a report bring the program down. -/
def Step.keepsLoader : Step → Bool
  | loadExtension | setExtension _ => false
  | setFault .startColor (some .collapse) | setFault .queryStatus (some .collapse) => false
  | step => step.ordinary

theorem Step.ordinary_of_keepsLoader {step : Step} (keepsLoader : step.keepsLoader = true) :
    step.ordinary = true := by
  unfold Step.keepsLoader at keepsLoader
  split at keepsLoader
  · nomatch keepsLoader
  · nomatch keepsLoader
  · nomatch keepsLoader
  · nomatch keepsLoader
  · exact keepsLoader

/-- A fault that is set with care brings down the program in neither of the two. -/
theorem Step.calm_of_keepsLoader {call vital : Call} {stop : Option Stop}
    (keepsLoader : (Step.setFault call stop).keepsLoader = true)
    (among : vital = .startColor ∨ vital = .queryStatus) {faults : Call → Option Stop}
    (calm : faults vital ≠ some .collapse) :
    (if vital = call then stop else faults vital) ≠ some .collapse := by
  by_cases here : vital = call
  · subst here
    rw [if_pos rfl]
    rintro rfl
    rcases among with rfl | rfl
    · nomatch keepsLoader
    · nomatch keepsLoader
  · rwa [if_neg here]

namespace Session

variable {s : Session} {settings : ExtensionSettings} {step : Step} {steps : List Step}

theorem libraryStep_step (kept : s.hub.LibraryInvariant)
    (sameExtension : s.hub.bootstrapState.SameExtension)
    (loader : s.hub.loader = .library settings) (matching : s.hub.storage.LibrariesMatch settings)
    (keepsLoader : step.keepsLoader = true) : s.hub.LibraryStep step (s.step step).2.hub := by
  by_cases serving : step.serving = true
  · exact Hub.libraryStep_of_libraryView step
      (Hub.ignoresService_libraryView.step Hub.libraryView_deliver
      (fun _ _ _ _ => rfl) (fun _ _ => rfl) s serving)
  · cases step with
    | bootstrap => exact Hub.libraryStep_bootstrap sameExtension loader matching
    | teardown => exact Hub.libraryStep_teardown kept sameExtension
    | loadExtension => nomatch keepsLoader
    | setExtension outcome => nomatch keepsLoader
    | setFault call stop =>
        exact Hub.libraryStep_of_libraryView _
          (Hub.view_setFault (fun _ _ => rfl) (fun _ _ => rfl) s call stop)
    | setDisplays entries => exact Hub.libraryStep_of_libraryView _ rfl
    | setResource resource => exact Hub.libraryStep_of_libraryView _ rfl
    | changeFiles removes layout => exact Hub.libraryStep_of_libraryView _ rfl
    | restorePipe => exact Hub.libraryStep_of_libraryView _ rfl
    | _ => exact absurd (Step.ordinary_of_keepsLoader keepsLoader) serving

/-- Where an extension comes from is settled beforehand. -/
theorem loader_step (s : Session) (keepsLoader : step.keepsLoader = true) :
    (s.step step).2.hub.loader = s.hub.loader := by
  have ignores : Hub.IgnoresService Hub.loader :=
    ⟨⟨fun _ _ _ => rfl, fun _ _ => rfl, fun _ _ => rfl, fun _ _ => rfl, fun _ _ _ => rfl⟩,
      fun _ _ => rfl⟩
  have ignoring : Hub.IgnoresBootstrap Hub.loader :=
    ⟨fun _ _ _ => rfl, fun _ _ => rfl, fun _ _ => rfl, fun _ _ => rfl, fun _ _ => rfl,
      fun _ _ => rfl, fun _ _ => rfl, fun _ _ => rfl, fun _ _ => rfl, fun _ _ => rfl⟩
  by_cases serving : step.serving = true
  · exact ignores.step (fun _ _ _ => rfl) (fun _ _ _ _ => rfl) (fun _ _ => rfl) s serving
  · cases step with
    | bootstrap => exact ignoring.bootstrap ignores.queryStatus (fun _ _ => rfl) s.hub
    | teardown => exact ignoring.teardown (fun _ _ => rfl) s.hub
    | loadExtension => nomatch keepsLoader
    | setExtension outcome => nomatch keepsLoader
    | setFault call stop => exact Hub.view_setFault (fun _ _ => rfl) (fun _ _ => rfl) s call stop
    | setDisplays entries => rfl
    | setResource resource => rfl
    | changeFiles removes layout => rfl
    | restorePipe => rfl
    | _ => exact absurd (Step.ordinary_of_keepsLoader keepsLoader) serving

/-- At every point of a run, the libraries that could be opened there match. -/
def LibrariesMatch (s : Session) (settings : ExtensionSettings) (steps : List Step) : Prop :=
  ∀ early late, steps = early ++ late → (s.after early).hub.storage.LibrariesMatch settings

theorem LibrariesMatch.now (matching : s.LibrariesMatch settings steps) :
    s.hub.storage.LibrariesMatch settings :=
  matching [] steps rfl

theorem LibrariesMatch.later (matching : s.LibrariesMatch settings (step :: steps)) :
    (s.step step).2.LibrariesMatch settings steps :=
  fun early late whole => matching (step :: early) late (congrArg (step :: ·) whole)

theorem sameExtension_after (sameExtension : s.hub.bootstrapState.SameExtension)
    (keepsLoader : ∀ step ∈ steps, step.keepsLoader = true) :
    (s.after steps).hub.bootstrapState.SameExtension := by
  refine stands_after (fun step => step.keepsLoader = true)
    BootstrapState.SameExtension.providersBalanced
    BootstrapState.SameExtension.transition ?_ ?_ ?_ sameExtension
    (fun step among => Step.ordinary_of_keepsLoader (keepsLoader step among)) keepsLoader
  · rintro a resource - ⟨⟨balanced, known, dealt⟩, same, down, dark, blind⟩
    exact ⟨⟨balanced, known, dealt⟩, same, down, dark, blind⟩
  · rintro a f - ⟨⟨balanced, known, dealt⟩, same, down, dark, blind⟩
    exact ⟨⟨balanced, known, dealt⟩, same, down, dark, blind⟩
  · rintro a call stop allowed ⟨⟨balanced, known, dealt⟩, same, down, dark, blind⟩
    exact ⟨⟨balanced, known, dealt⟩, same, down,
      Step.calm_of_keepsLoader allowed (Or.inl rfl) dark,
      Step.calm_of_keepsLoader allowed (Or.inr rfl) blind⟩

/-- The invariant holds after any run that keeps the loader, and wherever an
    extension comes from, it comes from there still. -/
theorem libraryInvariant_after (kept : s.hub.LibraryInvariant)
    (sameExtension : s.hub.bootstrapState.SameExtension)
    (loader : s.hub.loader = .library settings) (matching : s.LibrariesMatch settings steps)
    (keepsLoader : ∀ step ∈ steps, step.keepsLoader = true) :
    (s.after steps).hub.LibraryInvariant ∧ (s.after steps).hub.loader = .library settings := by
  induction steps generalizing s with
  | nil => exact ⟨kept, loader⟩
  | cons step rest ih =>
      -- who holds the interface after the step is told by the state of the hub then
      have first := keepsLoader step List.mem_cons_self
      have later : (s.after [step]).hub.bootstrapState.SameExtension :=
        sameExtension_after sameExtension fun other among => List.mem_singleton.mp among ▸ first
      exact ih (kept.step (libraryStep_step kept sameExtension loader matching.now first)
          (Hub.core_of_sameExtension later) (Hub.compositor_of_sameExtension later))
        later ((loader_step s first).trans loader) matching.later
        fun other among => keepsLoader other (List.mem_cons_of_mem _ among)

end Session

/-! ### From the start -/

/-- A hub that nobody has used, with a library to load its extension from. -/
structure Hub.UnusedWithLibrary (settings : ExtensionSettings) (h : Hub) :
    Prop extends h.Fresh where
  loader : h.loader = .library settings
  noCollapse : h.NoOptionalCollapse
  even : h.providers = h.journal.calls.count .destroyProvider
  unseen : h.journal.library = []
  noneIssued : h.extensions = 0

namespace Hub

variable {h : Hub} {settings : ExtensionSettings}

/-- Every hub that settings ask for is one, if they enable an extension. -/
theorem unusedWithLibrary_configured {s : Settings} (enabled : s.extension.enabled = true)
    (storage : Storage) (override : Option String) (notes : List Note) :
    ((s.hub storage override).noteAll notes).UnusedWithLibrary s.extension where
  compositor := rfl
  core := rfl
  slots := rfl
  outstanding := rfl
  loader := by
    change s.extension.loader = _
    unfold ExtensionSettings.loader
    rw [enabled]
    rfl
  noCollapse := ⟨nofun, nofun⟩
  even := by
    rw [count_calls, (onlyLogged_noteAll notes (s.hub storage override)).trace, List.append_nil]
    rfl
  unseen := library_of_trace (onlyLogged_noteAll notes (s.hub storage override)).trace
  noneIssued := rfl

theorem sameExtension_of_unused (unused : h.UnusedWithLibrary settings) :
    h.bootstrapState.SameExtension := by
  have core : h.coreButReport = {} := by
    unfold coreButReport initialized
    rw [unused.core]
    rfl
  refine ⟨providersBalanced_of_fresh unused.toFresh unused.even, ?_, fun _ => ?_,
    unused.noCollapse.1, unused.noCollapse.2⟩
  · change h.compositor.setup.bind Setup.extension = h.coreButReport.extension
    rw [unused.compositor, core]
    rfl
  · change h.coreButReport.extension = none
    rw [core]

theorem libraryInvariant_of_unused (unused : h.UnusedWithLibrary settings) :
    h.LibraryInvariant := by
  have sameExtension := sameExtension_of_unused unused
  have inUse : h.inUse = none := by
    rw [← core_of_sameExtension sameExtension, unused.core]
  refine ⟨?_, ⟨[], ?_⟩, fun e given => absurd (inUse.symm.trans given) nofun,
    core_of_sameExtension sameExtension, compositor_of_sameExtension sameExtension⟩
  · rw [toNat_inUse, inUse, unused.unseen, unused.noneIssued]
    rfl
  · rw [unused.unseen, inUseEvents_of_none inUse]
    rfl

end Hub

namespace Session

variable {s : Session} {settings : ExtensionSettings} {steps : List Step}

/-- Over any run that keeps the loader, an interface that was handed out goes on exactly
    while the hub is up and has one, and what every step does to libraries is
    `Hub.LibraryStep`. What the libraries answer is up to them, and they may be
    replaced at any time. -/
theorem libraryStep_after (unused : s.hub.UnusedWithLibrary settings)
    (matching : s.LibrariesMatch settings steps)
    (keepsLoader : ∀ step ∈ steps, step.keepsLoader = true) :
    (s.after steps).hub.LibraryInvariant ∧ ∀ step, step.keepsLoader = true →
      (s.after steps).hub.LibraryStep step ((s.after steps).step step).2.hub := by
  have sameExtension := Hub.sameExtension_of_unused unused
  obtain ⟨kept, loader⟩ :=
    libraryInvariant_after (Hub.libraryInvariant_of_unused unused) sameExtension
    unused.loader matching keepsLoader
  exact ⟨kept, fun step next =>
    libraryStep_step kept (sameExtension_after sameExtension keepsLoader) loader
    (matching steps [] (List.append_nil _).symm) next⟩

/-- Settings for a library with names of its own. -/
def vendorSettings : ExtensionSettings where
  library := "/ext.so"
  createSymbol := "vendor_open"
  destroySymbol := "vendor_close"

/-- A session whose extension is in such a library. -/
def vendorSession : Session where
  rig := .configured
  hub := Settings.hub { extension := vendorSettings, hardware := { source := .fixed } }
    { items := [(["ext.so"], .library (.refusingZeroTag "vendor_open" "vendor_close"))] } none

/-- The hub fails to come up, comes up, goes down, and finds a library that has
    nothing to call. -/
def vendorRun : List Step :=
  [.setFault .queryResource (some (.failure .memory)), .bootstrap,
    .setFault .queryResource none, .bootstrap, .bootstrap, .teardown, .teardown,
    .changeFiles [] [("/ext.so", .library ⟨fun _ => none⟩)], .bootstrap]

theorem libraryStep_after_vendorRun : vendorSession.hub.UnusedWithLibrary vendorSettings ∧
    vendorSession.LibrariesMatch vendorSettings vendorRun ∧
    (∀ step ∈ vendorRun, step.keepsLoader = true) ∧
    (vendorSession.after vendorRun).hub.journal.library =
      [.load, .create vendorSettings.versionTag, .destroy (-5), .unload,
        .load, .create vendorSettings.versionTag, .destroy (-5), .unload, .load, .unload] ∧
    (vendorSession.after vendorRun).hub.extensions = 2 ∧
    (vendorSession.after vendorRun).hub.LibraryInvariant ∧ ∀ step, step.keepsLoader = true →
      (vendorSession.after vendorRun).hub.LibraryStep step
      ((vendorSession.after vendorRun).step step).2.hub := by
  have unused : vendorSession.hub.UnusedWithLibrary vendorSettings :=
    Hub.unusedWithLibrary_configured
    (s := { extension := vendorSettings, hardware := { source := .fixed } })
      rfl _ none []
  have keepsLoader : ∀ step ∈ vendorRun, step.keepsLoader = true := by decide
  -- there is one file all the time, and it is replaced by the last step but one
  have first : vendorSession.hub.storage.LibrariesMatch vendorSettings := by
    refine Storage.librariesMatch_of_items fun item among library holds => ?_
    obtain rfl := List.mem_singleton.mp among
    obtain rfl := Item.library.inj holds
    exact Library.matches_refusingZeroTag (s := vendorSettings) (by decide)
  have last : (vendorSession.after vendorRun).hub.storage.LibrariesMatch vendorSettings := by
    refine Storage.librariesMatch_of_items fun item among library holds => ?_
    obtain rfl := List.mem_singleton.mp among
    obtain rfl := Item.library.inj holds
    exact Library.matches_empty vendorSettings
  have matching : vendorSession.LibrariesMatch vendorSettings vendorRun := by
    intro early late whole
    have part : early = vendorRun.take early.length := by rw [whole, List.take_left]
    rw [part]
    match early.length with
    | 0 | 1 | 2 | 3 | 4 | 5 | 6 | 7 => exact first
    | 8 => exact last
    | n + 9 =>
        rw [List.take_of_length_le (show vendorRun.length ≤ n + 9 from Nat.le_add_left 9 n)]
        exact last
  exact ⟨unused, matching, keepsLoader, by decide +kernel, by decide +kernel,
    libraryStep_after unused matching keepsLoader⟩

end Session

end DisplayHub
