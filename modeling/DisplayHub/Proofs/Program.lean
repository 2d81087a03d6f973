import DisplayHub.Proofs.Tour

/-!
# The Program

What becomes of a run, from its settings to its exit.

A run is on files that it looks at only once or twice, and what they say must be the same
each time: the report of the hub that has just come up is the one against which displays
are created, and each of them asks for another. Settings that list the displays give that
for nothing. Where connector entries are scanned, it takes files that stay as they are
when they are opened (`Storage.Unchanging`).

If the hub comes up at all, the rest is the tour, and what is left to say is about its
end. Of what the program acquired, the displays went before the hub does, and the
extension, if there is one, goes with it: the compositor and the core hold the same one,
so it is destroyed when the second of them lets it go. After that nothing is left for the
hub to return when it is let go itself.

## Main definitions

* `Storage.Unchanging`: Files that stay as they are.
* `HardwareSettings.reports`: What the hardware reports that settings describe.
* `Settings.start`: The hub that the program begins with.
* `Settings.Completes`: What becomes of a run.

## Theorems

* `Connector.storage_scan`: A scan leaves such files alone.
* `Settings.alwaysReports_start`: The report stays the same.
* `Settings.exists_tour`: A hub that has come up can be gone through.
* `Hub.library_teardown`: What a library sees of going down.
* `Settings.parted_of_tour`: What a library sees of the whole run.
* `runCommand_of_loaded`: A run is the run of the hub that its settings describe.
* `Tour.close_teardown`: Nothing is left to be returned.
* `completes_runCommand`: Every run whose hub comes up.
-/

namespace DisplayHub

/-! ### Files that stay -/

namespace Storage

/-- No file takes others along, or itself, when it is opened. -/
def Unchanging (s : Storage) : Prop :=
  ∀ path, (s.readText path).2 = s

variable {s : Storage} {path : String}

/-- Only one sort of file would. -/
theorem unchanging_of_items
    (plain : ∀ item ∈ s.items, ∀ text removes, item.2 ≠ .trap text removes) : s.Unchanging := by
  intro path
  unfold readText
  cases found : s.item? path with
  | error f => rfl
  | ok item =>
      cases item with
      | trap text removes =>
          obtain ⟨row, among⟩ := mem_of_item found nofun
          exact absurd rfl (plain _ among text removes)
      | directory => rfl
      | listener => rfl
      | library _ => rfl
      | file text => cases text <;> rfl

/-- What is in a directory can be listed. -/
theorem list_of_isDirectory (there : s.isDirectory path = true) :
    ∃ names, s.list path = .ok names := by
  have found : s.item? path = .ok .directory := by
    unfold isDirectory at there
    split at there
    · assumption
    · nomatch there
  obtain ⟨row, followed, stands⟩ := stands_of_item found
  unfold list
  rw [followed]
  change ∃ names, (if s.at? row ≠ some .directory then _ else _ :
    Except OsFault (List String)) = .ok names
  rw [if_neg (not_not_intro stands)]
  exact ⟨_, rfl⟩

end Storage

namespace Connector

variable {s : Storage}

theorem storage_readTrimmed (still : s.Unchanging) (path : String) :
    (readTrimmed s path).2 = s := by
  have same := still path
  unfold readTrimmed
  rcases reading : s.readText path with ⟨_ | text, after⟩
  all_goals
    rw [reading] at same
    exact same

theorem storage_readEntry {p : Progress} (still : p.storage.Unchanging) (root entry : String) :
    (readEntry root p entry).storage = p.storage := by
  unfold readEntry
  split
  · rfl
  · split
    · rfl
    · unfold readFiles
      dsimp only
      rw [storage_readTrimmed still, storage_readTrimmed still]

/-- A scan leaves files alone that stay as they are. -/
theorem storage_scan (still : s.Unchanging) (root : String) : (scan s root).2.1 = s := by
  have through (names : List String) : ∀ p : Progress, p.storage = s →
      (names.foldl (readEntry root) p).storage = s := by
    induction names with
    | nil => exact fun _ same => same
    | cons name rest ih =>
        intro p same
        exact ih _ ((storage_readEntry (same ▸ still) root name).trans same)
  unfold scan
  cases s.list root with
  | error fault => rfl
  | ok entries => exact through _ { storage := s } rfl

end Connector

/-! ### What the hardware reports -/

/-- What the hardware reports that settings describe, among given files. -/
def HardwareSettings.reports (s : HardwareSettings) (storage : Storage) :
    Except OsFault Topology :=
  match s.source with
  | .fixed => .ok (.ofList s.displays)
  | .connectors => (Connector.scan storage s.connectorRoot).1

/-- The hub that the program begins with. -/
def Settings.start (settings : Settings) (loading : Loading) (override : Option String) : Hub :=
  { (settings.hub loading.storage override).noteAll loading.notes with pipeIgnored := true }

namespace Hub

variable {h : Hub} {t : Topology}

/-- A description is reported as it stands. -/
theorem report_described {entries : List Entry} (able : h.faults .queryStatus = none)
    (listing : h.hardware.listing = .described entries) :
    h.report = .ok (.ofList entries) ∧ h.asked.storage = h.storage := by
  have called : (h.recordCall .queryStatus).hardware = h.hardware := rfl
  unfold report asked Act.queryStatus
  rw [bind_apply, Act.visit_apply, able]
  dsimp only
  rw [get_bind, called, listing]
  exact ⟨rfl, rfl⟩

/-- Connector entries are reported as the scan finds them. -/
theorem report_connectors {root : String} (able : h.faults .queryStatus = none)
    (listing : h.hardware.listing = .connectors root)
    (scanned : (Connector.scan h.storage root).1 = .ok t) :
    h.report = .ok t ∧ h.asked.storage = (Connector.scan h.storage root).2.1 := by
  have called : (h.recordCall .queryStatus).hardware = h.hardware := rfl
  have files : (h.recordCall .queryStatus).storage = h.storage := rfl
  unfold report asked Act.queryStatus
  rw [bind_apply, Act.visit_apply, able]
  dsimp only
  rw [get_bind, called, listing]
  dsimp only
  rw [Act.scanConnectors_apply, files, scanned]
  exact ⟨rfl, rfl⟩

end Hub

namespace Settings

variable {settings : Settings} {loading : Loading} {override : Option String} {t : Topology}

/-- Where there is a report, the hub gets it, and gets it again. -/
theorem alwaysReports_start
    (still : settings.hardware.source = .connectors → loading.storage.Unchanging)
    (reports : settings.hardware.reports loading.storage = .ok t) :
    (settings.start loading override).AlwaysReports t := by
  let h := settings.start loading override
  obtain ⟨report, storage⟩ : h.report = .ok t ∧ h.asked.storage = h.storage := by
    have listing : h.hardware.listing = match settings.hardware.source with
      | .fixed => .described settings.hardware.displays
      | .connectors => .connectors settings.hardware.connectorRoot := rfl
    unfold HardwareSettings.reports at reports
    -- all that a report could change is the files, and they stay as they are
    cases source : settings.hardware.source with
    | fixed =>
        rw [source] at listing reports
        obtain rfl := Except.ok.inj reports
        exact Hub.report_described rfl listing
    | connectors =>
        rw [source] at listing reports
        obtain ⟨report, storage⟩ := Hub.report_connectors (h := h) rfl listing reports
        exact ⟨report, storage.trans (Connector.storage_scan (still source) _)⟩
  have ground : h.asked.ground = h.dealing h.compositor h.allocator := h.ground_asked
  exact Hub.alwaysReports_of_still (Hub.reportInputs_of_ground ground storage) report

/-! ### Coming up -/

/-- Nothing was seen of a library before the hub comes up. -/
theorem library_start : (settings.start loading override).journal.library = [] :=
  congrArg Prod.fst (Hub.ignoresService_libraryView.notedAll loading.notes
  (settings.hub loading.storage override))

/-- What a hub that has come up has. -/
theorem lasting_of_up {u : Hub}
    (ran : Act.bootstrap (settings.start loading override) = (.ok (), u)) : ∃ extension,
    (settings.start loading override).bootstrapAnswer = .ok () ∧
    (settings.start loading override).extensionAnswer = .ok extension ∧
    u.lasting =
      { library := (settings.start loading override).loading.filterMap Record.library?
        core := ⟨extension, some 0, some settings.hardware.resource, {}⟩
        setup := some ⟨settings.hardware.resource, extension⟩
        faults := fun _ => none
        hardware := settings.hardware.hardware
        slots := [] } := by
  have heldIssued : (settings.start loading override).HeldIssued := fun e held => nomatch held
  have outcome := Hub.bootstrapOutcome_bootstrap heldIssued rfl
  rw [ran] at outcome
  -- a hub that is up got everything it asked for, and what it got is in its ground
  cases outcome with
  | up extension resource c topology _ answer noCollapse loaded described started logged ground =>
      obtain rfl : settings.hardware.resource = resource := Except.ok.inj described
      obtain ⟨-, -, rfl⟩ := Compositor.start_eq_ok started
      have library := Hub.library_of_trace logged.trace
      rw [library_start, List.nil_append, Hub.library_upRecords] at library
      refine ⟨extension, answer, loaded, ?_⟩
      have rest := congrArg (fun h : Hub => { h.lasting with library := u.journal.library }) ground
      rw [← library]
      exact rest

end Settings

namespace Hub

/-- A hub that comes up has somebody to ask. -/
theorem providerAnswer_of_bootstrapAnswer {h : Hub} (answer : h.bootstrapAnswer = .ok ()) :
    h.providerAnswer = .ok () := by
  unfold bootstrapAnswer at answer
  cases loaded : h.extensionAnswer with
  | error stop =>
      rw [loaded] at answer
      nomatch answer
  | ok extension =>
      cases provided : h.providerAnswer with
      | error stop =>
          rw [loaded, provided] at answer
          nomatch answer
      | ok _ => rfl

end Hub

namespace Settings

variable {settings : Settings} {loading : Loading} {override : Option String} {t : Topology}

/-- There is a report where somebody can be asked. -/
theorem exists_reports
    (provided : (settings.start loading override).providerAnswer = .ok ()) :
    ∃ t, settings.hardware.reports loading.storage = .ok t := by
  unfold HardwareSettings.reports
  cases source : settings.hardware.source with
  | fixed => exact ⟨_, rfl⟩
  | connectors =>
      have listing : (settings.start loading override).hardware.listing =
          .connectors settings.hardware.connectorRoot := by
        change (match settings.hardware.source with
          | .fixed => Listing.described settings.hardware.displays
          | .connectors => .connectors settings.hardware.connectorRoot) = _
        rw [source]
      unfold Hub.providerAnswer at provided
      rw [listing] at provided
      change (if loading.storage.isDirectory settings.hardware.connectorRoot = true then .ok ()
        else _ : Except Stop Unit) = _ at provided
      -- a provider wants to see the directory, and that is all that a scan needs
      by_cases there : loading.storage.isDirectory settings.hardware.connectorRoot = true
      · obtain ⟨names, listed⟩ := Storage.list_of_isDirectory there
        dsimp only
        unfold Connector.scan
        rw [listed]
        exact ⟨_, rfl⟩
      · rw [if_neg there] at provided
        nomatch provided

/-- A hub that has come up can be gone through. -/
theorem exists_tour {u : Hub}
    (still : settings.hardware.source = .connectors → loading.storage.Unchanging)
    (ran : Act.bootstrap (settings.start loading override) = (.ok (), u)) :
    ∃ t, settings.hardware.reports loading.storage = .ok t ∧
      Nonempty (Tour t settings.hardware.resource u) := by
  obtain ⟨extension, answer, -, lasting⟩ := lasting_of_up ran
  obtain ⟨t, reports⟩ := exists_reports (Hub.providerAnswer_of_bootstrapAnswer answer)
  have known : u.core.resource = some settings.hardware.resource :=
    congrArg (fun l : Lasting => l.core.resource) lasting
  obtain ⟨operational, dealtTo⟩ :=
    Hub.operational_bootstrap ⟨rfl, rfl, rfl⟩ (alwaysReports_start still reports) rfl ran known
  exact ⟨t, reports, operational.exists_tour dealtTo known
    (congrFun (congrArg Lasting.faults lasting) _)
    (congrArg (fun l : Lasting => l.hardware.resource) lasting)⟩

end Settings

/-! ### The extension -/

namespace Settings

variable {settings : Settings} {loading : Loading} {override : Option String}
  {extension : Option Extension}

/-- What libraries see of a run. If it has an extension, a library was loaded, each of the
    entry points that the settings name was called once, one to create the interface and one
    to destroy it, and the library was unloaded in the end. -/
def Unloads (settings : Settings) (storage : Storage) (extension : Option Extension)
    (seen : List LibraryEvent) : Prop :=
  match extension with
  | none => seen = []
  | some e => ∃ i made, e.opened = some i ∧ settings.extension.Provides storage i made ∧
    seen = [.load, made, i.destruction.seen, .unload]

/-- Where the entry points are what they are taken for, that is one whole episode of the
    library's life, in which an interface was created and destroyed. -/
theorem Unloads.episode {storage : Storage} {e : Extension} {seen : List LibraryEvent}
    (unloads : settings.Unloads storage (some e) seen)
    (matching : storage.LibrariesMatch settings.extension) :
    ∃ status, seen = (Episode.provided e.versionTag status).events := by
  obtain ⟨i, made, opened, provides, rfl⟩ := unloads
  obtain ⟨rfl, destroys⟩ := provides.seen matching
  have tag : e.versionTag = i.versionTag := by
    unfold Extension.versionTag
    rw [opened]
  rw [destroys, ← tag]
  exact ⟨i.destruction.status, rfl⟩

/-- An extension that a run has is from a library, which saw its loading. -/
theorem library_loading
    (loaded : (settings.start loading override).extensionAnswer = .ok extension) :
    (extension = none →
      (settings.start loading override).loading.filterMap Record.library? = []) ∧
    ∀ e, extension = some e → ∃ i made, e.opened = some i ∧
      settings.extension.Provides loading.storage i made ∧
      (settings.start loading override).loading.filterMap Record.library? = [.load, made] := by
  have loader : (settings.start loading override).loader =
      if settings.extension.enabled = true then .library settings.extension else .disabled := rfl
  -- without a loader there is no library that could see anything
  by_cases enabled : settings.extension.enabled = true
  · rw [if_pos enabled] at loader
    rcases Hub.loading_cases loader with
      ⟨stop, refused, -⟩ | ⟨answer, seen⟩ | ⟨e, i, made, answer, opened, provides, seen⟩
    · nomatch refused.symm.trans loaded
    · obtain rfl := Except.ok.inj (answer.symm.trans loaded)
      exact ⟨fun _ => seen, nofun⟩
    · obtain rfl := Except.ok.inj (answer.symm.trans loaded)
      refine ⟨nofun, ?_⟩
      rintro _ ⟨⟩
      exact ⟨i, made, opened, provides, seen⟩
  · have able : (settings.start loading override).barred .loadExtension = .ok () := rfl
    rw [if_neg enabled] at loader
    unfold Hub.extensionAnswer at loaded
    unfold Hub.loading
    rw [able, loader] at loaded ⊢
    obtain rfl := Except.ok.inj loaded
    exact ⟨fun _ => rfl, nofun⟩

end Settings

namespace Hub

variable {h : Hub}

/-- What a library sees of going down, where the compositor holds what the core does. -/
theorem library_teardown (same : h.compositor.extension? = h.core.extension) :
    h.teardown.journal.library = h.journal.library ++
      ((h.core.extension.map Extension.destroyRecords).getD []).filterMap Record.library? := by
  rw [library_of_trace (logged_teardown h).trace]
  unfold downRecords
  rw [same]
  -- nothing is seen of calls
  have silent (call : Call) (l : List Record) :
      (.call call :: l).filterMap Record.library? = l.filterMap Record.library? :=
    List.filterMap_cons_none rfl
  -- what the compositor lets go the core still has, so it is destroyed once, at the end
  have together : Extension.letGoRecords h.core.extension none h.core.extension = [] := by
    cases h.core.extension <;> simp [Extension.letGoRecords]
  have last : Extension.letGoRecords none none h.core.extension =
      (h.core.extension.map Extension.destroyRecords).getD [] := by
    cases h.core.extension <;> rfl
  rw [together, last, silent, silent, List.nil_append]
  cases h.initialized with
  | false => rfl
  | true => exact congrArg (h.journal.library ++ ·) (silent _ _)

/-- A hub that is down has nothing to return when it is let go. -/
theorem close_of_down (slots : h.slots = []) (core : h.core = {})
    (setup : h.compositor.setup = none) : h.close = h := by
  obtain ⟨_, _, _, _, _, _, _, ⟨_, _, _, _⟩, _, _, _, _, _, _, _⟩ := h
  cases slots
  cases core
  cases setup
  rfl

end Hub

/-! ### The whole run -/

/-- What becomes of a run whose hub comes up. -/
structure Settings.Completes (settings : Settings) (start : Hub) (report : Report) : Prop where
  /-- It goes along the tour of what the hardware reports, prints what there is, and takes
      the hub down when nobody has anything of it any more. -/
  went : ∃ t, settings.hardware.reports start.storage = .ok t ∧
    ∃ stations : Tour t settings.hardware.resource (Act.bootstrap start).2,
      (runHub start).2 = stations.emptied.teardown.note .info "display-core exited successfully." ∧
      report.output = tourLines t settings.hardware.resource
        (Act.bootstrap start).2.core.extension.isSome
  /-- No display is registered once the hub itself was let go. -/
  idle : (runHub start).2.close.compositor.active = []
  /-- No buffer is outstanding. -/
  returned : (runHub start).2.close.allocator.outstanding = 0
  /-- An extension was loaded, destroyed and unloaded, if there was one, each once. -/
  unloaded : settings.Unloads start.storage (Act.bootstrap start).2.core.extension
    (runHub start).2.close.journal.library
  /-- Its library saw just that, if its entry points are what they are taken for. -/
  episode : start.storage.LibrariesMatch settings.extension →
    ∀ e, (Act.bootstrap start).2.core.extension = some e → ∃ status,
      (runHub start).2.close.journal.library = (Episode.provided e.versionTag status).events
  exit : report.exitCode = 0

namespace Settings

variable {settings : Settings} {loading : Loading} {override : Option String}

/-- A hub that has gone the way of the tour has nothing left, and its extension was
    destroyed with it. -/
theorem parted_of_tour {t : Topology} {u : Hub}
    (ran : Act.bootstrap (settings.start loading override) = (.ok (), u))
    (stations : Tour t settings.hardware.resource u) :
    stations.emptied.teardown.slots = [] ∧ settings.Unloads loading.storage u.core.extension
      stations.emptied.teardown.journal.library := by
  obtain ⟨extension, -, loaded, begun⟩ := lasting_of_up ran
  -- whatever the tour did, it kept what was there when the hub had come up
  have lasting := stations.lasting.trans begun
  have known : u.core.extension = extension :=
    congrArg (fun l : Lasting => l.core.extension) begun
  have core : stations.emptied.core.extension = extension :=
    congrArg (fun l : Lasting => l.core.extension) lasting
  have compositor : stations.emptied.compositor.extension? = extension :=
    congrArg (fun l : Lasting => l.setup.bind Setup.extension) lasting
  have slots : stations.emptied.slots = [] := congrArg Lasting.slots lasting
  have library := congrArg Lasting.library lasting
  obtain ⟨silent, saw⟩ := library_loading loaded
  refine ⟨?_, ?_⟩
  · exact Hub.told_of_ground Hub.slots (Hub.ground_teardown stations.emptied) rfl slots
  · have parted := Hub.library_teardown (compositor.trans core.symm)
    change stations.emptied.journal.library = _ at library
    rw [library, core] at parted
    rw [parted, known]
    cases extension with
    | none =>
        dsimp only
        rw [silent rfl]
        rfl
    | some e =>
        obtain ⟨i, made, opened, provides, created⟩ := saw e rfl
        refine ⟨i, made, opened, provides, ?_⟩
        unfold Extension.destroyRecords
        dsimp only [Option.map_some, Option.getD_some]
        rw [created, opened]
        rfl

end Settings

/-- A run on settings is the run of the hub that they describe, and the notes are all that is
    taken from its end. -/
theorem runCommand_of_loaded {arguments : List String} {storage : Storage}
    {settingsPath override given : Option String} {settings : Settings} {loading : Loading}
    (asked : Command.ofArguments none arguments = .run given)
    (load : Settings.load storage (Settings.path? given settingsPath) = loading)
    (loaded : loading.result = .ok settings) :
    runCommand arguments storage settingsPath override =
      { (runHub (settings.start loading override)).1 with
        notes := (runHub (settings.start loading override)).2.close.journal.notes } := by
  unfold runCommand
  rw [asked]
  dsimp only
  rw [load, loaded]
  rfl

/-- A hub that was taken down after the tour has nothing to return when it is let go, and
    nothing is out. -/
theorem Tour.close_teardown {t : Topology} {r : Resource} {u : Hub} (stations : Tour t r u)
    (slots : stations.emptied.teardown.slots = []) (level : Level) (text : String) :
    let last := stations.emptied.teardown.note level text
    last.close = last ∧ last.compositor.active = [] ∧ last.allocator.outstanding = 0 := by
  intro last
  have ground : last.ground = _ := Hub.ground_teardown stations.emptied
  have core : last.core = {} := Hub.told_of_ground Hub.core ground rfl rfl
  have setup : last.compositor.setup = none :=
    Hub.told_of_ground (fun h : Hub => h.compositor.setup) ground rfl rfl
  have active : last.compositor.active = [] :=
    Hub.told_of_ground (fun h : Hub => h.compositor.active) ground rfl rfl
  have outstanding : last.allocator.outstanding = 0 :=
    Hub.told_of_ground (fun h : Hub => h.allocator.outstanding) ground rfl stations.empty.2
  exact ⟨Hub.close_of_down slots core setup, active, outstanding⟩

/-- Whatever the settings say and the hardware reports, a run whose hub comes up goes on to
    its end. Every entry has one turn, and those that are chosen get a display, which is
    switched on and destroyed again; nothing is left behind, and the program exits
    without an error. -/
theorem completes_runCommand {arguments : List String} {storage : Storage}
    {settingsPath override given : Option String} {settings : Settings} {loading : Loading}
    (asked : Command.ofArguments none arguments = .run given)
    (load : Settings.load storage (Settings.path? given settingsPath) = loading)
    (loaded : loading.result = .ok settings)
    (still : settings.hardware.source = .connectors → loading.storage.Unchanging)
    (up : (Act.bootstrap (settings.start loading override)).1 = .ok ()) :
    settings.Completes (settings.start loading override)
      (runCommand arguments storage settingsPath override) := by
  rcases ran : Act.bootstrap (settings.start loading override) with ⟨answer, u⟩
  rw [ran] at up
  obtain rfl : answer = .ok () := up
  obtain ⟨t, reports, ⟨stations⟩⟩ := Settings.exists_tour still ran
  obtain ⟨slots, unloads⟩ := Settings.parted_of_tour ran stations
  let last := stations.emptied.teardown.note .info "display-core exited successfully."
  obtain ⟨closed, active, outstanding⟩ : last.close = last ∧ _ :=
    stations.close_teardown slots _ _
  -- the whole run is coming up, the tour, and going down
  have whole : runHub (settings.start loading override) =
      ({ output := tourLines t settings.hardware.resource u.core.extension.isSome }, last) := by
    unfold runHub
    rw [ran]
    dsimp only
    rw [stations.run]
  -- the last note is nothing to a library
  have seen : last.journal.library = stations.emptied.teardown.journal.library :=
    congrArg Prod.fst (Hub.ignoresService_libraryView.noted _ _ _)
  rw [← seen] at unloads
  rw [runCommand_of_loaded asked load loaded, whole]
  refine ⟨⟨t, reports, ?_⟩, ?_, ?_, ?_, ?_, rfl⟩
  · rw [whole, ran]
    exact ⟨stations, rfl, rfl⟩
  · rw [whole, closed]
    exact active
  · rw [whole, closed]
    exact outstanding
  · rw [whole, closed, ran]
    exact unloads
  · rw [whole, closed, ran]
    rintro matching e held
    rw [held] at unloads
    exact unloads.episode matching

/-- A machine with an extension library and five connectors, of which one has nothing
    plugged in. -/
def Storage.lobby : Storage where
  items := [
    (["usr"], .directory), (["usr", "lib"], .directory),
    (["usr", "lib", "display-core"], .directory),
    (["usr", "lib", "display-core", "libdisplay-extension.so"],
      .library (.refusingZeroTag "CreateExtensionInterface" "DestroyExtensionInterface")),
    (["sys"], .directory), (["sys", "class"], .directory), (["sys", "class", "drm"], .directory),
    (["sys", "class", "drm", "card0-DP-1"], .directory),
    (["sys", "class", "drm", "card0-DP-1", "status"], .file (some "connected\n")),
    (["sys", "class", "drm", "card0-DP-2"], .directory),
    (["sys", "class", "drm", "card0-DP-2", "status"], .file (some "connected\n")),
    (["sys", "class", "drm", "card0-HDMI-A-1"], .directory),
    (["sys", "class", "drm", "card0-HDMI-A-1", "status"], .file (some "disconnected\n")),
    (["sys", "class", "drm", "card0-Writeback-1"], .directory),
    (["sys", "class", "drm", "card0-Writeback-1", "status"], .file (some "unknown\n")),
    (["sys", "class", "drm", "card0-eDP-1"], .directory),
    (["sys", "class", "drm", "card0-eDP-1", "status"], .file (some "connected\n"))]

/-- Without any settings the program finds its way there, with the extension. -/
theorem completes_runCommand_lobby :
    (Act.bootstrap (({} : Settings).start (Settings.load .lobby none) none)).1 = .ok () ∧
    (Act.bootstrap (({} : Settings).start (Settings.load .lobby none)
      none)).2.core.extension.isSome = true ∧
    ({} : Settings).Completes (({} : Settings).start (Settings.load .lobby none) none)
      (runCommand [] .lobby none none) := by
  have still : Storage.lobby.Unchanging :=
    Storage.unchanging_of_items (by simp [Storage.lobby])
  have up : (Act.bootstrap (({} : Settings).start (Settings.load .lobby none) none)).1 =
      .ok () := by
    decide +kernel
  exact ⟨up, by decide +kernel, completes_runCommand rfl rfl rfl (fun _ => still) up⟩

end DisplayHub
