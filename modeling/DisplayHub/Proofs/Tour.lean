import DisplayHub.Proofs.LibraryUse
import DisplayHub.Proofs.Notification
import DisplayHub.Proofs.Selection

/-!
# The Tour

What the program does with a hub that is up, station by station.

It asks for a report, gives every entry its turn, switches on every display that came of
it, says what there is, and destroys the displays again. At each of these things it is
ready to be refused, and only one refusal can ever come about: that a display is not
created. Switching a display on needs that it is in service, and destroying it needs that
nothing holds it back. Both are true of whatever was just created, and neither changes
before its turn comes. So the other branches are dead, whatever the report and however
long it is.

The stations are kept in one record (`Tour`), each with what led there. That there is one
for every hub that can go on is `Hub.Operational.exists_tour`, and that the program goes along it is
`Tour.run`.

Nothing that is done on the way touches what the hub acquired when it came up, so it has
it still when it goes down (`Hub.lasting`).

## Main definitions

* `Hub.SwitchesOn`, `Hub.Destroys`: A display is switched on, and destroyed.
* `Hub.lasting`: What lasts from coming up to going down.
* `Tour`: The stations of the program.
* `tourLines`: What is printed.

## Theorems

* `Hub.exists_switchesOn`, `Hub.switchOn_of_inTurn`: Every display is switched on.
* `Hub.DealtTo.exists_destroys`, `Hub.destroyAll_of_inTurn`: Every display is destroyed.
* `Hub.Operational.exists_tour`, `Tour.run`: The program goes along its stations.
* `Tour.lasting`: What lasts.
-/

namespace DisplayHub

/-- What lasts from coming up to going down. -/
structure Lasting where
  library : List LibraryEvent
  /-- What the hub knows, but for the last report. -/
  core : Core
  setup : Option Setup
  faults : Call → Option Stop
  hardware : Hardware
  slots : List (Option Display)

namespace Hub

/-- What a hub has that lasts. -/
def lasting (h : Hub) : Lasting where
  library := h.journal.library
  core := { h.core with topology := {} }
  setup := h.compositor.setup
  faults := h.faults
  hardware := h.hardware
  slots := h.slots

variable {h u w : Hub}

theorem lasting_journal {j : Journal} (library : j.library = h.journal.library) :
    { h with journal := j }.lasting = h.lasting := by
  unfold lasting
  dsimp only
  rw [library]

theorem ignoresService_lasting : IgnoresService lasting where
  noted level text h :=
    lasting_journal (congrArg Prod.fst (ignoresService_libraryView.noted level text h))
  notedAll notes h := lasting_journal
    (congrArg Prod.fst (ignoresService_libraryView.notedAll notes h))
  called h other := lasting_journal (congrArg Prod.fst (ignoresService_libraryView.called h other))
  read _ _ := rfl
  counted _ _ := rfl
  dealt c h same := by
    unfold lasting
    rw [same]

theorem lasting_deliver (handler : Handler) (notice : Notice) (h : Hub) :
    (h.deliver handler notice).lasting = h.lasting :=
  lasting_journal (congrArg Prod.fst (libraryView_deliver handler notice h))

/-- What every single thing leaves alone, all of them do. -/
theorem InTurn.keeps {α γ : Type} {view : Hub → γ} {does : α → Hub → Hub → Prop} {l : List α}
    (inTurn : InTurn does l h u) (kept : ∀ {a h u}, does a h u → view u = view h) :
    view u = view h := by
  induction inTurn with
  | nil => rfl
  | cons first _ ih => exact ih.trans (kept first)

theorem Tries.lasting {turn : Entry × Except Failure Display} (tries : Tries turn h u) :
    u.lasting = h.lasting := by
  cases tries with
  | @created e _ _ _ made =>
      have kept := ignoresService_lasting.createById e.id (some .announce) h
      rwa [made] at kept
  | @refused e _ _ _ failed =>
      have kept := ignoresService_lasting.createById e.id (some .announce) h
      rw [failed] at kept
      exact (ignoresService_lasting.noted _ _ _).trans kept

end Hub

/-! ### Switching on -/

/-- A display that is switched on. -/
def Display.lit (d : Display) : Display :=
  { d with power := .on }

namespace Hub

/-- A display is switched on, without a failure. -/
def SwitchesOn (d : Display) (h u : Hub) : Prop :=
  Serve.setPower .on (d, h) = (.ok (), d.lit, u)

variable {h u : Hub} {d : Display} {ds : List Display}

theorem SwitchesOn.ground (switches : SwitchesOn d h u) : u.ground = h.ground := by
  have kept := Serve.keeps_setPower .on (d, h)
  rw [switches] at kept
  exact congrArg Prod.snd kept

theorem SwitchesOn.lasting (switches : SwitchesOn d h u) : u.lasting = h.lasting := by
  have kept := ignoresService_lasting.setPower lasting_deliver .on (d, h)
  rwa [switches] at kept

theorem switchesOn_of_initialized (serves : d.initialized = true) (h : Hub) :
    ∃ u, SwitchesOn d h u := by
  obtain ⟨u, ran, -, -⟩ := Serve.setPower_apply serves .on h
  exact ⟨u, ran⟩

/-- Displays in service can be switched on one after the other. -/
theorem exists_switchesOn (serve : ∀ d ∈ ds, d.initialized = true) (h : Hub) :
    ∃ u, InTurn SwitchesOn ds h u := by
  induction ds generalizing h with
  | nil => exact ⟨h, .nil h⟩
  | cons d rest ih =>
      obtain ⟨u, switches⟩ := switchesOn_of_initialized (serve d List.mem_cons_self) h
      obtain ⟨w, inTurn⟩ := ih (fun e later => serve e (List.mem_cons_of_mem d later)) u
      exact ⟨w, .cons switches inTurn⟩

/-- The program switches every display on. -/
theorem switchOn_of_inTurn (inTurn : InTurn SwitchesOn ds h u) :
    switchOn ds h = (.ok (ds.map Display.lit), u) := by
  induction inTurn with
  | nil => rfl
  | cons first _ ih =>
      unfold SwitchesOn at first
      unfold switchOn
      rw [bind_apply, first]
      dsimp only
      rw [bind_apply, ih]
      rfl

/-- A display that is switched on claims what it claimed before. -/
theorem DealtTo.lit (dealtTo : h.DealtTo ds) : h.DealtTo (ds.map Display.lit) where
  accounts :=
    { distinct := by
        rw [List.filterMap_map]
        exact dealtTo.accounts.distinct
      granted := by
        rw [List.filterMap_map]
        exact dealtTo.accounts.granted
      reached := dealtTo.accounts.reached
      bound := by
        intro d among
        obtain ⟨e, held, rfl⟩ := List.mem_map.mp among
        exact dealtTo.accounts.bound e held
      active := by
        rw [List.filterMap_map]
        exact dealtTo.accounts.active }
  outstanding := by
    rw [List.countP_map]
    exact dealtTo.outstanding

/-! ### Destroying -/

/-- A display is destroyed, without a failure. -/
def Destroys (d : Display) (h u : Hub) : Prop :=
  Act.destroy (some d) h = (.ok (), u)

theorem Destroys.lasting (destroys : Destroys d h u) : u.lasting = h.lasting := by
  have kept := ignoresService_lasting.destroy (some d) h
  rwa [destroys] at kept

/-- Displays that nothing keeps in service can be destroyed one after the other, and
    nobody has anything then. -/
theorem DealtTo.exists_destroys (dealtTo : h.DealtTo ds)
    (ready : ∀ d ∈ ds, d.initialized = true ∧ d.stuck = none) :
    ∃ u, InTurn Destroys ds h u ∧ u.DealtTo [] := by
  induction ds generalizing h with
  | nil => exact ⟨h, .nil h, dealtTo⟩
  | cons d rest ih =>
      obtain ⟨serves, free⟩ := ready d List.mem_cons_self
      have gone := Act.decommission_of_free free serves h
      have released := dealtTo.release
      rcases ending : Act.decommission d h with ⟨answer, u⟩
      rw [ending] at gone released
      obtain rfl : answer = .ok () := gone
      obtain ⟨w, inTurn, empty⟩ := ih released fun e later => ready e (List.mem_cons_of_mem d later)
      exact ⟨w, .cons ending inTurn, empty⟩

/-- The program destroys every display. -/
theorem destroyAll_of_inTurn (inTurn : InTurn Destroys ds h u) :
    destroyAll ds h = (.ok (), u) := by
  induction inTurn with
  | nil => rfl
  | cons first _ ih =>
      unfold Destroys at first
      unfold destroyAll Act.attempt
      rw [bind_apply, first]
      exact ih

/-! ### Looking around -/

/-- The line that says how many displays of a kind there can be. -/
def limitLine (r : Resource) (v : Variant) : String :=
  "max " ++ v.word ++ " displays: " ++ toString (r.limit v)

/-- A hub that is up tells the limit of each kind, as long as it can ask. -/
theorem limitLines_apply {r : Resource} (vs : List Variant) (up : h.initialized = true)
    (able : h.faults .queryLimit = none) (described : h.hardware.resource = .ok r) : ∃ u,
    limitLines vs h = (.ok (vs.map (limitLine r)), u) ∧ u.ground = h.ground := by
  induction vs generalizing h with
  | nil => exact ⟨h, rfl, rfl⟩
  | cons v rest ih =>
      -- each question leaves the hub able to answer the next one
      have asked : Act.limit v h = (.ok (r.limit v), h.recordCall .queryLimit) := by
        unfold Act.limit Act.requireProvider Act.queryLimit
        rw [bind_apply, get_bind, if_neg (by simp [up])]
        change (Act.visit .queryLimit >>= fun _ => _ : Act Nat) h = _
        rw [bind_apply, Act.visit_apply, able]
        dsimp only
        rw [get_bind]
        change (Act.ofExcept h.hardware.resource >>= fun _ => _ : Act Nat) _ = _
        rw [described]
        rfl
      obtain ⟨u, ran, ground⟩ := ih (h := h.recordCall .queryLimit) up able described
      refine ⟨u, ?_, ground⟩
      unfold limitLines Act.attempt
      rw [bind_apply, asked]
      dsimp only
      rw [return_bind, bind_apply, ran]
      rfl

theorem IgnoresDealing.limitLines {γ : Type} {view : Hub → γ} (ignores : IgnoresDealing view)
    (vs : List Variant) : Keeps view (limitLines vs) := by
  induction vs with
  | nil => exact keeps_pure _
  | cons v rest ih =>
      refine (Act.keeps_attempt (ignores.limit v)).bind fun answer => ?_
      have rests (line : List String) : Keeps view (do
          let line ← (pure line : Act (List String))
          let more ← DisplayHub.limitLines rest
          return line ++ more) := (keeps_pure _).bind fun _ => ih.bind fun _ => keeps_pure _
      cases answer with
      | ok n => exact rests _
      | error f => exact rests _

/-- What the hardware offers is noted. -/
theorem noteHardware_apply {r : Resource} (known : h.core.resource = some r) :
    ∃ text, noteHardware h = (.ok (), h.note .info text) := by
  unfold noteHardware
  rw [get_bind, known]
  exact ⟨_, rfl⟩

/-- The report that the program goes by is the one that the hub has. -/
theorem Operational.currentTopology {t : Topology} {r : Resource}
    (operational : h.Operational t r) : currentTopology h = (.ok t, h.asked) := by
  unfold DisplayHub.currentTopology Act.attempt
  rw [bind_apply, operational.refresh]
  rfl

theorem lasting_asked (h : Hub) : h.asked.lasting = h.lasting :=
  ignoresService_lasting.queryStatus h

end Hub

/-! ### All stations -/

/-- The line of a display that is on. -/
def Entry.litLine (e : Entry) : String :=
  "  " ++ e.variant.displayName (some e.id) ++ " (" ++ Power.on.title ++ ")"

/-- What is printed where the hardware reports and offers this. -/
def tourLines (t : Topology) (r : Resource) (loaded : Bool) : List String :=
  ["extension: " ++ if loaded then "loaded" else "none"] ++ Variant.all.map (Hub.limitLine r)
    ++ ["topology: " ++ toString t.size ++ " entries"] ++ t.entries.map entryLine
    ++ ["active displays: " ++ toString (r.select t.entries).length]
    ++ (r.select t.entries).map Entry.litLine

/-- The stations of the program, from a hub that has come up to one that nobody has
    anything of. -/
structure Tour (t : Topology) (r : Resource) (up : Hub) where
  /-- The hub once what it offers was noted. -/
  noted : Hub
  /-- The hub once it was asked for a report. -/
  asked : Hub
  /-- The turn of each entry, and what came of it. -/
  turns : List (Entry × Except Failure Display)
  /-- The hub once every entry had its turn. -/
  tried : Hub
  /-- The hub once every display is on. -/
  lit : Hub
  /-- The hub once it was asked for limits. -/
  counted : Hub
  /-- The hub once every display was destroyed. -/
  emptied : Hub
  notes : noteHardware up = (.ok (), noted)
  reports : currentTopology noted = (.ok t, asked)
  tries : Hub.InTurn Hub.Tries turns asked tried
  /-- Every entry has one turn, in the order of the numbers. -/
  once : turns.map Prod.fst = t.entries
  /-- The displays that came of it are those of the entries that are chosen. -/
  chosen : List.Forall₂ Entry.DrivenBy (r.select t.entries) (turns.filterMap Hub.displayOf?)
  switches : Hub.InTurn Hub.SwitchesOn (turns.filterMap Hub.displayOf?) tried lit
  /-- Nothing else is active while there is something. -/
  active : (lit.compositor.active.map fun a => (a.id, a.variant)).Perm
    ((r.select t.entries).map fun e => (some e.id, e.variant))
  counts : limitLines Variant.all lit = (.ok (Variant.all.map (Hub.limitLine r)), counted)
  destroys : Hub.InTurn Hub.Destroys ((turns.filterMap Hub.displayOf?).map Display.lit) counted
    emptied
  empty : emptied.compositor.active = [] ∧ emptied.allocator.outstanding = 0

namespace Hub

variable {t : Topology} {r : Resource} {h : Hub} {taken : List Entry} {ds : List Display}

theorem ready_of_driven (driven : List.Forall₂ Entry.DrivenBy taken ds) :
    ∀ d ∈ ds, d.initialized = true ∧ d.stuck = none := by
  induction driven with
  | nil => exact fun _ none_held => nomatch none_held
  | cons first _ ih =>
      rintro d among
      rcases List.mem_cons.mp among with rfl | later
      · exact ⟨first.serves, first.free⟩
      · exact ih d later

/-- A hub that can go on, and that nobody has anything of, can be gone through. -/
theorem Operational.exists_tour (operational : h.Operational t r) (dealtTo : h.DealtTo [])
    (known : h.core.resource = some r) (able : h.faults .queryLimit = none)
    (described : h.hardware.resource = .ok r) : Nonempty (Tour t r h) := by
  obtain ⟨text, notes⟩ := noteHardware_apply known
  have servesEntries : h.ServesEntries t r [] [] := ⟨operational, dealtTo, .nil⟩
  have noted := servesEntries.note .info text
  have asked : (h.note .info text).asked.ServesEntries t r [] [] :=
    ⟨noted.operational.asked, noted.dealtTo.same (Hub.ground_asked _), .nil⟩
  -- no number is in a report twice
  have apart : t.entries.Pairwise fun a b => a.id ≠ b.id := by
    refine t.rising.imp fun before same => ?_
    exact Int.ne_of_lt before (congrArg Int32.toInt same)
  -- the displays are those of the entries that are chosen from here to where they are
  -- destroyed
  obtain ⟨turns, tried, tries, once, served⟩ := asked.turns
    (fun e among => Topology.find?_eq_some_iff.mpr ⟨among, rfl⟩) apart
    (fun _ none_taken => nomatch none_taken)
  have ready := ready_of_driven served.driven
  rw [List.nil_append] at served ready
  obtain ⟨lit, switches⟩ := exists_switchesOn (fun d among => (ready d among).1) tried
  have same : lit.ground = tried.ground := switches.keeps fun one => one.ground
  have lasting : lit.lasting = h.lasting :=
    (switches.keeps fun one => one.lasting).trans ((tries.keeps fun one => one.lasting).trans
      ((lasting_asked _).trans (ignoresService_lasting.noted .info text h)))
  -- the limits are asked of a hub that is still up and can be asked still
  have up : lit.initialized = true := by
    have := congrArg (fun l : Lasting => l.core.provider.isSome) lasting
    exact this.trans operational.up
  obtain ⟨counted, counts, level⟩ := limitLines_apply (h := lit) (r := r) Variant.all up
    ((congrFun (congrArg Lasting.faults lasting) _).trans able)
    ((congrArg (fun l : Lasting => l.hardware.resource) lasting).trans described)
  obtain ⟨emptied, destroys, empty⟩ :=
    ((served.dealtTo.lit.same same).same level).exists_destroys fun d among => by
      obtain ⟨e, held, rfl⟩ := List.mem_map.mp among
      exact ready e held
  have compositor : lit.compositor = tried.compositor :=
    Hub.told_of_ground Hub.compositor same rfl rfl
  exact ⟨{
    noted := h.note .info text, asked := (h.note .info text).asked, turns, tried, lit, counted,
    emptied, notes, reports := noted.operational.currentTopology, tries, once,
    chosen := served.driven, switches
    active := by
      rw [compositor]
      exact served.active_perm
    counts, destroys, empty := empty.empty }⟩

end Hub

namespace Tour

variable {t : Topology} {r : Resource} {up : Hub}

/-- The hub has what it came up with while every display is on. -/
theorem lasting_lit (stations : Tour t r up) : stations.lit.lasting = up.lasting := by
  have ignores := Hub.ignoresService_lasting
  have noted : Keeps Hub.lasting noteHardware := by
    refine keeps_get.bind fun h => ?_
    cases h.core.resource with
    | none => exact keeps_pure _
    | some r => exact ignores.note _ _
  have asked : Keeps Hub.lasting currentTopology := by
    refine (Act.keeps_attempt (ignores.refresh fun _ _ _ => rfl)).bind fun answer => ?_
    cases answer with
    | ok topology => exact keeps_pure _
    | error f => exact (ignores.note _ _).bind fun _ => keeps_get.bind fun _ => keeps_pure _
  have begun := noted up
  have told := asked stations.noted
  rw [stations.notes] at begun
  rw [stations.reports] at told
  calc stations.lit.lasting
      = stations.tried.lasting := stations.switches.keeps fun one => one.lasting
    _ = stations.asked.lasting := stations.tries.keeps fun one => one.lasting
    _ = stations.noted.lasting := told
    _ = up.lasting := begun

/-- It has it still once every display was destroyed. -/
theorem lasting (stations : Tour t r up) : stations.emptied.lasting = up.lasting := by
  have counted := Hub.ignoresService_lasting.limitLines Variant.all stations.lit
  rw [stations.counts] at counted
  calc stations.emptied.lasting
      = stations.counted.lasting := stations.destroys.keeps fun one => one.lasting
    _ = stations.lit.lasting := counted
    _ = up.lasting := stations.lasting_lit

/-- Each display is printed as the entry that was chosen, and as on. -/
theorem lines_of_driven {taken : List Entry} {ds : List Display}
    (driven : List.Forall₂ Entry.DrivenBy taken ds) :
    (ds.map Display.lit).map displayLine = taken.map Entry.litLine := by
  induction driven with
  | nil => rfl
  | @cons e d _ _ first _ ih =>
      have line : displayLine d.lit = e.litLine := by
        have named : d.lit.name = e.variant.displayName (some e.id) := by
          rw [← first.variant, ← first.id]
          exact first.named
        unfold displayLine Entry.litLine
        rw [named]
        rfl
      rw [List.map_cons, List.map_cons, List.map_cons, ih, line]

/-- The program goes along its stations, and takes the hub down at the last one. -/
theorem run (stations : Tour t r up) : tour up = (.ok (tourLines t r up.core.extension.isSome),
    stations.emptied.teardown.note .info "display-core exited successfully.") := by
  have created := Hub.createAll_of_inTurn stations.tries
  rw [stations.once] at created
  have extension : stations.lit.core.extension = up.core.extension :=
    congrArg (fun l : Lasting => l.core.extension) stations.lasting_lit
  have shown := lines_of_driven stations.chosen
  have many := stations.chosen.length_eq
  -- at every station, what the program does next is what led to the following one
  unfold tour
  rw [bind_apply, stations.notes]
  dsimp only
  rw [bind_apply, stations.reports]
  dsimp only
  rw [bind_apply, created]
  dsimp only
  rw [bind_apply, Hub.switchOn_of_inTurn stations.switches]
  dsimp only
  rw [get_bind, bind_apply, stations.counts]
  dsimp only
  rw [bind_apply, Hub.destroyAll_of_inTurn stations.destroys]
  dsimp only
  rw [modify_bind, extension, shown, List.length_map, ← many]
  rfl

end Tour

end DisplayHub
