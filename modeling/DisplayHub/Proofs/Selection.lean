import DisplayHub.CommandLine
import DisplayHub.Proofs.Operation
import Mathlib.Data.List.Forall2

/-!
# Selection

Which displays there are once every entry of a report was tried, one after the other.

Nobody chooses. Each entry has its turn, in the order of the numbers, and its display is
created if it can be; one that cannot be is passed over for good, and the next one has its
turn. What comes of this is the greedy choice: an entry is taken if it can be driven at
all, its kind has room left, and there is a mixer left for it if it needs one
(`Resource.Takes`), where what is left depends on the entries that were taken before.

The choice is made on the report and on what the hardware offers, and the hub decides by
what its compositor has active. The two agree as long as the displays in service are those
of the entries that were taken, and no others (`Hub.ServesEntries`). Whoever is active in a kind is
then counted among the entries of that kind, and nobody drives the number of an entry that
has not had its turn, since no number is in a report twice.

## Main definitions

* `Resource.Takes`, `Resource.select`: The greedy choice.
* `Hub.InTurn`: One thing after the other.
* `Hub.Tries`: The turn of one entry, and what came of it.
* `Entry.DrivenBy`: The display of an entry.
* `Hub.ServesEntries`: The displays of the entries that were taken, and no others.

## Theorems

* `Hub.ServesEntries.allowed_iff`: The compositor counts what the choice counts.
* `Hub.ServesEntries.attempt`: The turn of one entry.
* `Hub.ServesEntries.turns`, `Hub.createAll_of_inTurn`: The turns of all entries.
-/

namespace DisplayHub

namespace Resource

/-- An entry is taken after others: it can be driven, its kind has room, and there is a
    mixer for it unless it needs none. -/
structure Takes (r : Resource) (taken : List Entry) (e : Entry) : Prop where
  fits : e.variant = .offscreen ∨ e.connected = true
  kind : taken.countP (fun a => a.variant = e.variant) < r.limit e.variant
  mixer : e.variant ≠ .offscreen →
    taken.countP (fun a => a.variant ≠ .offscreen) < r.mixers.toNat

instance (r : Resource) (taken : List Entry) (e : Entry) : Decidable (r.Takes taken e) :=
  decidable_of_iff ((e.variant = .offscreen ∨ e.connected = true) ∧
      taken.countP (fun a => a.variant = e.variant) < r.limit e.variant ∧
      (e.variant ≠ .offscreen → taken.countP (fun a => a.variant ≠ .offscreen) < r.mixers.toNat))
    ⟨fun ⟨fits, kind, mixer⟩ => ⟨fits, kind, mixer⟩, fun ⟨fits, kind, mixer⟩ => ⟨fits, kind, mixer⟩⟩

/-- The entries that were taken once one more had its turn. -/
def pick (r : Resource) (taken : List Entry) (e : Entry) : List Entry :=
  if r.Takes taken e then taken ++ [e] else taken

/-- The entries that are taken if each has its turn. -/
def select (r : Resource) (entries : List Entry) : List Entry :=
  entries.foldl r.pick []

/-- With two mixers and one display of each kind, an external display leaves none to its
    kind, and one without a panel needs nothing but its turn. -/
example : (({} : Resource).select [.scripted 3 .pluggable true, .scripted 5 .pluggable true,
    .scripted 6 .builtIn false, .scripted 8 .offscreen false, .scripted 9 .builtIn true]).map
      (·.id) = [3, 8, 9] := by decide

end Resource

/-! ### One thing after the other -/

/-- One thing is done after the other, each with the hub that the one before left. -/
inductive Hub.InTurn {α : Type} (does : α → Hub → Hub → Prop) : List α → Hub → Hub → Prop where
  | nil (h : Hub) : InTurn does [] h h
  | cons {a : α} {l : List α} {h u w : Hub} (first : does a h u) (rest : InTurn does l u w) :
      InTurn does (a :: l) h w

/-- An entry has its turn: its display is created, or it is noted that it was not. -/
inductive Hub.Tries : Entry × Except Failure Display → Hub → Hub → Prop where
  | created {e : Entry} {d : Display} {h u : Hub}
      (made : Act.createById e.id (some .announce) h = (.ok d, u)) : Tries (e, .ok d) h u
  | refused {e : Entry} {f : Failure} {h u : Hub}
      (failed : Act.createById e.id (some .announce) h = (.error (.failure f), u)) :
      Tries (e, .error f) h (u.note .warn ("display " ++ toString e.id.toInt ++ " ("
        ++ e.variant.word ++ ", " ++ e.name ++ "): not created: " ++ f.message))

/-- The display that came of a turn, if one did. -/
def Hub.displayOf? (turn : Entry × Except Failure Display) : Option Display :=
  turn.2.toOption

/-- The program gives every entry its turn. -/
theorem Hub.createAll_of_inTurn {turns : List (Entry × Except Failure Display)} {h u : Hub}
    (inTurn : InTurn Tries turns h u) :
    createAll (turns.map Prod.fst) h = (.ok (turns.filterMap displayOf?), u) := by
  induction inTurn with
  | nil => rfl
  | cons first _ ih =>
      unfold displayOf? at ih
      rw [List.map_cons]
      unfold createAll Act.attempt Act.note displayOf?
      cases first with
      | created made =>
          rw [bind_apply, made]
          dsimp only
          rw [return_bind, bind_apply, ih]
          rfl
      | refused failed =>
          rw [bind_apply, failed]
          dsimp only
          rw [modify_bind, return_bind, bind_apply, ih]
          rfl

/-! ### Who is in service -/

/-- A display is in service for an entry, and nothing keeps it there. -/
structure Entry.DrivenBy (e : Entry) (d : Display) : Prop where
  id : d.id = some e.id
  variant : d.variant = e.variant
  named : d.NameAgrees
  serves : d.initialized = true
  free : d.stuck = none

namespace Hub

/-- The hub can go on, and the displays in service are those of the entries that were
    taken. -/
structure ServesEntries (t : Topology) (r : Resource) (taken : List Entry) (ds : List Display)
    (h : Hub) : Prop where
  operational : h.Operational t r
  dealtTo : h.DealtTo ds
  driven : List.Forall₂ Entry.DrivenBy taken ds

variable {t : Topology} {r : Resource} {h u : Hub} {taken : List Entry} {ds : List Display}
  {e : Entry} {d : Display}

/-- What a display of an entry claims is the entry's number and kind. -/
theorem claims_of_driven (driven : List.Forall₂ Entry.DrivenBy taken ds) :
    (ds.filterMap (Display.claim 0)).map (fun a => (a.id, a.variant)) =
      taken.map fun e => (some e.id, e.variant) := by
  induction driven with
  | nil => rfl
  | @cons e d _ _ drives _ ih =>
      obtain ⟨token, held⟩ := Option.isSome_iff_exists.mp drives.serves
      have claims : d.claim 0 = some ⟨token, d.variant, d.id⟩ := Display.claim_of_token held
      rw [List.filterMap_cons_some claims, List.map_cons, List.map_cons, ih]
      dsimp only
      rw [drives.id, drives.variant]

/-- A display that was admitted for an entry is in service for it. -/
theorem Admits.driven (admits : h.Admits e.variant (some e) d u) : e.DrivenBy d := by
  refine ⟨admits.id, admits.variant, admits.named, ?_, admits.free⟩
  unfold Display.initialized
  rw [admits.token]
  rfl

namespace ServesEntries

/-- Active are the entries that were taken. -/
theorem active_perm (servesEntries : h.ServesEntries t r taken ds) :
    (h.compositor.active.map fun a => (a.id, a.variant)).Perm
      (taken.map fun e => (some e.id, e.variant)) := by
  rw [← claims_of_driven servesEntries.driven]
  exact servesEntries.dealtTo.accounts.active.map _

theorem countP_active (servesEntries : h.ServesEntries t r taken ds) (p : Variant → Bool) :
    h.compositor.active.countP (fun a => p a.variant) = taken.countP fun e => p e.variant := by
  have counted := servesEntries.active_perm.countP_eq fun seat => p seat.2
  rwa [List.countP_map, List.countP_map] at counted

/-- The compositor refuses an entry exactly if there is no room for it after those that
    were taken. -/
theorem allowed_iff (servesEntries : h.ServesEntries t r taken ds)
    (unseen : ∀ a ∈ taken, a.id ≠ e.id) : h.compositor.refusal? e.variant (some e.id) = none ↔
      taken.countP (fun a => a.variant = e.variant) < r.limit e.variant ∧
      (e.variant ≠ .offscreen →
        taken.countP (fun a => a.variant ≠ .offscreen) < r.mixers.toNat) := by
  obtain ⟨extension, setup⟩ := servesEntries.operational.setup
  have kinds : h.compositor.countOf e.variant =
      taken.countP fun a => a.variant = e.variant :=
    servesEntries.countP_active fun v => v = e.variant
  have mixers : h.compositor.onMixers = taken.countP fun a => a.variant ≠ .offscreen :=
    servesEntries.countP_active fun v => v ≠ .offscreen
  -- whoever is active drives a number that was taken, and this one was not
  have free : ∀ i, some e.id = some i → ∀ a ∈ h.compositor.active, a.id ≠ some i := by
    rintro _ ⟨⟩ a active same
    have seat := servesEntries.active_perm.mem_iff.mp (List.mem_map_of_mem active)
    obtain ⟨other, among, seated⟩ := List.mem_map.mp seat
    have number : some other.id = a.id := congrArg Prod.fst seated
    exact unseen other among (Option.some.inj (number.trans same))
  rw [Compositor.refusal?_eq_none_iff, ← kinds, ← mixers]
  constructor
  · rintro ⟨s, working, -, kind, mixer⟩
    obtain rfl := Option.some.inj (setup.symm.trans working)
    exact ⟨kind, mixer⟩
  · rintro ⟨kind, mixer⟩
    exact ⟨_, setup, free, kind, mixer⟩

/-- An entry that is taken gets its display. -/
theorem create (servesEntries : h.ServesEntries t r taken ds)
    (admits : h.Admits e.variant (some e) d u) :
    u.ServesEntries t r (taken ++ [e]) (ds ++ [d]) where
  operational := servesEntries.operational.grant admits
  dealtTo := (servesEntries.dealtTo.grant admits).perm (List.perm_append_singleton d ds).symm
  driven := List.rel_append servesEntries.driven (.cons admits.driven .nil)

/-- A display that could not be created changes nothing of what is dealt out. -/
theorem refuse {a : Allocator} (servesEntries : h.ServesEntries t r taken ds)
    (dealt : u.ground = h.dealing h.compositor a) (limit : a.limit = h.allocator.limit)
    (outstanding : a.outstanding = h.allocator.outstanding)
    (reportInputs : u.reportInputs = h.asked.reportInputs) : u.ServesEntries t r taken ds where
  operational := servesEntries.operational.deal dealt rfl limit
    (servesEntries.operational.alwaysReports.asked.congr reportInputs)
  dealtTo := servesEntries.dealtTo.deal dealt outstanding
  driven := servesEntries.driven

/-- An entry has its turn, and is taken or not as it should be. -/
theorem attempt (servesEntries : h.ServesEntries t r taken ds) (there : t.find? e.id = some e)
    (unseen : ∀ a ∈ taken, a.id ≠ e.id) (handler : Handler) :
    (r.Takes taken e ∧ ∃ d u, Act.createById e.id (some handler) h = (.ok d, u) ∧
      u.ServesEntries t r (taken ++ [e]) (ds ++ [d])) ∨
    (¬ r.Takes taken e ∧ ∃ f u,
      Act.createById e.id (some handler) h = (.error (.failure f), u) ∧
      u.ServesEntries t r taken ds) := by
  have joined : (e.variant = .offscreen ∨ e.connected = true) ↔
      (e.variant ≠ .offscreen → e.connected = true) := Decidable.or_iff_not_imp_left
  have allowed := servesEntries.allowed_iff unseen
  -- an entry is taken if it can be driven and if the compositor allows it, which is all
  -- that the hub asks for
  by_cases takes : r.Takes taken e
  · refine Or.inl ⟨takes, ?_⟩
    have admitted := servesEntries.operational.admission_ok there (joined.mp takes.fits)
      (allowed.mpr ⟨takes.kind, takes.mixer⟩)
    obtain ⟨d, u, made, admits⟩ := servesEntries.operational.createById_of_ok there admitted handler
    exact ⟨d, u, made, servesEntries.create admits⟩
  · refine Or.inr ⟨takes, ?_⟩
    obtain ⟨f, refused⟩ := servesEntries.operational.admission_error there fun both =>
      takes ⟨joined.mpr both.1, (allowed.mp both.2).1, (allowed.mp both.2).2⟩
    obtain ⟨provider, tried⟩ := servesEntries.operational.createById there handler
    have failed : (Act.createById e.id (some handler) h).1 = .error (.failure f) := by
      rw [tried]
      exact Act.commission_of_error refused
    have reportInputs := Act.reportInputs_commission e.variant e.id handler provider h
    rw [← tried] at reportInputs
    rcases ending : Act.createById e.id (some handler) h with ⟨answer, u⟩
    rw [ending] at failed reportInputs
    obtain rfl : answer = .error (.failure f) := failed
    -- what was claimed before it failed was returned
    obtain ⟨a, outstanding, limit, dealt⟩ := Act.ground_of_failed (Act.created_createById ending)
    exact ⟨f, u, rfl, servesEntries.refuse dealt limit outstanding reportInputs⟩

theorem note (servesEntries : h.ServesEntries t r taken ds) (level : Level) (text : String) :
    (h.note level text).ServesEntries t r taken ds where
  operational := servesEntries.operational.deal
    (rfl : _ = h.dealing h.compositor h.allocator) rfl rfl
    (servesEntries.operational.alwaysReports.congr rfl)
  dealtTo := servesEntries.dealtTo.same rfl
  driven := servesEntries.driven

/-- Every entry has its turn, and those are taken that are chosen. -/
theorem turns {entries : List Entry} (servesEntries : h.ServesEntries t r taken ds)
    (listed : ∀ e ∈ entries, t.find? e.id = some e)
    (apart : entries.Pairwise fun a b => a.id ≠ b.id)
    (unseen : ∀ a ∈ taken, ∀ e ∈ entries, a.id ≠ e.id) : ∃ turns u,
      InTurn Tries turns h u ∧ turns.map Prod.fst = entries ∧
      u.ServesEntries t r (entries.foldl r.pick taken) (ds ++ turns.filterMap displayOf?) := by
  induction entries generalizing h taken ds with
  | nil =>
      refine ⟨[], h, .nil h, rfl, ?_⟩
      rw [List.filterMap_nil, List.append_nil]
      exact servesEntries
  | cons e rest ih =>
      obtain ⟨first, apart⟩ := List.pairwise_cons.mp apart
      have there := listed e List.mem_cons_self
      have later (a : Entry) (among : a ∈ rest) := listed a (List.mem_cons_of_mem e among)
      rcases servesEntries.attempt there
        (fun a among => unseen a among e List.mem_cons_self) .announce with
        ⟨takes, d, u, made, served⟩ | ⟨passes, f, u, failed, left⟩
      · -- whoever comes later has another number than this one, too
        have others : ∀ a ∈ taken ++ [e], ∀ b ∈ rest, a.id ≠ b.id := by
          intro a among b after
          rcases List.mem_append.mp among with before | now
          · exact unseen a before b (List.mem_cons_of_mem e after)
          · rw [List.mem_singleton.mp now]
            exact first b after
        obtain ⟨turns, w, inTurn, all, hosted⟩ := ih served later apart others
        have picked : r.pick taken e = taken ++ [e] := if_pos takes
        have gained : ((e, .ok d) :: turns).filterMap displayOf? =
            d :: turns.filterMap displayOf? := List.filterMap_cons_some rfl
        rw [List.append_assoc] at hosted
        refine ⟨(e, .ok d) :: turns, w, .cons (.created made) inTurn, ?_, ?_⟩
        · rw [List.map_cons, all]
        · rw [List.foldl_cons, picked, gained]
          exact hosted
      · -- an entry that is passed over leaves a note, and what was taken stays the same
        obtain ⟨turns, w, inTurn, all, hosted⟩ := ih (left.note .warn _) later apart
          fun a among b after => unseen a among b (List.mem_cons_of_mem e after)
        have passed : r.pick taken e = taken := if_neg passes
        refine ⟨(e, .error f) :: turns, w, .cons (.refused failed) inTurn, ?_, ?_⟩
        · rw [List.map_cons, all]
        · rw [List.foldl_cons, passed]
          exact hosted

end ServesEntries

end Hub

end DisplayHub
