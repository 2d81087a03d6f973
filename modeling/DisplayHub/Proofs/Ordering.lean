import DisplayHub.Proofs.Capacity
import DisplayHub.Proofs.Exclusion
import DisplayHub.Proofs.Operation

/-!
# Order

That displays can be created in any order, and destroyed in any order.

Each display that is created changes what the next one meets: a token is gone, a
number more is driven, and the hardware was asked once more. Two orders of the same
requests go through different states, so they cannot be compared step by step. What is
compared is what the requests ask for as a whole.

A request stands for a display of some kind and number, and which one that is can be
told before anything is created (`Hub.offer`). It depends on what the hub knows, on
what the hardware reports, on the largest buffer and on the fault that is set where
tokens are asked for. Creating displays changes none of these, provided that the
hardware goes on to report the same, be it what the hub knows or not. All that one
display takes from another is with the compositor, and the compositor's rule is on
populations (`Resource.Allows`). So requests are met one after the other exactly if
each of them stands for some display, and all of these displays are allowed together
with those that are active already (`Hub.CanMeetAll`). That says nothing of an order.

On the way, a display is allowed because all of them are in the end. It takes a rule
that holds of the parts of a population if it holds of the whole.

Destroying is simpler, since it always takes the display. What is answered depends on
the display alone, and two displays return what they hold in either order. Only the
journal tells which one was the first.

## Main definitions

* `Act.each`: An operation for each member of a list.
* `Topology.meaning`, `Hub.offer`: The display that a request stands for.
* `Hub.OnlyCompositorRefuses`: Nobody but the compositor is in its way.
* `Hub.UpAndLawful`: The hub is up, and the hardware goes on to report the same.
* `Hub.CanMeetAll`, `Hub.MeetsAll`: Requests can be met together, and they were.
* `Hub.OrderIndependent`: Two orders of requests come to the same.
* `Display.destroyAnswer`, `Hub.relieve`: What is answered to whoever destroys a display,
  and what that leaves.
* `Hub.unlogged`: Everything of a hub but its journal.

## Theorems

* `Act.fulfil_of_offer`, `Act.offer_of_fulfil`: When a request is met.
* `Hub.UpAndLawful.grants`: Requests that can be met together are met.
* `Hub.UpAndLawful.canMeetAll`: Requests that were met can be met together.
* `Act.unlogged_destroyEach`: What is left once displays were destroyed.
* `Session.orderIndependent_after`: The order makes no difference.
-/

namespace DisplayHub

namespace Act

section Each

variable {ι α γ : Type} {act : ι → Act α}

/-- Runs an operation for each member of a list, and goes on whatever is answered. -/
def each (act : ι → Act α) : List ι → Hub → List (Except Stop α) × Hub
  | [], h => ([], h)
  | i :: rest, h =>
    let (answer, h) := act i h
    let (answers, h) := each act rest h
    (answer :: answers, h)

theorem each_cons (i : ι) (rest : List ι) (h : Hub) : each act (i :: rest) h =
    ((act i h).1 :: (each act rest (act i h).2).1, (each act rest (act i h).2).2) := rfl

/-- Where the state makes no difference to the answers, they are those to each member. -/
theorem each_answers {answer : ι → Except Stop α} (same : ∀ i h, (act i h).1 = answer i)
    (l : List ι) (h : Hub) : (each act l h).1 = l.map answer := by
  induction l generalizing h with
  | nil => rfl
  | cons i rest ih => rw [each_cons, List.map_cons, ih, same]

/-- Where a view of the state shows what it makes of the next member, it shows what it
    makes of all of them. -/
theorem each_view {view : Hub → γ} {next : γ → ι → γ}
    (moves : ∀ i h, view (act i h).2 = next (view h) i) (l : List ι) (h : Hub) :
    view (each act l h).2 = l.foldl next (view h) := by
  induction l generalizing h with
  | nil => rfl
  | cons i rest ih => rw [each_cons, List.foldl_cons, ih, moves]

end Each

/-- Creates the display that is asked for by each of some requests. -/
def fulfilEach : List (Request × Option Handler) → Hub → List (Except Stop Display) × Hub :=
  each fun request => fulfil request.1 request.2

/-- Destroys each of some displays. -/
def destroyEach : List Display → Hub → List (Except Stop Unit) × Hub :=
  each fun d => destroy (some d)

end Act

/-! ### What a request stands for -/

/-- The kind of display that a request means, and its number if it has one. A number
    means what the report has under it. -/
def Topology.meaning (t : Topology) : Request → Option (Variant × Option Int32)
  | .kind v => some (v, none)
  | .code code => (Variant.ofCode code).map fun v => (v, none)
  | .number k => (t.find? k).map fun entry => (entry.variant, some k)

namespace Hub

/-- A request that means nothing is unmatched. -/
theorem unmatched_eq (request : Request) (h : Hub) :
    h.unmatched request = (h.core.topology.meaning request).isNone := by
  cases request with
  | kind v => rfl
  | code code => exact Option.isNone_map.symm
  | number k => exact Option.isNone_map.symm

/-- Nobody but the compositor refuses a display of a kind that found its entry: there is
    room for its buffer if it needs one, and no fault is set where it asks for its token. -/
def OnlyCompositorRefuses (h : Hub) (v : Variant) : Prop :=
  (v = .offscreen → Display.writebackSize ≤ h.allocator.limit) ∧ h.faults .register = none

instance (h : Hub) (v : Variant) : Decidable (h.OnlyCompositorRefuses v) :=
  inferInstanceAs (Decidable (_ ∧ _))

/-- The display that a request stands for, as long as the compositor does not refuse it. -/
def offer (h : Hub) (request : Request × Option Handler) : Option (Variant × Option Int32) := do
  let _ ← request.2
  let (v, id) ← h.core.topology.meaning request.1
  let found ← (h.finding v id).toOption
  if h.OnlyCompositorRefuses v then some (v, found.map (·.id)) else none

variable {h : Hub} {v : Variant} {id k : Option Int32} {found : Option Entry}
  {request : Request × Option Handler}

theorem offer_eq_some_iff : h.offer request = some (v, k) ↔ request.2.isSome = true ∧
    ∃ id found, h.core.topology.meaning request.1 = some (v, id) ∧ h.finding v id = .ok found ∧
      h.OnlyCompositorRefuses v ∧ k = found.map (·.id) := by
  have answered {α : Type} {answer : Except Stop α} {a : α} :
      answer.toOption = some a ↔ answer = .ok a := by
    cases answer <;> simp [Except.toOption]
  unfold offer
  simp only [Option.bind_eq_bind, Option.bind_eq_some_iff, answered, Option.isSome_iff_exists,
    Option.ite_none_right_eq_some, Option.some.injEq, Prod.mk.injEq]
  constructor
  · rintro ⟨handler, given, ⟨w, id⟩, means, found, answer, clear, rfl, rfl⟩
    exact ⟨⟨handler, given⟩, id, found, means, answer, clear, rfl⟩
  · rintro ⟨⟨handler, given⟩, id, found, means, answer, clear, rfl⟩
    exact ⟨handler, given, (v, id), means, found, answer, clear, rfl, rfl⟩

/-- There is a buffer to be had exactly if it is not too large. -/
theorem exists_room_iff :
    (∃ buffer, h.roomAnswer = .ok buffer) ↔ Display.writebackSize ≤ h.allocator.limit := by
  unfold roomAnswer
  rw [Allocator.allocate_of_block _ (by decide) (by decide)]
  by_cases full : h.allocator.limit < Display.writebackSize
  · rw [if_pos full]
    simp only [reduceCtorEq, exists_false, false_iff]
    omega
  · rw [if_neg full]
    simp only [Except.ok.injEq, exists_eq', true_iff]
    omega

/-- The compositor answers with a token exactly if no fault is set and it does not refuse,
    and the token makes no other entry of what was found. -/
theorem tokenAnswer_map_iff {entry : Option Entry} :
    (h.tokenAnswer v k).map (fun _ => entry) = .ok found ↔
      entry = found ∧ h.faults .register = none ∧ h.compositor.refusal? v k = none := by
  unfold tokenAnswer barred
  cases h.faults .register with
  | some stop => simp [Except.map]
  | none => cases h.compositor.refusal? v k <;> simp [Except.map]

/-- Who is admitted has found its entry, or has none to look for, and is refused by
    nobody. -/
theorem admission_eq_ok_iff : h.admission v id = .ok found ↔ h.finding v id = .ok found ∧
    h.OnlyCompositorRefuses v ∧ h.compositor.refusal? v (found.map (·.id)) = none := by
  unfold OnlyCompositorRefuses
  cases answer : h.finding v id with
  | error stop =>
      have stopped : h.admission v id = .error stop := by
        unfold admission
        rw [answer]
        rfl
      simp only [stopped, reduceCtorEq, false_and]
  | ok entry =>
      -- an off-screen display needs room for its buffer, and a panel does not
      by_cases offscreen : v = .offscreen
      · subst offscreen
        rw [admission_of_offscreen, answer, ← exists_room_iff]
        cases h.roomAnswer with
        | error stop => simp
        | ok buffer =>
            dsimp only
            rw [tokenAnswer_map_iff]
            constructor
            · rintro ⟨rfl, able, free⟩
              exact ⟨rfl, ⟨fun _ => ⟨buffer, rfl⟩, able⟩, free⟩
            · rintro ⟨⟨⟩, ⟨-, able⟩, free⟩
              exact ⟨rfl, able, free⟩
      · rw [admission_of_panel offscreen, answer]
        dsimp only
        rw [tokenAnswer_map_iff]
        constructor
        · rintro ⟨rfl, able, free⟩
          exact ⟨rfl, ⟨fun same => absurd same offscreen, able⟩, free⟩
        · rintro ⟨⟨⟩, ⟨-, able⟩, free⟩
          exact ⟨rfl, able, free⟩

end Hub

namespace Act

variable {h : Hub} {v : Variant} {id k : Option Int32} {d : Display}
  {request : Request × Option Handler}

/-- A request that means a display constructs it. -/
theorem fulfil_of_meaning {request : Request}
    (means : h.core.topology.meaning request = some (v, id)) (handler : Handler) :
    fulfil request (some handler) h = construct v id handler h := by
  cases request with
  | kind w =>
      cases means
      rfl
  | code code =>
      obtain ⟨w, known, same⟩ := Option.map_eq_some_iff.mp means
      cases same
      change createByCode code (some handler) h = _
      unfold createByCode requireHandler
      dsimp only
      rw [return_bind, known]
  | number n =>
      obtain ⟨entry, there, same⟩ := Option.map_eq_some_iff.mp means
      cases same
      change createById n (some handler) h = _
      rw [createById_apply, there]

/-- What was constructed was admitted. -/
theorem admission_of_construct {handler : Handler}
    (created : (construct v id handler h).1 = .ok d) : ∃ found, h.admission v id = .ok found := by
  obtain ⟨provider, constructed⟩ := construct_of_up (up_of_construct created) v id handler
  rw [constructed] at created
  cases admitted : h.admission v id with
  | ok found => exact ⟨found, rfl⟩
  | error stop =>
      rw [commission_of_error admitted] at created
      nomatch created

/-- A request is met if it stands for a display and the compositor does not refuse it. -/
theorem fulfil_of_offer (up : h.initialized = true) (offered : h.offer request = some (v, k))
    (free : h.compositor.refusal? v k = none) : ∃ d u found,
      fulfil request.1 request.2 h = (.ok d, u) ∧ d.id = k ∧ h.Admits v found d u := by
  obtain ⟨given, id, found, means, answer, clear, rfl⟩ := Hub.offer_eq_some_iff.mp offered
  obtain ⟨handler, given⟩ := Option.isSome_iff_exists.mp given
  have admitted := Hub.admission_eq_ok_iff.mpr ⟨answer, clear, free⟩
  obtain ⟨provider, constructed⟩ := construct_of_up up v id handler
  have made : ∃ d u, commission (.fresh v id handler provider) v id h = (.ok d, u) ∧
      h.Admits v found d u := commission_of_ok admitted
  obtain ⟨d, u, created, admits⟩ := made
  refine ⟨d, u, found, ?_, admits.id, admits⟩
  rw [given, fulfil_of_meaning means, constructed, created]

/-- A request that is met stands for what was created, and the compositor did not
    refuse it. -/
theorem offer_of_fulfil (met : (fulfil request.1 request.2 h).1 = .ok d) :
    h.offer request = some (d.variant, d.id) ∧ h.compositor.refusal? d.variant d.id = none := by
  obtain ⟨asked, given⟩ := request
  -- what is declined is never met, so there is a handler and the request means something
  have taken : ¬ h.declines asked given = true := by
    intro declined
    have turned := (fulfil_of_declines declined).1
    nomatch met.symm.trans turned
  unfold Hub.declines at taken
  rw [Hub.unmatched_eq] at taken
  cases given with
  | none => exact absurd rfl taken
  | some handler =>
      cases means : h.core.topology.meaning asked with
      | none =>
          rw [means] at taken
          exact absurd rfl taken
      | some meant =>
          obtain ⟨v, id⟩ := meant
          rw [fulfil_of_meaning means] at met
          obtain ⟨_, admitted⟩ := admission_of_construct met
          obtain ⟨-, clear, -⟩ := Hub.admission_eq_ok_iff.mp admitted
          obtain ⟨found, answer, admits⟩ := construct_ok met
          rw [admits.variant]
          refine ⟨Hub.offer_eq_some_iff.mpr ⟨rfl, id, found, means, answer, clear, admits.id⟩, ?_⟩
          exact admits.allowed

end Act

/-! ### Requests one after the other -/

namespace Hub

/-- The hub is up and deals lawfully, and the hardware goes on to report the same. -/
structure UpAndLawful (t : Topology) (r : Resource) (h : Hub) : Prop where
  up : h.initialized = true
  work : ∃ e, h.compositor.setup = some ⟨r, e⟩
  lawful : h.compositor.Lawful
  alwaysReports : h.AlwaysReports t

variable {t : Topology} {r : Resource} {h u : Hub} {v : Variant} {k : Option Int32} {d : Display}
  {found : Option Entry} {request : Request × Option Handler}
  {requests others : List (Request × Option Handler)} {answers : List (Except Stop Display)}

/-- What a request stands for depends on what the hub knows, on what is reported, on the
    largest buffer and on the faults. -/
theorem offer_congr (core : u.core = h.core) (report : u.report = h.report)
    (limit : u.allocator.limit = h.allocator.limit) (faults : u.faults = h.faults) :
    u.offer = h.offer := by
  have found (v : Variant) (id : Option Int32) : u.finding v id = h.finding v id := by
    unfold finding
    rw [report]
  have clear (v : Variant) : u.OnlyCompositorRefuses v ↔ h.OnlyCompositorRefuses v := by
    unfold OnlyCompositorRefuses
    rw [limit, faults]
  funext request
  unfold offer
  simp only [core, found, clear]

namespace UpAndLawful

/-- A display that was created leaves everything as it was that requests depend on. -/
theorem grant (upAndLawful : h.UpAndLawful t r) (admits : h.Admits v found d u) :
    u.UpAndLawful t r where
  up := by
    unfold initialized
    rw [core_of_ground admits.ground]
    exact upAndLawful.up
  work := by
    rw [compositor_of_ground admits.ground]
    exact upAndLawful.work
  lawful := by
    rw [compositor_of_ground admits.ground]
    have allowed := admits.allowed
    rw [← admits.variant] at allowed ⊢
    exact Compositor.lawful_grant upAndLawful.lawful allowed
  alwaysReports := by
    have reportInputs := admits.reportInputs
    cases found with
    | none => exact upAndLawful.alwaysReports.congr reportInputs
    | some e => exact upAndLawful.alwaysReports.asked.congr reportInputs

theorem offer_grant (upAndLawful : h.UpAndLawful t r) (admits : h.Admits v found d u) :
    u.offer = h.offer := by
  refine offer_congr (core_of_ground admits.ground) ?_ ?_ (faults_of_ground admits.ground)
  · rw [(upAndLawful.grant admits).alwaysReports.report, upAndLawful.alwaysReports.report]
  · rw [allocator_of_ground admits.ground]
    split <;> rfl

end UpAndLawful

/-- Requests can be met together: each of them stands for some display, and these are
    allowed together with those that are active. -/
structure CanMeetAll (r : Resource) (h : Hub) (requests : List (Request × Option Handler)) :
    Prop where
  offered : ∀ request ∈ requests, (h.offer request).isSome = true
  allowed : r.Allows (requests.filterMap h.offer ++ h.compositor.roles)

/-- What comes of requests that are met: displays as they stand for, which are active
    then, and the buffers of those that are off-screen. -/
structure MeetsAll (h : Hub) (requests : List (Request × Option Handler))
    (answers : List (Except Stop Display)) (u : Hub) : Prop where
  yields : List.Forall₂ (fun request answer => ∃ d, answer = .ok d ∧
    h.offer request = some (d.variant, d.id) ∧ d.NameAgrees) requests answers
  roles : u.compositor.roles = h.compositor.roles ++ requests.filterMap h.offer
  outstanding : u.allocator.outstanding = h.allocator.outstanding +
    (requests.filterMap h.offer).countP fun role => role.1 = .offscreen

/-- The order of the requests does not matter. -/
theorem CanMeetAll.perm (fits : h.CanMeetAll r requests) (same : requests.Perm others) :
    h.CanMeetAll r others where
  offered request among := fits.offered request (same.mem_iff.mpr among)
  allowed := fits.allowed.perm ((same.filterMap h.offer).append_right _)

/-- A display that is created is one more that is active. -/
theorem Admits.roles (admits : h.Admits v found d u) :
    u.compositor.roles = h.compositor.roles ++ [(v, d.id)] := by
  rw [compositor_of_ground admits.ground]
  exact List.map_append

/-- It takes a buffer if it is off-screen. -/
theorem Admits.outstanding (admits : h.Admits v found d u) : u.allocator.outstanding =
    h.allocator.outstanding + if v = .offscreen then 1 else 0 := by
  rw [allocator_of_ground admits.ground]
  split <;> rfl

namespace UpAndLawful

/-- Requests can be met together exactly if the first one can, and the others once it
    was. -/
theorem canMeetAll_cons_iff (upAndLawful : h.UpAndLawful t r)
    (offered : h.offer request = some (v, d.id)) (admits : h.Admits v found d u) :
    h.CanMeetAll r (request :: requests) ↔ u.CanMeetAll r requests := by
  have same := upAndLawful.offer_grant admits
  -- the display that the first request stands for is one of those that are active by then
  have moved : (requests.filterMap h.offer ++ (h.compositor.roles ++ [(v, d.id)])).Perm
      ((request :: requests).filterMap h.offer ++ h.compositor.roles) := by
    rw [List.filterMap_cons_some offered, ← List.append_assoc]
    exact List.perm_append_singleton _ _
  constructor
  · intro fits
    refine ⟨fun other among => ?_, ?_⟩
    · rw [same]
      exact fits.offered other (List.mem_cons_of_mem _ among)
    · rw [same, admits.roles]
      exact fits.allowed.perm moved.symm
  · intro fits
    refine ⟨fun other among => ?_, ?_⟩
    · rcases List.mem_cons.mp among with rfl | among
      · rw [offered]
        rfl
      · rw [← same]
        exact fits.offered other among
    · have allowed := fits.allowed
      rw [same, admits.roles] at allowed
      exact allowed.perm moved

/-- Requests that can be met together are met one after the other. -/
theorem grants (upAndLawful : h.UpAndLawful t r) (fits : h.CanMeetAll r requests) :
    h.MeetsAll requests (Act.fulfilEach requests h).1 (Act.fulfilEach requests h).2 := by
  induction requests generalizing h with
  | nil => exact ⟨List.Forall₂.nil, (List.append_nil _).symm, rfl⟩
  | cons request rest ih =>
      obtain ⟨⟨v, k⟩, offered⟩ :=
        Option.isSome_iff_exists.mp (fits.offered request List.mem_cons_self)
      -- the first display is allowed because all of them are in the end
      have free : h.compositor.refusal? v k = none := by
        obtain ⟨e, work⟩ := upAndLawful.work
        rw [Compositor.refusal?_eq_none_iff_allows upAndLawful.lawful work]
        refine fits.allowed.sublist ?_
        rw [List.filterMap_cons_some offered]
        exact (List.sublist_append_right _ _).cons_cons _
      obtain ⟨d, u, found, met, rfl, admits⟩ := Act.fulfil_of_offer upAndLawful.up offered free
      have later := ih (upAndLawful.grant admits)
        ((upAndLawful.canMeetAll_cons_iff offered admits).mp fits)
      unfold Act.fulfilEach at later ⊢
      rw [Act.each_cons, met]
      have same := upAndLawful.offer_grant admits
      obtain ⟨yields, roles, outstanding⟩ := later
      rw [same] at yields roles outstanding
      refine ⟨List.Forall₂.cons ⟨d, rfl, ?_⟩ yields, ?_, ?_⟩
      · rw [admits.variant]
        exact ⟨offered, admits.named⟩
      · rw [roles, admits.roles, List.filterMap_cons_some offered, List.append_assoc]
        rfl
      · rw [outstanding, admits.outstanding, List.filterMap_cons_some offered, List.countP_cons]
        simp only [decide_eq_true_eq]
        omega

/-- Requests that were met one after the other can be met together. -/
theorem canMeetAll (upAndLawful : h.UpAndLawful t r)
    (met : ∀ answer ∈ (Act.fulfilEach requests h).1, ∃ d, answer = .ok d) :
    h.CanMeetAll r requests := by
  induction requests generalizing h with
  | nil =>
      obtain ⟨e, work⟩ := upAndLawful.work
      exact ⟨fun _ none_there => (nomatch none_there), upAndLawful.lawful.allows work⟩
  | cons request rest ih =>
      unfold Act.fulfilEach at met
      rw [Act.each_cons] at met
      obtain ⟨d, first⟩ := met _ List.mem_cons_self
      obtain ⟨offered, free⟩ := Act.offer_of_fulfil first
      obtain ⟨e, u, found, created, same, admits⟩ :=
        Act.fulfil_of_offer upAndLawful.up offered free
      rw [created] at met
      rw [← same] at offered
      refine (upAndLawful.canMeetAll_cons_iff offered admits).mpr (ih (upAndLawful.grant admits) ?_)
      exact fun answer among => met answer (List.mem_cons_of_mem _ among)

end UpAndLawful

end Hub

/-- A display as its owner sees it: its kind, its number and its name. -/
def Display.label (d : Display) : Variant × Option Int32 × String :=
  (d.variant, d.id, d.name)

namespace Hub

variable {t : Topology} {r : Resource} {h u : Hub}
  {requests others : List (Request × Option Handler)} {answers : List (Except Stop Display)}

/-- Every request in a list is answered with a display that looks as it is expected to. -/
def AnswersWith (label : Request × Option Handler → Option (Variant × Option Int32 × String))
    (requests : List (Request × Option Handler)) (answers : List (Except Stop Display)) : Prop :=
  List.Forall₂ (fun request answer => ∃ d, answer = .ok d ∧ label request = some d.label)
    requests answers

/-- It makes no difference in which of two orders requests are made. -/
structure OrderIndependent (h : Hub) (requests others : List (Request × Option Handler)) :
    Prop where
  /-- All are met, and each of them by a display of the same kind, number and name. -/
  yields : ∃ label, AnswersWith label requests (Act.fulfilEach requests h).1 ∧
    AnswersWith label others (Act.fulfilEach others h).1
  roles : (Act.fulfilEach requests h).2.compositor.roles.Perm
    (Act.fulfilEach others h).2.compositor.roles
  outstanding : (Act.fulfilEach requests h).2.allocator.outstanding =
    (Act.fulfilEach others h).2.allocator.outstanding

/-- How a display looks depends on what its request stands for alone. -/
theorem MeetsAll.looks (grants : h.MeetsAll requests answers u) :
    AnswersWith (fun request => (h.offer request).map fun role =>
      (role.1, role.2, role.1.displayName role.2)) requests answers := by
  refine grants.yields.imp ?_
  rintro request answer ⟨d, rfl, offered, named⟩
  refine ⟨d, rfl, ?_⟩
  dsimp only
  rw [offered]
  unfold Display.label
  rw [named]
  rfl

theorem UpAndLawful.orderIndependent (upAndLawful : h.UpAndLawful t r) (same : requests.Perm others)
    (met : ∀ answer ∈ (Act.fulfilEach requests h).1, ∃ d, answer = .ok d) :
    h.OrderIndependent requests others := by
  have fits := upAndLawful.canMeetAll met
  have one := upAndLawful.grants fits
  have other := upAndLawful.grants (fits.perm same)
  have displays := same.filterMap h.offer
  refine ⟨⟨_, one.looks, other.looks⟩, ?_, ?_⟩
  · rw [one.roles, other.roles]
    exact displays.append_left _
  · rw [one.outstanding, other.outstanding, displays.countP_eq]

end Hub

/-! ### Destroying one after the other -/

/-- What is answered to whoever destroys a display. -/
def Display.destroyAnswer (d : Display) : Except Stop Unit :=
  match d.stuck with
  | some f => .error (.failure f)
  | none => if d.initialized then .ok () else .error (.failure .notInitialized)

namespace Hub

/-- Everything of a hub but what is left behind for watchers. -/
def unlogged (h : Hub) : Hub :=
  { h with journal := {} }

/-- The hub without what a display held. -/
def relieve (h : Hub) (d : Display) : Hub :=
  { h with compositor := d.release h.compositor, allocator := d.vacate h.allocator }

/-- Two displays return what they hold in either order. -/
theorem relieve_comm (h : Hub) (d e : Display) :
    (h.relieve d).relieve e = (h.relieve e).relieve d := by
  have tokens (c : Compositor) : e.release (d.release c) = d.release (e.release c) := by
    unfold Display.release
    cases d.token with
    | none => rfl
    | some token =>
        cases e.token with
        | none => rfl
        | some other => exact congrArg (fun active => { c with active }) (List.filter_comm ..)
  have buffers (a : Allocator) : e.vacate (d.vacate a) = d.vacate (e.vacate a) := by
    unfold Display.vacate
    cases d.writeback? <;> cases e.writeback? <;> rfl
  unfold relieve
  dsimp only
  rw [tokens, buffers]

/-- All of a hub but the journal, what is active and what is handed out. -/
theorem ignoresDealing_rest :
    IgnoresDealing fun h => { h with journal := {}, compositor := {}, allocator := {} : Hub } :=
  ⟨fun _ _ _ => rfl, fun _ _ => rfl, fun _ _ => rfl, fun _ _ => rfl, fun _ _ _ => rfl⟩

end Hub

/-- Whether a display leaves service is up to the display. -/
theorem Serve.takeDown_answer (d : Display) (h : Hub) : (takeDown (d, h)).1 = d.destroyAnswer := by
  unfold Display.destroyAnswer
  cases free : d.stuck with
  | some f =>
      unfold takeDown
      rw [display_bind, free]
      rfl
  | none =>
      cases serves : d.initialized with
      | true => exact takeDown_of_free free serves h
      | false =>
          unfold takeDown
          rw [display_bind, free]
          dsimp only
          rw [bind_apply, retire_idle serves]
          rfl

namespace Act

theorem destroy_answer (d : Display) (h : Hub) : (destroy (some d) h).1 = d.destroyAnswer := by
  have left := Serve.takeDown_answer d h
  change (decommission d h).1 = _
  unfold decommission
  rcases ending : Serve.takeDown (d, h) with ⟨(f | _) | _, e, g⟩
  all_goals
    rw [ending] at left
    exact left

/-- A display that is destroyed returns what it holds, and nothing else happens. -/
theorem unlogged_destroy (d : Display) (h : Hub) :
    (destroy (some d) h).2.unlogged = h.unlogged.relieve d := by
  have rest := Hub.ignoresDealing_rest.decommission d h
  have dealt := ground_decommission d h
  have parts (u : Hub) (c : Compositor) (a : Allocator) (compositor : u.compositor = c)
      (allocator : u.allocator = a) : u.unlogged =
        { { u with journal := {}, compositor := {}, allocator := {} : Hub } with
          compositor := c, allocator := a } := by
    rw [← compositor, ← allocator]
    rfl
  change (decommission d h).2.unlogged = _
  rw [parts _ _ _ (Hub.compositor_of_ground dealt) (Hub.allocator_of_ground dealt), rest]
  rfl

theorem unlogged_destroyEach (held : List Display) (h : Hub) :
    (destroyEach held h).2.unlogged = held.foldl Hub.relieve h.unlogged :=
  each_view (fun d h => unlogged_destroy d h) held h

/-- Displays that are destroyed leave the same behind in any order. -/
theorem unlogged_destroyEach_perm {held others : List Display} (same : held.Perm others)
    (h : Hub) :
    (destroyEach held h).2.unlogged = (destroyEach others h).2.unlogged := by
  rw [unlogged_destroyEach, unlogged_destroyEach]
  exact same.foldl_eq' (fun d _ e _ u => Hub.relieve_comm u d e) _

end Act

namespace Session

/-- The compositor of a hub that is up deals lawfully, and knows the hardware. -/
theorem upAndLawful_after {s : Session} (fresh : s.hub.Fresh) {steps : List Step}
    (ordinary : ∀ step ∈ steps, step.ordinary = true) (up : (s.after steps).hub.initialized = true)
    {t : Topology} (alwaysReports : (s.after steps).hub.AlwaysReports t) :
    ∃ r, (s.after steps).hub.UpAndLawful t r := by
  have before : (s.ledger 0 0).WellFormed := by
    rw [ledger_of_fresh fresh]
    exact ⟨Accounted.new, Compositor.lawful_new, fun up => nomatch up⟩
  have wellFormed := upholds_after (fun _ => True) Ledger.WellFormed.move
    (fun _ wellFormed => ⟨wellFormed.accounts, wellFormed.lawful, wellFormed.linked⟩) before
    ordinary fun _ _ => trivial
  obtain ⟨setup, work, -⟩ := wellFormed.linked up
  exact ⟨setup.resource, up, ⟨setup.extension, work⟩, wellFormed.lawful, alwaysReports⟩

/-- As long as the hardware reports the same, it makes no difference in which order
    displays are created, whatever was done before. It never makes one in which order
    they are destroyed: what is answered is up to each display, and what is left is the
    same but for the journal. -/
theorem orderIndependent_after {s : Session} (fresh : s.hub.Fresh) {earlier : List Step}
    (ordinary : ∀ step ∈ earlier, step.ordinary = true)
    (up : (s.after earlier).hub.initialized = true) {t : Topology}
    (alwaysReports : (s.after earlier).hub.AlwaysReports t)
    {requests others : List (Request × Option Handler)} (same : requests.Perm others)
    (met : ∀ answer ∈ (Act.fulfilEach requests (s.after earlier).hub).1, ∃ d, answer = .ok d) :
    (s.after earlier).hub.OrderIndependent requests others ∧
      ∀ (h : Hub) (held : List Display),
      (Act.destroyEach held h).1 = held.map Display.destroyAnswer ∧
        ∀ reordered, held.Perm reordered →
          (Act.destroyEach held h).2.unlogged = (Act.destroyEach reordered h).2.unlogged := by
  obtain ⟨r, upAndLawful⟩ := upAndLawful_after fresh ordinary up alwaysReports
  refine ⟨upAndLawful.orderIndependent same met, fun h held => ⟨?_, fun reordered alike => ?_⟩⟩
  · exact Act.each_answers Act.destroy_answer held h
  · exact Act.unlogged_destroyEach_perm alike h

/-- A session on hardware with two panels and room for two off-screen displays. -/
def studio : Session :=
  recording false { maxOffscreen := 2 }
    [.scripted 1 .builtIn true, .scripted 2 .pluggable true] none

/-- The hub comes up, and one panel is driven from the start. -/
def opening : List Step :=
  [.bootstrap, .create .builtIn (some .record)]

/-- The other panel is asked for by its number, and off-screen displays in two ways. -/
def wishes : List (Request × Option Handler) :=
  [(.number 2, some .record), (.kind .offscreen, some .announce), (.code 2, some .record)]

/-- They are met in this order, so they are in the reverse one. -/
theorem orderIndependent_after_opening : studio.hub.Fresh ∧
    (∀ step ∈ opening, step.ordinary = true) ∧
    (studio.after opening).hub.initialized = true ∧
    (studio.after opening).hub.AlwaysReports
      (.ofList [.scripted 1 .builtIn true, .scripted 2 .pluggable true]) ∧
    wishes.Perm wishes.reverse ∧
    (∀ answer ∈ (Act.fulfilEach wishes (studio.after opening).hub).1, ∃ d, answer = .ok d) ∧
    (studio.after opening).hub.OrderIndependent wishes wishes.reverse := by
  have fresh : studio.hub.Fresh := fresh_recording _ _ _ _
  have ordinary : ∀ step ∈ opening, step.ordinary = true := by decide
  have alwaysReports : (studio.after opening).hub.AlwaysReports
      (.ofList [.scripted 1 .builtIn true, .scripted 2 .pluggable true]) :=
    Hub.alwaysReports_of_still rfl rfl
  have met : ∀ answer ∈ (Act.fulfilEach wishes (studio.after opening).hub).1, ∃ d,
      answer = .ok d := by
    have all : ∃ d e f, (Act.fulfilEach wishes (studio.after opening).hub).1 =
      [.ok d, .ok e, .ok f] := ⟨_, _, _, rfl⟩
    obtain ⟨d, e, f, all⟩ := all
    rw [all]
    simp
  have same : wishes.Perm wishes.reverse := wishes.reverse_perm.symm
  exact ⟨fresh, ordinary, rfl, alwaysReports, same, met,
    (orderIndependent_after fresh ordinary rfl alwaysReports same met).1⟩

end Session

end DisplayHub
