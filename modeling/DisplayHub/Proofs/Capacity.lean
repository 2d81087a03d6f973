import DisplayHub.Proofs.Dealing
import DisplayHub.Proofs.Frame
import Mathlib.Data.List.Perm.Basic

/-!
# Capacity

What the compositor refuses, and that it refuses nothing else.

A token is refused by three scans over the active displays, one after the
other, and each of them stops at the first display too many. What they are
meant for says nothing of an order: a population of displays is within the
hardware if no kind has more members than the hardware supports, those with a
panel have a mixer each, and no number stands twice. `Resource.Allows` is this
condition, said of the whole population that there would be.

The scans look only at what the new display adds, so they agree with the
condition where the population so far is within the hardware. It always is
(`Lawful`), and that is where the reachable states come in: of a compositor
that drove too many displays already, a new off-screen display would be granted
a token and the population not be allowed.

The condition is on a population and not on a sequence. It does not depend on
an order, and it holds of every part of a population if it holds of the whole.
So it also decides about many displays at once, whatever order they come in.

## Main definitions

* `Active.role`, `Compositor.roles`: What the compositor knows of a display but
  its token.
* `Resource.Allows`: A population of displays is within the hardware.
* `Demand.act`: A demand, made of the compositor as the hub's collaborator.
* `Hub.demandAll`: The hub after a sequence of demands.
* `Hub.issued`: The tokens that were answered on the way.
* `Compositor.Answers`, `Compositor.RevokesOnly`: What comes of one demand more.

## Theorems

* `Resource.Allows.perm`, `Resource.Allows.sublist`: The condition is on a
  population, and on its parts.
* `Compositor.refusal?_eq_none_iff_allows`: The scans agree with the condition.
* `Compositor.answers_of_granted`, `Compositor.answers_of_refused`: Either answer
  is right.
* `Hub.issued_rising`: Tokens are issued in rising order.
* `Hub.answers_after`: No display is refused without need.
-/

namespace DisplayHub

/-- What the compositor knows of a display but its token. -/
def Active.role (a : Active) : Variant × Option Int32 :=
  (a.variant, a.id)

/-- The active displays, without their tokens. -/
def Compositor.roles (c : Compositor) : List (Variant × Option Int32) :=
  c.active.map Active.role

/-- A population of displays is within the hardware. -/
structure Resource.Allows (r : Resource) (roles : List (Variant × Option Int32)) : Prop where
  /-- No kind has more members than the hardware supports. -/
  limits : ∀ v, (roles.countP fun role => role.1 = v) ≤ r.limit v
  /-- Every display with a panel has a mixer. -/
  mixers : (roles.countP fun role => role.1 ≠ .offscreen) ≤ r.mixers.toNat
  /-- No number stands twice. -/
  apart : (roles.filterMap (·.2)).Nodup

namespace Resource

variable {r : Resource} {roles others : List (Variant × Option Int32)}

/-- The order of a population does not matter. -/
theorem Allows.perm (allows : r.Allows roles) (same : roles.Perm others) : r.Allows others where
  limits v := by
    rw [← same.countP_eq]
    exact allows.limits v
  mixers := by
    rw [← same.countP_eq]
    exact allows.mixers
  apart := (same.filterMap _).nodup_iff.mp allows.apart

/-- A part of a population is within the hardware if the whole is. -/
theorem Allows.sublist (allows : r.Allows others) (part : roles.Sublist others) :
    r.Allows roles where
  limits v := Nat.le_trans part.countP_le (allows.limits v)
  mixers := Nat.le_trans part.countP_le allows.mixers
  apart := allows.apart.sublist (part.filterMap _)

/-- One display more is allowed if the rest is, its number is free, and there is
    room in its kind and on the mixers. -/
theorem allows_cons_iff {v : Variant} {id : Option Int32} (allows : r.Allows roles) :
    r.Allows ((v, id) :: roles) ↔
      (∀ i, id = some i → i ∉ roles.filterMap (·.2)) ∧
      (roles.countP fun role => role.1 = v) < r.limit v ∧
      (v ≠ .offscreen → (roles.countP fun role => role.1 ≠ .offscreen) < r.mixers.toNat) := by
  constructor
  · intro all
    refine ⟨?_, ?_, fun panel => ?_⟩
    · rintro i rfl
      exact (List.nodup_cons.mp all.apart).1
    · have room := all.limits v
      simp only [List.countP_cons, decide_true, if_true] at room
      omega
    · have room := all.mixers
      simp only [List.countP_cons, decide_eq_true_eq, if_pos panel] at room
      omega
  · -- one display more counts in its own kind, and on the mixers if it needs one
    rintro ⟨free, room, mixer⟩
    refine ⟨fun w => ?_, ?_, ?_⟩
    · have kept := allows.limits w
      simp only [List.countP_cons, decide_eq_true_eq]
      by_cases same : v = w
      · rw [if_pos same, ← same]
        omega
      · rw [if_neg same]
        exact kept
    · have kept := allows.mixers
      simp only [List.countP_cons, decide_eq_true_eq]
      by_cases panel : v ≠ .offscreen
      · have := mixer panel
        rw [if_pos panel]
        omega
      · rw [if_neg panel]
        exact kept
    · cases id with
      | none => exact allows.apart
      | some i => exact List.nodup_cons.mpr ⟨free i rfl, allows.apart⟩

end Resource

namespace Compositor

variable {c : Compositor} {s : Setup} {v : Variant} {id : Option Int32}

theorem countP_roles (p : Variant → Bool) :
    (c.roles.countP fun role => p role.1) = c.active.countP fun a => p a.variant := by
  unfold roles
  rw [List.countP_map]
  rfl

theorem mem_numbers_iff {i : Int32} :
    i ∈ c.roles.filterMap (·.2) ↔ ∃ a ∈ c.active, a.id = some i := by
  simp only [roles, List.mem_filterMap, List.mem_map, exists_exists_and_eq_and, Active.role]

/-- What is dealt out lawfully is within the hardware. -/
theorem Lawful.allows (lawful : c.Lawful) (work : c.setup = some s) :
    s.resource.Allows c.roles where
  limits v := by
    rw [countP_roles fun w => decide (w = v)]
    exact lawful.limits s work v
  mixers := by
    rw [countP_roles fun w => decide (w ≠ .offscreen)]
    have kept := lawful.mixers s work
    rw [← onMixers_eq] at kept
    exact kept
  apart := by
    refine List.pairwise_filterMap.mpr (List.pairwise_map.mpr (lawful.apart.imp ?_))
    intro a b differ i first j second
    rintro rfl
    exact differ i first second

/-- The scans refuse a display exactly if there would be too many, or its number
    twice. -/
theorem refusal?_eq_none_iff_allows (lawful : c.Lawful) (work : c.setup = some s) :
    c.refusal? v id = none ↔ s.resource.Allows ((v, id) :: c.roles) := by
  have kind : (c.roles.countP fun role => role.1 = v) = c.countOf v :=
    countP_roles fun w => decide (w = v)
  have panels : (c.roles.countP fun role => role.1 ≠ .offscreen) = c.onMixers :=
    countP_roles fun w => decide (w ≠ .offscreen)
  have numbers (i : Int32) : i ∉ c.roles.filterMap (·.2) ↔ ∀ a ∈ c.active, a.id ≠ some i := by
    rw [mem_numbers_iff]
    simp only [not_exists, not_and, ne_eq]
  rw [refusal?_eq_none_iff, Resource.allows_cons_iff (lawful.allows work), kind, panels]
  simp only [work, Option.some.injEq, exists_eq_left', numbers]

/-- What a compositor says to one display too many. At work it is out of
    resources, and otherwise it is not at work. -/
theorem failure_of_refusal? {refusal : Refusal} (refused : c.refusal? v id = some refusal) :
    refusal.failure = if c.setup = none then .notInitialized else .resources := by
  unfold refusal? at refused
  cases work : c.setup with
  | none =>
      rw [work] at refused
      obtain rfl := Option.some.inj refused
      rfl
  | some s =>
      rw [work] at refused
      rw [if_neg (Option.some_ne_none s)]
      dsimp only at refused
      -- at work there are three reasons to refuse, and all of them are told as one failure
      cases driven : id.filter c.drives with
      | some i =>
          rw [driven] at refused
          obtain rfl := Option.some.inj refused
          rfl
      | none =>
          rw [driven] at refused
          dsimp only at refused
          by_cases full : s.resource.limit v ≤ c.countOf v
          · rw [if_pos full] at refused
            obtain rfl := Option.some.inj refused
            rfl
          · rw [if_neg full] at refused
            by_cases busy : v ≠ .offscreen ∧ s.resource.mixers.toNat ≤ c.onMixers
            · rw [if_pos busy] at refused
              obtain rfl := Option.some.inj refused
              rfl
            · rw [if_neg busy] at refused
              nomatch refused

end Compositor

/-! ### Demands, made of the hub's compositor -/

namespace Act

/-- Nothing follows on a refusal, which changes nothing but the records. -/
theorem refused_bind {α β : Type} (refusal : Refusal) (f : α → Act β) (h : Hub) : ∃ h',
    (ofCompositor (.error refusal) >>= f) h = (.error (.failure refusal.failure), h') ∧
      h'.compositor = h.compositor := by
  rw [bind_apply]
  unfold ofCompositor
  dsimp only
  cases refusal.warning? with
  | none => exact ⟨h, rfl, rfl⟩
  | some text => exact ⟨h.note .warn text, rfl, rfl⟩

/-- What is made of a value leaves no more behind. -/
theorem bind_pure_apply {α β : Type} (act : Act α) (f : α → β) (h : Hub) :
    (act >>= fun a => pure (f a) : Act β) h = ((act h).1.map f, (act h).2) := by
  rw [bind_apply]
  rcases act h with ⟨_ | a, u⟩
  · rfl
  · rfl

theorem compositor_takeUp (resource : Resource) (extension : Option Extension) (h : Hub) :
    (takeUp resource extension h).2.compositor
      = h.compositor.settle (h.compositor.start resource extension) := by
  unfold takeUp
  rw [get_bind]
  cases h.compositor.start resource extension with
  | ok c => rfl
  | error refusal =>
      obtain ⟨h', ran, same⟩ := refused_bind refusal _ h
      rw [ran]
      exact same

theorem compositor_chooseMode (mode : BandwidthMode) (h : Hub) :
    (chooseMode mode h).2.compositor = h.compositor.settle (h.compositor.setMode mode) := by
  unfold chooseMode
  rw [get_bind]
  cases h.compositor.setMode mode with
  | ok c => rfl
  | error refusal =>
      obtain ⟨h', ran, same⟩ := refused_bind refusal _ h
      rw [ran]
      exact same

/-- The compositor grants its next token, or says why it does not. -/
theorem grant_apply (v : Variant) (id : Option Int32) (h : Hub) : ∃ h',
    grant v id h = ((h.compositor.register v id).map (·.1) |>.mapError (.failure ·.failure), h') ∧
      h'.compositor = h.compositor.settle ((h.compositor.register v id).map (·.2)) := by
  unfold grant
  rw [get_bind]
  cases h.compositor.register v id with
  | ok granted => exact ⟨_, rfl, rfl⟩
  | error refusal =>
      obtain ⟨h', ran, same⟩ := refused_bind refusal _ h
      exact ⟨h', ran, same⟩

end Act

namespace Hub

theorem compositor_leave (h : Hub) : h.leave.compositor = h.compositor.stop := by
  have stopped (u : Hub) (e : Option Extension) (text : String) :
      ((u.letGo? e).note .info text).compositor = u.compositor :=
    compositor_of_ground ((ground_note ..).trans (ground_letGo? e u)
      : _ = u.dealing u.compositor u.allocator)
  unfold leave
  dsimp only
  rw [stopped]
  by_cases idle : h.compositor.active.length = 0
  · rw [if_pos idle]
  · rw [if_neg idle]
    rfl

theorem compositor_revoke (token : Nat) (h : Hub) :
    (h.revoke token).compositor = h.compositor.unregister token := by
  unfold revoke
  dsimp only
  by_cases known : h.compositor.knows token = true
  · rw [if_pos known]
  · rw [if_neg known]
    rfl

end Hub

/-- A demand, made of the compositor as the hub's collaborator. The answer is the
    token, if one was demanded. -/
def Demand.act : Demand → Act (Option Nat)
  | .start resource extension => do
    Act.takeUp resource extension
    return none
  | .stop => do
    modify Hub.leave
    return none
  | .setMode mode => do
    Act.chooseMode mode
    return none
  | .register variant id => do
    let token ← Act.grant variant id
    return some token
  | .unregister token => do
    modify (Hub.revoke token)
    return none

namespace Hub

/-- The hub after a sequence of demands on its compositor. -/
def demandAll (demands : List Demand) (h : Hub) : Hub :=
  demands.foldl (fun h demand => (demand.act h).2) h

/-- The tokens that are answered to a sequence of demands. -/
def issued (h : Hub) : List Demand → List Nat
  | [] => []
  | demand :: rest => match demand.act h with
    | (.ok (some token), h') => token :: h'.issued rest
    | (_, h') => h'.issued rest

end Hub

/-- A demand does to the compositor what the compositor decides. -/
theorem Demand.act_compositor (demand : Demand) (h : Hub) :
    (demand.act h).2.compositor = h.compositor.after demand := by
  have answered {α : Type} (act : Act α) (f : α → Option Nat) :
      ((act >>= fun a => pure (f a) : Act _) h).2.compositor = (act h).2.compositor := by
    rw [Act.bind_pure_apply]
  cases demand with
  | start resource extension =>
      exact (answered (Act.takeUp resource extension) _).trans
        (Act.compositor_takeUp resource extension h)
  | stop => exact h.compositor_leave
  | setMode mode =>
      exact (answered (Act.chooseMode mode) _).trans (Act.compositor_chooseMode mode h)
  | register v id =>
      obtain ⟨u, ran, left⟩ := Act.grant_apply v id h
      refine (answered (Act.grant v id) _).trans ?_
      rw [ran]
      exact left
  | unregister token => exact h.compositor_revoke token

/-- The only token that is answered is the next one, and it is counted. -/
theorem Demand.token_of_act {demand : Demand} {h h' : Hub} {token : Nat}
    (run : demand.act h = (.ok (some token), h')) :
    token = h.compositor.nextToken ∧ h'.compositor.nextToken = token + 1 := by
  -- the other demands answer no token at all
  have silent {α : Type} {act : Act α}
      (answered : (act >>= fun _ => pure none : Act (Option Nat)) h = (.ok (some token), h')) :
      False := by
    rw [Act.bind_pure_apply] at answered
    cases ending : (act h).1 with
    | ok a =>
        rw [ending] at answered
        nomatch (Prod.mk.inj answered).1
    | error stop =>
        rw [ending] at answered
        nomatch (Prod.mk.inj answered).1
  cases demand with
  | start resource extension => exact (silent run).elim
  | stop => exact (silent run).elim
  | setMode mode => exact (silent run).elim
  | unregister place => exact (silent run).elim
  | register v id =>
      obtain ⟨u, ran, left⟩ := Act.grant_apply v id h
      have passed := (Act.bind_pure_apply (Act.grant v id) some h).symm.trans run
      rw [ran] at passed
      cases registered : h.compositor.register v id with
      | error refusal =>
          rw [registered] at passed
          nomatch (Prod.mk.inj passed).1
      | ok granted =>
          rw [registered] at passed left
          obtain ⟨answer, rfl⟩ := Prod.mk.inj passed
          obtain ⟨-, next, dealt⟩ := Compositor.register_eq_ok registered
          obtain rfl : granted.1 = token := Option.some.inj (Except.ok.inj answer)
          refine ⟨next, ?_⟩
          rw [left, next]
          exact congrArg Compositor.nextToken dealt

namespace Compositor

/-- No demand takes a token out of the count. -/
theorem nextToken_le_after (c : Compositor) (demand : Demand) :
    c.nextToken ≤ (c.after demand).nextToken := by
  cases demand with
  | start resource extension =>
      dsimp only [after]
      cases started : c.start resource extension with
      | error refusal => exact Nat.le_refl _
      | ok c' =>
          obtain ⟨-, -, rfl⟩ := start_eq_ok started
          exact Nat.le_refl _
  | stop => exact Nat.le_refl _
  | setMode mode =>
      dsimp only [after]
      cases chosen : c.setMode mode with
      | error refusal => exact Nat.le_refl _
      | ok c' =>
          obtain ⟨_, -, -, rfl⟩ := setMode_eq_ok chosen
          exact Nat.le_refl _
  | register v id =>
      dsimp only [after]
      cases granted : c.register v id with
      | error refusal => exact Nat.le_refl _
      | ok answer =>
          -- this is the one demand that moves the count
          obtain ⟨-, -, same⟩ := register_eq_ok granted
          change c.nextToken ≤ answer.2.nextToken
          rw [same]
          exact Nat.le_succ _
  | unregister token => exact Nat.le_refl _

theorem nextToken_le_afterAll (c : Compositor) (demands : List Demand) :
    c.nextToken ≤ (c.afterAll demands).nextToken := by
  induction demands generalizing c with
  | nil => exact Nat.le_refl _
  | cons demand rest ih => exact Nat.le_trans (c.nextToken_le_after demand) (ih (c.after demand))

/-- What a compositor answers to one display more, and what it is after that.
    The tokens are those that it issued before. -/
structure Answers (c : Compositor) (issued : List Nat) (v : Variant) (id : Option Int32)
    (answer : Except Stop Nat) (c' : Compositor) : Prop where
  idle : answer = .error (.failure .notInitialized) ↔ c.setup = none
  full : answer = .error (.failure .resources) ↔
    ∃ s, c.setup = some s ∧ ¬ s.resource.Allows ((v, id) :: c.roles)
  granted : ∀ s, c.setup = some s → s.resource.Allows ((v, id) :: c.roles) →
    ∃ token, answer = .ok token
  /-- A token is a new one, and the display it was granted to is all that is
      added. -/
  added : ∀ token, answer = .ok token → token ∉ issued ∧
    c' = { c with active := c.active ++ [⟨token, v, id⟩], nextToken := token + 1 }
  refused : ∀ stop, answer = .error stop → c' = c

/-- What a compositor is once it took a token back. -/
structure RevokesOnly (c : Compositor) (token : Nat) (c' : Compositor) : Prop where
  /-- The display that is named is all that is missing. -/
  named : ∀ a ∈ c.active, a.token = token → c.active.Perm (a :: c'.active)
  /-- A token that names no display changes nothing. -/
  unknown : (∀ a ∈ c.active, a.token ≠ token) → c' = c
  kept : c' = { c with active := c'.active }

/-- A display that is not refused gets the next token, and that is right. -/
theorem answers_of_granted {c : Compositor} (lawful : c.Lawful) {issued : List Nat}
    (counted : ∀ token ∈ issued, token < c.nextToken) {v : Variant} {id : Option Int32}
    (free : c.refusal? v id = none) :
    c.Answers issued v id (.ok c.nextToken) (c.grant v id) := by
  obtain ⟨s, work, -⟩ := refusal?_eq_none_iff.mp free
  have allowed := (refusal?_eq_none_iff_allows lawful work).mp free
  refine ⟨?_, ?_, fun _ _ _ => ⟨_, rfl⟩, ?_, fun stop refused => nomatch refused⟩
  · simp only [reduceCtorEq, work]
  · simp only [reduceCtorEq, work, Option.some.injEq, exists_eq_left', false_iff, not_not]
    exact allowed
  · intro token granted
    obtain rfl := Except.ok.inj granted
    exact ⟨fun known => Nat.lt_irrefl _ (counted _ known), rfl⟩

/-- A display that is refused is told why, and that is right as well. -/
theorem answers_of_refused {c : Compositor} (lawful : c.Lawful) (issued : List Nat) {v : Variant}
    {id : Option Int32} {refusal : Refusal} (refused : c.refusal? v id = some refusal) :
    c.Answers issued v id (.error (.failure refusal.failure)) c := by
  have failure := failure_of_refusal? refused
  have full (s : Setup) (work : c.setup = some s) : ¬ s.resource.Allows ((v, id) :: c.roles) := by
    rw [← refusal?_eq_none_iff_allows lawful work, refused]
    exact Option.some_ne_none refusal
  refine ⟨?_, ?_, fun s work allowed => absurd allowed (full s work),
    fun _ granted => (nomatch granted), fun _ _ => rfl⟩
  · rw [failure]
    by_cases resting : c.setup = none
    · simp only [resting, if_true]
    · simp only [resting, if_false, Except.error.injEq, Stop.failure.injEq, reduceCtorEq]
  · rw [failure]
    cases work : c.setup with
    | none => simp only [if_true, Except.error.injEq, Stop.failure.injEq, reduceCtorEq,
        false_and, exists_false]
    | some s =>
        simp only [reduceCtorEq, if_false, Option.some.injEq, exists_eq_left', true_iff]
        exact full s work

/-- Nothing is taken back for a token that is not granted. -/
theorem unregister_unknown {c : Compositor} {token : Nat}
    (unknown : ∀ a ∈ c.active, a.token ≠ token) : c.unregister token = c := by
  have all : (c.active.filter fun a => a.token ≠ token) = c.active :=
    List.filter_eq_self.mpr fun a active => decide_eq_true (unknown a active)
  unfold unregister
  rw [all]

theorem revokesOnly_unregister {c : Compositor} (lawful : c.Lawful) (token : Nat) :
    c.RevokesOnly token (c.unregister token) where
  named a active named := by
    obtain ⟨before, later, split⟩ := List.append_of_mem active
    have rising := lawful.rising
    rw [split] at rising
    obtain ⟨-, after, apart⟩ := List.pairwise_append.mp rising
    -- the others have lower tokens or higher ones
    have lower : (before.filter fun b => b.token ≠ token) = before :=
      List.filter_eq_self.mpr fun b early => decide_eq_true (by
        have := apart b early a List.mem_cons_self
        omega)
    have higher : (later.filter fun b => b.token ≠ token) = later :=
      List.filter_eq_self.mpr fun b late => decide_eq_true (by
        have := List.rel_of_pairwise_cons after late
        omega)
    have rest : (c.unregister token).active = before ++ later := by
      unfold unregister
      rw [split, List.filter_append, lower, List.filter_cons_of_neg (by simp [named]), higher]
    rw [rest, split]
    exact List.perm_middle
  unknown := unregister_unknown
  kept := rfl

end Compositor

namespace Hub

theorem compositor_demandAll (demands : List Demand) (h : Hub) :
    (h.demandAll demands).compositor = h.compositor.afterAll demands := by
  induction demands generalizing h with
  | nil => rfl
  | cons demand rest ih =>
      refine (ih (demand.act h).2).trans ?_
      rw [demand.act_compositor]
      rfl

/-- A demand issues the next token, which is counted, or none at all. -/
theorem issued_cons_cases (demand : Demand) (rest : List Demand) (h : Hub) :
    h.issued (demand :: rest) = (demand.act h).2.issued rest ∨
      (h.issued (demand :: rest) = h.compositor.nextToken :: (demand.act h).2.issued rest ∧
        (h.compositor.after demand).nextToken = h.compositor.nextToken + 1) := by
  rw [← demand.act_compositor]
  simp only [issued]
  rcases run : demand.act h with ⟨_ | (_ | token), h'⟩
  · exact Or.inl rfl
  · exact Or.inl rfl
  · obtain ⟨rfl, counted⟩ := Demand.token_of_act run
    exact Or.inr ⟨rfl, counted⟩

/-- Tokens are issued in rising order, from the next one on. -/
theorem issued_rising (demands : List Demand) (h : Hub) :
    (h.issued demands).Pairwise (· < ·) ∧ ∀ token ∈ h.issued demands,
      h.compositor.nextToken ≤ token ∧ token < (h.compositor.afterAll demands).nextToken := by
  induction demands generalizing h with
  | nil => exact ⟨List.Pairwise.nil, fun token none => nomatch none⟩
  | cons demand rest ih =>
      obtain ⟨rising, later⟩ := ih (demand.act h).2
      rw [demand.act_compositor] at later
      have counted := h.compositor.nextToken_le_after demand
      have ends := (h.compositor.after demand).nextToken_le_afterAll rest
      change _ ∧ ∀ token ∈ _, _ ∧ token < ((h.compositor.after demand).afterAll rest).nextToken
      -- the first token is the next one then, and the rest starts behind it
      rcases issued_cons_cases demand rest h with same | ⟨next, one⟩
      · rw [same]
        refine ⟨rising, fun token issued => ?_⟩
        have := later token issued
        omega
      · rw [next]
        refine ⟨List.pairwise_cons.mpr ⟨fun token issued => ?_, rising⟩, fun token issued => ?_⟩
        · have := later token issued
          omega
        · rcases List.mem_cons.mp issued with rfl | issued
          · omega
          · have := later token issued
            omega

/-- A compositor that deals lawfully refuses no display without need. -/
theorem answers_of_lawful {h : Hub} (lawful : h.compositor.Lawful) {issued : List Nat}
    (counted : ∀ token ∈ issued, token < h.compositor.nextToken) (v : Variant)
    (id : Option Int32) :
    h.compositor.Answers issued v id (Act.grant v id h).1 (Act.grant v id h).2.compositor := by
  obtain ⟨h', ran, left⟩ := Act.grant_apply v id h
  rw [ran]
  change h.compositor.Answers issued v id _ h'.compositor
  rw [left]
  unfold Compositor.register
  cases answer : h.compositor.refusal? v id with
  | none => exact Compositor.answers_of_granted lawful counted answer
  | some refusal => exact Compositor.answers_of_refused lawful issued answer

/-- No display is refused without need, and no token is taken back from another
    display: whatever was demanded of a compositor since it was new. -/
theorem answers_after (h : Hub) (demands : List Demand) (v : Variant) (id : Option Int32)
    (token : Nat) :
    let new := { h with compositor := {} }
    let u := new.demandAll demands
    u.compositor.Answers (new.issued demands) v id (Act.grant v id u).1
        (Act.grant v id u).2.compositor ∧
      u.compositor.RevokesOnly token (u.revoke token).compositor := by
  intro new u
  have lawful : u.compositor.Lawful := by
    rw [compositor_demandAll]
    exact Compositor.lawful_afterAll demands
  have counted (token : Nat) (known : token ∈ new.issued demands) :
      token < u.compositor.nextToken := by
    rw [compositor_demandAll]
    exact ((issued_rising demands new).2 token known).2
  refine ⟨answers_of_lawful lawful counted v id, ?_⟩
  rw [compositor_revoke]
  exact Compositor.revokesOnly_unregister lawful token

end Hub

end DisplayHub
