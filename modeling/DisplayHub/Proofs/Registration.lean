import DisplayHub.Proofs.Dealing
import DisplayHub.Proofs.Run
import Mathlib.Data.List.Nodup

/-!
# Who Is Active

What is active in the compositor is what held displays claim, each under its
own token.

The compositor has a list of what is active, and every display has its token.
Neither looks at the other's: the compositor believes whoever returns a token,
and a display believes its token until it returns it. They agree nevertheless
(`Accounted`), and the reason is that tokens are numbered on. A token that was
just granted is one that nobody holds, so taking back the token of one display
can never take anything from another.

When the hub goes down, every token is revoked and every display keeps its
own. From then on those tokens count for nothing. The floor is how far the
numbers had come, and a token counts if it is not below it; a display that
holds one from before returns it in the end like any other, and nothing is
active under it then.

A display in service keeps its number. That is not because nothing binds it
again, but because one that is bound stays bound, and one that is in service
is bound, unless it is off-screen and never looks for its entry.

## Main definitions

* `Display.claim`: What a display has to be active as.
* `Display.current`: Whether a display's token counts.
* `Accounted`: The compositor and the displays agree.
* `Hub.Matched`: The same, said of slots.

## Theorems

* `Accounted.grant`, `Accounted.release`, `Accounted.stop`: Tokens come and go.
* `Accounted.raise`: A display that is brought into service.
* `Accounted.move`: No entry in the ledger puts the accounts out of order.
* `Hub.slot_unique`: No two slots hold the same token.
* `Session.matched_after`: What is active matches what the slots hold.
-/

namespace DisplayHub

namespace Display

/-- What a display has to be active as, if its token counts. One that was
    granted before the floor does not. -/
def claim (floor : Nat) (d : Display) : Option Active :=
  match d.token with
  | some token => if floor ≤ token then some ⟨token, d.variant, d.id⟩ else none
  | none => none

/-- Whether a display holds a token that counts. -/
def current (floor : Nat) (d : Display) : Bool :=
  (d.claim floor).isSome

variable {d e : Display} {f : Nat} {a : Active}

theorem claim_of_idle (idle : d.token = none) : d.claim f = none := by
  unfold claim
  rw [idle]

theorem claim_of_token {token : Nat} (held : d.token = some token) :
    d.claim f = if f ≤ token then some ⟨token, d.variant, d.id⟩ else none := by
  unfold claim
  rw [held]

/-- A claim is made by the holder of its token, and carries its kind and its
    number. -/
theorem claim_eq_some_iff : d.claim f = some a ↔
    d.token = some a.token ∧ f ≤ a.token ∧ d.variant = a.variant ∧ d.id = a.id := by
  cases held : d.token with
  | none => simp [claim_of_idle held]
  | some token =>
      rw [claim_of_token held]
      by_cases counts : f ≤ token
      · rw [if_pos counts]
        constructor
        · rintro ⟨⟩
          exact ⟨rfl, counts, rfl, rfl⟩
        · rintro ⟨same, -, variant, id⟩
          rw [Option.some.inj same, variant, id]
      · rw [if_neg counts]
        constructor
        · intro none_claimed
          nomatch none_claimed
        · rintro ⟨same, reached, -, -⟩
          rw [Option.some.inj same] at counts
          exact absurd reached counts

end Display

/-- The compositor and those who hold displays agree on who is active. -/
structure Accounted (floor : Nat) (held : List Display) (c : Compositor) : Prop where
  /-- No two displays hold the same token. -/
  distinct : (held.filterMap Display.token).Nodup
  /-- Every token that a display holds was granted. -/
  granted : ∀ token ∈ held.filterMap Display.token, token < c.nextToken
  /-- So was every token below the floor. -/
  reached : floor ≤ c.nextToken
  /-- A display in service is bound to a number, unless it is off-screen. -/
  bound : ∀ d ∈ held, d.initialized = true → d.variant ≠ .offscreen → d.id.isSome = true
  /-- What is active is what displays claim. -/
  active : c.active.Perm (held.filterMap (Display.claim floor))

namespace Accounted

variable {f : Nat} {l l' : List Display} {c c' : Compositor} {d e : Display}

/-- Nobody holds anything of a new compositor. -/
theorem new : Accounted 0 [] {} where
  distinct := List.nodup_nil
  granted _ h := nomatch h
  reached := Nat.le_refl 0
  bound _ h := nomatch h
  active := List.Perm.refl []

theorem perm (h : Accounted f l c) (same : l.Perm l') : Accounted f l' c where
  distinct := (same.filterMap _).nodup_iff.mp h.distinct
  granted token held := h.granted token ((same.filterMap _).mem_iff.mpr held)
  reached := h.reached
  bound d held := h.bound d (same.mem_iff.mpr held)
  active := h.active.trans (same.filterMap _)

/-- A display without a token changes no account. -/
theorem cons_idle_iff (idle : d.token = none) : Accounted f (d :: l) c ↔ Accounted f l c := by
  have tokens : (d :: l).filterMap Display.token = l.filterMap Display.token :=
    List.filterMap_cons_none idle
  have claims : (d :: l).filterMap (Display.claim f) = l.filterMap (Display.claim f) :=
    List.filterMap_cons_none (Display.claim_of_idle idle)
  have resting : ¬ d.initialized = true := by
    unfold Display.initialized
    rw [idle]
    exact Bool.false_ne_true
  -- such a display is in none of the lists that the accounts are about
  constructor
  · rintro ⟨distinct, granted, reached, bound, active⟩
    rw [tokens] at distinct granted
    rw [claims] at active
    exact ⟨distinct, granted, reached, fun e held => bound e (List.mem_cons_of_mem d held), active⟩
  · rintro ⟨distinct, granted, reached, bound, active⟩
    refine ⟨?_, ?_, reached, ?_, ?_⟩
    · rw [tokens]
      exact distinct
    · rw [tokens]
      exact granted
    · rintro e held inService
      rcases List.mem_cons.mp held with rfl | later
      · exact absurd inService resting
      · exact bound e later inService
    · rw [claims]
      exact active

/-- The accounts depend on what is active, and tokens may be numbered on. -/
theorem advance (h : Accounted f l c) (active : c'.active = c.active)
    (later : c.nextToken ≤ c'.nextToken) : Accounted f l c' where
  distinct := h.distinct
  granted token held := Nat.lt_of_lt_of_le (h.granted token held) later
  reached := Nat.le_trans h.reached later
  bound := h.bound
  active := by
    rw [active]
    exact h.active

/-- They depend on what is active and on the next token only. -/
theorem relabel (h : Accounted f l c) (active : c'.active = c.active)
    (next : c'.nextToken = c.nextToken) : Accounted f l c' :=
  h.advance active (Nat.le_of_eq next.symm)

/-- Whatever is active has a token that was granted. -/
theorem known (h : Accounted f l c) : ∀ a ∈ c.active, a.token < c.nextToken := by
  intro a among
  obtain ⟨d, held, claimed⟩ := List.mem_filterMap.mp (h.active.mem_iff.mp among)
  obtain ⟨taken, -⟩ := Display.claim_eq_some_iff.mp claimed
  exact h.granted a.token (List.mem_filterMap.mpr ⟨d, held, taken⟩)

/-- A display can change in everything that it does not claim. -/
theorem touch (h : Accounted f (d :: l) c) (token : e.token = d.token)
    (variant : e.variant = d.variant) (id : d.initialized = true → e.id = d.id) :
    Accounted f (e :: l) c := by
  -- without a token nothing is claimed, so nothing need be the same
  cases held : d.token with
  | none => exact (cons_idle_iff (token.trans held)).mpr ((cons_idle_iff held).mp h)
  | some t =>
      have inService : d.initialized = true := by
        unfold Display.initialized
        rw [held]
        rfl
      have claim : e.claim f = d.claim f := by
        unfold Display.claim
        rw [token, variant, id inService]
      have tokens : (e :: l).filterMap Display.token = (d :: l).filterMap Display.token := by
        simp only [List.filterMap_cons, token]
      have claims : (e :: l).filterMap (Display.claim f) =
          (d :: l).filterMap (Display.claim f) := by
        simp only [List.filterMap_cons, claim]
      refine ⟨?_, ?_, h.reached, ?_, ?_⟩
      · rw [tokens]
        exact h.distinct
      · rw [tokens]
        exact h.granted
      · rintro u among serves panel
        rcases List.mem_cons.mp among with rfl | later
        · rw [variant] at panel
          rw [id inService]
          exact h.bound d List.mem_cons_self inService panel
        · exact h.bound u (List.mem_cons_of_mem d later) serves panel
      · rw [claims]
        exact h.active

/-- A display that gets the next token is active under it. -/
theorem grant (h : Accounted f (d :: l) c) (idle : d.token = none)
    (token : e.token = some c.nextToken)
    (bound : e.variant ≠ .offscreen → e.id.isSome = true) :
    Accounted f (e :: l) (c.grant e.variant e.id) := by
  have others := (cons_idle_iff idle).mp h
  have tokens : (e :: l).filterMap Display.token =
      c.nextToken :: l.filterMap Display.token := List.filterMap_cons_some token
  have claims : (e :: l).filterMap (Display.claim f) =
      ⟨c.nextToken, e.variant, e.id⟩ :: l.filterMap (Display.claim f) := by
    refine List.filterMap_cons_some ?_
    rw [Display.claim_of_token token, if_pos h.reached]
  refine ⟨?_, ?_, Nat.le_succ_of_le h.reached, ?_, ?_⟩
  · -- whoever holds a token holds one that was granted, and this one was not
    rw [tokens]
    refine List.nodup_cons.mpr ⟨fun held => ?_, others.distinct⟩
    exact Nat.lt_irrefl _ (others.granted _ held)
  · rw [tokens]
    intro t held
    rcases List.mem_cons.mp held with rfl | later
    · exact Nat.lt_succ_self _
    · exact Nat.lt_succ_of_lt (others.granted t later)
  · rintro u among serves panel
    rcases List.mem_cons.mp among with rfl | later
    · exact bound panel
    · exact others.bound u later serves panel
  · rw [claims]
    exact (List.perm_append_singleton _ _).trans (others.active.cons _)

/-- A display that is gone has returned its token, and no other token goes with
    it. -/
theorem release (h : Accounted f (d :: l) c) : Accounted f l (d.release c) := by
  unfold Display.release
  cases held : d.token with
  | none => exact (cons_idle_iff held).mp h
  | some t =>
      have tokens : (d :: l).filterMap Display.token = t :: l.filterMap Display.token :=
        List.filterMap_cons_some held
      have distinct := h.distinct
      have granted := h.granted
      rw [tokens] at distinct granted
      obtain ⟨own, distinct⟩ := List.nodup_cons.mp distinct
      refine ⟨distinct, fun u later => granted u (List.mem_cons_of_mem t later), h.reached,
        fun u later => h.bound u (List.mem_cons_of_mem d later), ?_⟩
      -- the others claim nothing under this token
      have others : (l.filterMap (Display.claim f)).filter (fun a => a.token ≠ t) =
          l.filterMap (Display.claim f) := by
        refine List.filter_eq_self.mpr fun a among => ?_
        obtain ⟨u, later, claimed⟩ := List.mem_filterMap.mp among
        have theirs := (Display.claim_eq_some_iff.mp claimed).1
        refine decide_eq_true fun same => own ?_
        rw [← same]
        exact List.mem_filterMap.mpr ⟨u, later, theirs⟩
      -- the display's own claim goes, if its token counted at all
      have returned := h.active.filter fun a => a.token ≠ t
      rw [List.filterMap_cons] at returned
      cases claimed : d.claim f with
      | none =>
          rw [claimed] at returned
          dsimp only at returned
          rw [others] at returned
          exact returned
      | some a =>
          have same : t = a.token :=
            Option.some.inj (held.symm.trans (Display.claim_eq_some_iff.mp claimed).1)
          rw [claimed] at returned
          dsimp only at returned
          rw [List.filter_cons_of_neg (by simp [same]), others] at returned
          exact returned

/-- Once every token is revoked, no token counts that was granted before. -/
theorem stop (h : Accounted f l c) : Accounted c.nextToken l c.stop where
  distinct := h.distinct
  granted := h.granted
  reached := Nat.le_refl _
  bound := h.bound
  active := by
    -- the floor is above every token that was granted
    have none_claimed : l.filterMap (Display.claim c.nextToken) = [] := by
      refine List.filterMap_eq_nil_iff.mpr fun d among => ?_
      cases held : d.token with
      | none => exact Display.claim_of_idle held
      | some t =>
          have below := h.granted t (List.mem_filterMap.mpr ⟨d, among, held⟩)
          rw [Display.claim_of_token held, if_neg (Nat.not_le_of_lt below)]
    rw [none_claimed]
    exact List.Perm.refl []

/-- Whatever comes of bringing a display into service, the accounts stay in
    order. -/
theorem raise {h h' : Hub} {r : Except Stop Unit} (before : Accounted f (d :: l) h.compositor)
    (raised : Serve.BringUpOutcome d h r e h') : Accounted f (e :: l) h'.compositor := by
  -- a display in service has its number already, so binding it again is nothing
  have bind (n : Int32) (panel : d.variant ≠ .offscreen) :
      d.initialized = true → (d.bind n).id = d.id := by
    intro inService
    rw [Display.bind_of_bound (before.bound d List.mem_cons_self inService panel)]
  have untouched {u : Hub} (same : u.ground = h.ground)
    (after : Accounted f (e :: l) h.compositor) :
      Accounted f (e :: l) u.compositor := by
    rw [Hub.compositor_of_ground same]
    exact after
  cases raised with
  | bare => exact before
  | missed _ _ same => exact untouched same before
  | unregistered _ n _ panel same => exact untouched same (before.touch rfl rfl (bind n panel))
  | served entry _ panel resting _ dealt =>
      have variant : (d.body.served entry).variant = d.variant := Body.variant_served entry d.body
      rw [Hub.compositor_of_ground dealt, ← variant]
      exact before.grant (Display.token_of_idle resting) rfl fun _ => rfl
  | wasted _ b _ kind dealt =>
      rw [Hub.compositor_of_ground dealt]
      exact before.touch rfl (congrArg Body.variant kind).symm fun _ => rfl
  | abandoned b _ kind _ _ dealt =>
      rw [Hub.compositor_of_ground dealt]
      exact before.touch rfl (congrArg Body.variant kind).symm fun _ => rfl
  | composed b _ kind resting _ dealt =>
      rw [Hub.compositor_of_ground dealt]
      exact before.grant (Display.token_of_idle resting) rfl fun panel => absurd rfl panel

/-- No entry in the ledger puts the accounts out of order. -/
theorem move {a b : Ledger} (move : a.Move b)
    (before : Accounted a.floor a.displays a.stock.compositor) :
    Accounted b.floor b.displays b.stock.compositor := by
  cases move with
  | reorder same => exact before.perm same
  | make idle _ => exact (cons_idle_iff idle).mpr before
  | touch alike => exact before.touch alike.token alike.variant fun _ => alike.id
  | bringUp raised => exact before.raise raised
  | takeDown => exact (cons_idle_iff rfl).mpr before.release
  | drop => exact before.release
  | start started =>
      obtain ⟨-, -, rfl⟩ := Compositor.start_eq_ok started
      exact before.relabel rfl rfl
  | rise started =>
      obtain ⟨-, -, rfl⟩ := Compositor.start_eq_ok started
      exact before.relabel rfl rfl
  | setMode chosen =>
      obtain ⟨_, -, -, rfl⟩ := Compositor.setMode_eq_ok chosen
      exact before.relabel rfl rfl
  | stop => exact before.stop

end Accounted

/-- What is active in the compositor matches what the slots hold. -/
structure Hub.Matched (floor : Nat) (h : Hub) : Prop where
  /-- A display whose token counts is active under it, as what it is. -/
  claimed : ∀ {slot d a}, h.display? slot = some d → d.claim floor = some a →
    a ∈ h.compositor.active
  /-- Whatever is active belongs to the display in exactly one slot. -/
  owned : ∀ a ∈ h.compositor.active, ∃! slot, ∃ d, h.display? slot = some d ∧
    d.claim floor = some a
  /-- No token is active twice. -/
  once : (h.compositor.active.map Active.token).Nodup
  /-- A display whose token was granted before the floor is not active. -/
  stale : ∀ {slot d token}, h.display? slot = some d → d.token = some token → token < floor →
    h.compositor.knows token = false
  /-- As many are active as hold a token that counts. -/
  count : h.compositor.active.length = h.live.countP (Display.current floor)

namespace Hub

variable {h : Hub} {f : Nat} {d e : Display}

theorem mem_live_iff : d ∈ h.live ↔ ∃ slot, h.display? slot = some d := by
  have inside : d ∈ h.live ↔ some d ∈ h.slots := by simp [live]
  rw [inside, List.mem_iff_getElem?]
  exact exists_congr fun slot => Option.join_eq_some_iff.symm

/-- Displays in two slots hold different tokens. -/
theorem slot_unique (distinct : (h.live.filterMap Display.token).Nodup) {i j token : Nat}
    (first : h.display? i = some d) (second : h.display? j = some e)
    (held : d.token = some token) (also : e.token = some token) : i = j := by
  unfold live at distinct
  rw [List.filterMap_filterMap] at distinct
  have apart := List.pairwise_iff_getElem.mp (List.pairwise_filterMap.mp distinct)
  obtain ⟨inI, thereI⟩ := List.getElem?_eq_some_iff.mp (Option.join_eq_some_iff.mp first)
  obtain ⟨inJ, thereJ⟩ := List.getElem?_eq_some_iff.mp (Option.join_eq_some_iff.mp second)
  -- the tokens of two slots stand in the order of the slots
  rcases Nat.lt_trichotomy i j with before | same | behind
  · refine absurd rfl (apart i j inI inJ before token ?_ token ?_)
    · rw [thereI]
      exact held
    · rw [thereJ]
      exact also
  · exact same
  · refine absurd rfl (apart j i inJ inI behind token ?_ token ?_)
    · rw [thereJ]
      exact also
    · rw [thereI]
      exact held

/-- Accounts that are in order match. -/
theorem matched_of_accounted (accounts : Accounted f h.live h.compositor) : h.Matched f where
  claimed held claims :=
    accounts.active.mem_iff.mpr (List.mem_filterMap.mpr ⟨_, mem_live_iff.mpr ⟨_, held⟩, claims⟩)
  owned a active := by
    obtain ⟨d, live, claims⟩ := List.mem_filterMap.mp (accounts.active.mem_iff.mp active)
    obtain ⟨slot, held⟩ := mem_live_iff.mp live
    refine ⟨slot, ⟨d, held, claims⟩, ?_⟩
    -- two displays with one claim would hold one token
    rintro other ⟨e, also, same⟩
    exact slot_unique accounts.distinct also held (Display.claim_eq_some_iff.mp same).1
      (Display.claim_eq_some_iff.mp claims).1
  once := by
    refine (accounts.active.map _).nodup_iff.mpr ?_
    have apart := List.pairwise_filterMap.mp accounts.distinct
    refine List.pairwise_map.mpr (List.pairwise_filterMap.mpr (apart.imp ?_))
    intro d e differ a claims b also
    exact differ _ (Display.claim_eq_some_iff.mp claims).1 _ (Display.claim_eq_some_iff.mp also).1
  stale {_ _ token} _ _ below := by
    refine List.any_eq_false.mpr fun a active => ?_
    obtain ⟨d, -, claims⟩ := List.mem_filterMap.mp (accounts.active.mem_iff.mp active)
    have counts := (Display.claim_eq_some_iff.mp claims).2.1
    rw [decide_eq_true_eq]
    omega
  count := by
    rw [accounts.active.length_eq, List.length_filterMap_eq_countP]
    rfl

end Hub

namespace Session

/-- Whatever was done with a hub and its displays, and in whatever order, what
    is active matches what the slots hold. -/
theorem matched_after {s : Session} (fresh : s.hub.Fresh) {steps : List Step}
    (ordinary : ∀ step ∈ steps, step.ordinary = true) :
    (s.after steps).hub.Matched (s.floorAfter 0 steps) := by
  have before : Accounted (s.ledger 0 0).floor (s.ledger 0 0).displays
      (s.ledger 0 0).stock.compositor := by
    rw [ledger_of_fresh fresh]
    exact Accounted.new
  exact Hub.matched_of_accounted (upholds_after (fun _ => True) Accounted.move
    (fun _ accounts => accounts) before ordinary fun _ _ => trivial)

/-- The hub goes down and comes up again while somebody holds a display. -/
def rebootstrap : List Step :=
  [.bootstrap, .create .builtIn (some .record), .teardown, .bootstrap,
    .create .builtIn (some .record)]

/-- Two displays hold tokens then, and the one that counts is active. -/
theorem matched_after_rebootstrap : bench.hub.Fresh ∧ (∀ step ∈ rebootstrap, step.ordinary = true) ∧
    (bench.after rebootstrap).hub.compositor.active = [⟨1, .builtIn, some 0⟩] ∧
    (bench.after rebootstrap).hub.Matched 1 := by
  have fresh : bench.hub.Fresh := fresh_recording _ _ _ _
  have ordinary : ∀ step ∈ rebootstrap, step.ordinary = true := by decide
  exact ⟨fresh, ordinary, rfl, matched_after fresh ordinary⟩

end Session

end DisplayHub
