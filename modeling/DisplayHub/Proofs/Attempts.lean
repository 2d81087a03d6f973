import DisplayHub.Proofs.Admission
import DisplayHub.Proofs.Run

/-!
# Failed Attempts

What is left of a display that failed to come into service.

Coming into service takes up to three steps that write something down, and the
one that fails may be any of them: the entry is looked for, a buffer is handed
out, and the token is asked for last. Nothing is rolled back by itself, so each
step has to be safe to stop after, or be undone by the one that stops.

The buffer is undone: an off-screen display that gets no token returns it at
once. The number is not undone, and is not meant to be. A panel or an external
display that had no number is bound to the entry that it found, and stays so if
it gets no token, since a number once known belongs to the display for good. So
a second attempt is not a first attempt of the display as it was, but of the
display with its number (`Display.MayResolveTo`), and of that one exactly.

One case is left open here. An off-screen display in service that is brought
up once more gets another buffer before it is turned away, and what it held
before is out of its hands.

## Main definitions

* `Display.MayResolveTo`: A display, or what it is bound to once its entry was found.
* `Serve.SameShown`: An attempt changed nothing that a display shows, but maybe its
  buffer, and nothing that is dealt out.
* `Serve.SameHeld`: Nor did it change the buffer.

## Theorems

* `Serve.failed_resolve`: Where the kinds with an entry can stop.
* `Serve.found_of_panel`, `Serve.sameShown_of_wasted`: What that leaves of them, and
  what is left of a display that returned its buffer.
* `Serve.sameShown_bringUp`: A failed attempt leaves a number at most.
* `Session.traced_crowded`: It may leave one.
-/

namespace DisplayHub

/-- A display as it was, or bound to the entry that the hardware reports for it
    if it had no number. Only a display with a panel looks for an entry without
    one. -/
inductive Display.MayResolveTo (d : Display) (h : Hub) : Display → Prop where
  | nothing : MayResolveTo d h d
  | entry {t : Topology} {e : Entry} (unbound : d.id = none) (panel : d.variant ≠ .offscreen)
      (report : h.report = .ok t) (chosen : d.choose true t = .ok e) :
      MayResolveTo d h (d.bind e.id)

namespace Serve

/-- An attempt changed nothing that a display shows, and nothing that is dealt
    out. -/
structure SameShown (d : Display) (h : Hub) (e : Display) (h' : Hub) : Prop where
  id : e.id = d.id
  name : e.name = d.name
  power : e.power = d.power
  token : e.token = d.token
  compositor : h'.compositor = h.compositor
  outstanding : h'.allocator.outstanding = h.allocator.outstanding

/-- Nor did it change the buffer that the display holds. -/
structure SameHeld (d : Display) (h : Hub) (e : Display) (h' : Hub) : Prop
    extends SameShown d h e h' where
  writeback : e.writeback? = d.writeback?

variable {d e : Display} {h h' : Hub}

theorem sameHeld_of_same (same : h'.ground = h.ground) : SameHeld d h d h' where
  id := rfl
  name := rfl
  power := rfl
  token := rfl
  compositor := Hub.compositor_of_ground (same.trans rfl : _ = h.dealing h.compositor h.allocator)
  outstanding := congrArg Allocator.outstanding
    (Hub.allocator_of_ground (same.trans rfl : _ = h.dealing h.compositor h.allocator))
  writeback := rfl

/-- The kinds with an entry stop before they found it, or when they ask for their
    token. What comes after that does not stop. -/
theorem failed_resolve {rest : Entry → Serve Unit} {stop : Stop} (panel : d.variant ≠ .offscreen)
    (cachesLatest : ∀ entry s, ∃ s', rest entry s = (.ok (), s'))
    (run : (resolve true >>= fun entry => register >>= fun _ => rest entry) (d, h)
      = (.error stop, e, h')) : d.MayResolveTo h e ∧ h'.ground = h.ground := by
  rw [bind_apply, resolve_apply] at run
  cases report : h.report with
  | error barred =>
      rw [report] at run
      obtain ⟨-, rfl, rfl⟩ := ended run
      exact ⟨.nothing, h.ground_asked⟩
  | ok t =>
      rw [report] at run
      dsimp only at run
      cases chosen : d.choose true t with
      | error f =>
          rw [chosen] at run
          obtain ⟨-, rfl, rfl⟩ := ended run
          exact ⟨.nothing, h.ground_asked⟩
      | ok entry =>
          rw [chosen] at run
          dsimp only at run
          rcases bind_cases run with ⟨_, s, -, last⟩ | ⟨_, refused, -⟩
          · obtain ⟨s', done⟩ := cachesLatest entry s
            rw [done] at last
            nomatch (Prod.mk.inj last).1
          · rcases register_cases refused with ⟨_, -, rfl, same, -⟩ | ⟨⟨⟩, -⟩
            refine ⟨?_, same.trans h.ground_asked⟩
            -- a display that was bound before is bound no further
            cases number : d.id with
            | none => exact .entry number panel report chosen
            | some n =>
                rw [Display.bind_of_bound (by rw [number]; rfl)]
                exact .nothing

/-- A display with a panel that fails has at most found its entry, and nothing was
    dealt out. -/
theorem found_of_panel {stop : Stop} (panel : d.variant ≠ .offscreen)
    (run : bringUp (d, h) = (.error stop, e, h')) : d.MayResolveTo h e ∧ h'.ground = h.ground := by
  unfold bringUp at run
  rw [display_bind] at run
  dsimp only at run
  cases kind : d.body with
  | bare v =>
      rw [kind] at run
      nomatch (ended run).1
  | builtIn primary =>
      rw [kind] at run
      -- that a panel is the primary one is noted, and noting does not stop
      refine failed_resolve panel (fun entry s => ?_) run
      by_cases primary : entry.primary = true
      · exact ⟨_, by rw [if_pos primary]; rfl⟩
      · exact ⟨_, by rw [if_neg primary]; rfl⟩
  | pluggable connector =>
      rw [kind] at run
      exact failed_resolve panel (fun entry s => ⟨_, rfl⟩) run
  | offscreen b => exact absurd (congrArg Body.variant kind) panel

/-- An off-screen display that returned the buffer it had just got is as it was but for
    its buffer, and in this too if it had none before. -/
theorem sameShown_of_wasted {b : Option Buffer} (kind : d.body = .offscreen b)
    (dealt : h'.ground = h.dealing h.compositor h.allocator.issue.free) :
    SameShown d h { d with body := .offscreen none } h' ∧
      (d.forgets h h' = false → { d with body := .offscreen none } = d) := by
  have allocator := Hub.allocator_of_ground dealt
  constructor
  · exact {
      id := rfl
      name := rfl
      power := rfl
      token := rfl
      compositor := Hub.compositor_of_ground dealt
      outstanding := by
        rw [allocator]
        rfl }
  · intro cachesLatest
    -- another buffer was handed out, so there was none before
    have renumbered : h'.allocator.nextId ≠ h.allocator.nextId := by
      rw [allocator]
      exact Nat.succ_ne_self _
    have bare : d.writeback? = none := by
      simpa only [Display.forgets, renumbered, ne_eq, not_false_eq_true, decide_true,
        Bool.and_true, Option.isSome_eq_false_iff, Option.isNone_iff_eq_none] using cachesLatest
    have empty : d.body = .offscreen none := by
      unfold Display.writeback? at bare
      rw [kind] at bare
      rw [kind, show b = none from bare]
    rw [← empty]

/-- What a display is that came out of a failed attempt, and where it leaves the
    hub. Its number may be known now, and nothing else is new, unless another
    buffer was handed out to a display that had one. -/
theorem sameShown_bringUp {f : Failure} (run : bringUp (d, h) = (.error (.failure f), e, h')) :
    ∃ k, d.MayResolveTo h k ∧ SameShown k h e h' ∧
      h'.ground = h.dealing h.compositor { h.allocator with nextId := h'.allocator.nextId } ∧
      (d.forgets h h' = false → e = k ∧ SameHeld k h e h') := by
  -- where nothing was dealt out, the display that came out is all there is to say
  have whole (found : d.MayResolveTo h e) (same : h'.ground = h.ground) :
      ∃ k, d.MayResolveTo h k ∧ SameShown k h e h' ∧
        h'.ground = h.dealing h.compositor { h.allocator with nextId := h'.allocator.nextId } ∧
        (d.forgets h h' = false → e = k ∧ SameHeld k h e h') := by
    have sameHeld : SameHeld e h e h' := sameHeld_of_same same
    refine ⟨e, found, sameHeld.toSameShown, ?_, fun _ => ⟨rfl, sameHeld⟩⟩
    rw [same, Hub.allocator_of_ground (same.trans rfl : _ = h.dealing h.compositor h.allocator)]
    rfl
  by_cases panel : d.variant ≠ .offscreen
  · obtain ⟨found, same⟩ := found_of_panel panel run
    exact whole found same
  · cases bringUpOutcome_bringUp run with
    | missed _ _ same => exact whole .nothing same
    | unregistered _ _ _ kind => exact absurd kind panel
    | wasted _ _ _ kind dealt =>
        obtain ⟨sameShown, kept⟩ := sameShown_of_wasted kind dealt
        refine ⟨d, .nothing, sameShown, ?_, fun cachesLatest => ?_⟩
        · rw [dealt, Hub.allocator_of_ground dealt]
          rfl
        · have same := kept cachesLatest
          exact ⟨same, sameShown, congrArg Display.writeback? same⟩

end Serve

namespace Session

/-- Hardware with room for one panel, which is taken when another is made. -/
def crowded : List Step :=
  [.bootstrap, .create .builtIn (some .record), .make .builtIn none false]

/-- The second panel finds its entry, gets no token, and has a number from then
    on. -/
theorem traced_crowded : bench.hub.Fresh ∧ (∀ step ∈ crowded, step.ordinary = true) ∧
    ∃ d e h', (bench.after crowded).hub.display? 1 = some d ∧
      Serve.bringUp (d, (bench.after crowded).hub) = (.error (.failure .resources), e, h') ∧
      ¬ Serve.SameHeld d (bench.after crowded).hub e h' := by
  refine ⟨fresh_recording _ _ _ _, by decide, _, _, _, rfl, rfl, ?_⟩
  intro sameHeld
  nomatch sameHeld.id

theorem sameShown_bringUp_crowded : ∃ d e h',
    (bench.after crowded).hub.display? 1 = some d ∧
    Serve.bringUp (d, (bench.after crowded).hub) = (.error (.failure .resources), e, h') ∧
    e.id = some 0 ∧
    ∃ k, d.MayResolveTo (bench.after crowded).hub k ∧
    Serve.SameShown k (bench.after crowded).hub e h' ∧
      h'.ground = (bench.after crowded).hub.dealing (bench.after crowded).hub.compositor
        { (bench.after crowded).hub.allocator with nextId := h'.allocator.nextId } ∧
      (d.forgets (bench.after crowded).hub h' = false →
        e = k ∧ Serve.SameHeld k (bench.after crowded).hub e h') :=
  ⟨_, _, _, rfl, rfl, rfl, Serve.sameShown_bringUp rfl⟩

end Session

end DisplayHub
