import DisplayHub.Proofs.Records
import DisplayHub.Proofs.Lifecycle

/-!
# Going Down

What taking a hub down changes, and what it leaves behind.

`Hub.teardown` goes through the collaborators whether the hub is up or not. It
cannot fail, so there is only one way for it to end, and both what the hub is
afterwards (`ground_teardown`) and what was left behind on the way (`downRecords`)
can be told from the state before.

The vendor interface is held by the compositor and by the core, and is
destroyed when the second of them lets it go. For a hub that is up both hold
the same one. A compositor that started before the hub failed to come up holds
one that the core does not know of, and lets it go alone.

A hub that is down, and whose compositor and color service are not at work,
has nothing to take down, and is left as it was (`teardown_of_resting`).

## Main definitions

* `Hub.downRecords`: What going down leaves behind.

## Theorems

* `Hub.ground_teardown`: What a hub is once it was taken down.
* `Hub.logged_teardown`: `downRecords` leaves nothing out.
* `Hub.teardown_of_resting`: A hub that rests is left as it was.
-/

namespace DisplayHub

namespace Hub

/-- What going down leaves behind. -/
def downRecords (h : Hub) : List Record :=
  .call .stopColor :: .call .stopCompositor ::
    (Extension.letGoRecords h.core.extension none h.compositor.extension? ++
      ((if h.initialized then [.call .destroyProvider] else []) ++
        Extension.letGoRecords none none h.core.extension))

/-! ### One collaborator after the other -/

theorem ground_disableColor (h : Hub) : h.disableColor.ground =
    { h.ground with color := { h.color with active := false } } := by
  unfold disableColor darken
  split
  · rfl
  · next idle =>
      have inactive : h.color.active = false := Bool.eq_false_iff.mpr idle
      have same : ({ h.color with active := false } : ColorService) = h.color := by
        rw [← inactive]
      rw [same]
      rfl

theorem logged_disableColor (h : Hub) : h.Logged 0 0 [.call .stopColor] h.disableColor := by
  have called := (onlyLogged_recordCall .stopColor h).toLogged
  unfold disableColor darken
  split
  · have darkened : h.Logged 0 0 [.call .stopColor] { h.recordCall .stopColor with
        color := { (h.recordCall .stopColor).color with active := false } } :=
      called.same rfl rfl rfl
    exact darkened.trans (onlyLogged_note .info _ _).toLogged
  · exact called

theorem logged_stopCompositor (h : Hub) : h.Logged 0 0 (.call .stopCompositor ::
    Extension.letGoRecords h.core.extension none h.compositor.extension?) h.stopCompositor := by
  -- the warning about displays comes before the compositor stops
  obtain ⟨u, warned, silent⟩ : ∃ u, h.stopCompositor =
      (letGo? h.compositor.extension? { u with compositor := h.compositor.stop }).note .info
        "ResourceCompManager: deinit" ∧ h.OnlyLogged 0 0 [.call .stopCompositor] u := by
    have called := onlyLogged_recordCall .stopCompositor h
    unfold stopCompositor leave
    dsimp only
    split
    · exact ⟨_, rfl, called⟩
    · exact ⟨_, rfl, called.trans (onlyLogged_note .warn _ _)⟩
  have core : u.core = h.core := Hub.told_of_ground Hub.core silent.ground rfl rfl
  have stopped : h.Logged 0 0 [.call .stopCompositor]
      { u with compositor := h.compositor.stop } :=
    silent.toLogged.same rfl rfl rfl
  have parted := onlyLogged_letGo? h.compositor.extension?
    { u with compositor := h.compositor.stop }
  rw [warned, ← core]
  exact (stopped.trans parted.toLogged).note .info _

theorem logged_dismissProvider (h : Hub) : h.Logged 0 0
    (if h.initialized then [.call .destroyProvider] else []) h.dismissProvider := by
  unfold dismissProvider initialized
  cases h.core.provider with
  | none => exact (onlyLogged_note _ _ h).toLogged
  | some provider =>
      have forgot : h.Logged 0 0 [] { h with core := { h.core with provider := none } } :=
        ⟨rfl, rfl, (List.append_nil _).symm⟩
      unfold releaseProvider
      exact (forgot.trans (onlyLogged_recordCall .destroyProvider _).toLogged).trans
        (onlyLogged_noteAll _ _).toLogged

theorem logged_clear (h : Hub) : h.Logged 0 0
    ((if h.initialized then [.call .destroyProvider] else []) ++
      Extension.letGoRecords none h.compositor.extension? h.core.extension)
      h.dismissProvider.clearCore := by
  have core : h.dismissProvider.core.extension = h.core.extension := by
    unfold dismissProvider
    split <;> rfl
  have compositor : h.dismissProvider.compositor = h.compositor := by
    unfold dismissProvider
    split <;> rfl
  have forgot : h.Logged 0 0 (if h.initialized then [.call .destroyProvider] else [])
      { h.dismissProvider with core := {} } :=
    (logged_dismissProvider h).same rfl rfl rfl
  rw [← core, ← compositor]
  exact forgot.trans (onlyLogged_letGo? _ _).toLogged

/-! ### All the way -/

theorem ground_stopped (h : Hub) : h.disableColor.stopCompositor.ground = { h.ground with
    compositor := h.compositor.stop
    color := { h.color with active := false } } := by
  have dark := ground_disableColor h
  have stopped : h.disableColor.stopCompositor.ground =
      { h.disableColor.ground with compositor := h.disableColor.compositor.stop } :=
    ground_leave (h.disableColor.recordCall .stopCompositor)
  have compositor : h.disableColor.compositor = h.compositor :=
    Hub.told_of_ground Hub.compositor dark rfl rfl
  rw [stopped, compositor, dark]

theorem ground_teardown (h : Hub) : h.teardown.ground = { h.ground with
    core := {}
    compositor := h.compositor.stop
    color := { h.color with active := false } } := by
  refine (ground_clear h.disableColor.stopCompositor).trans ?_
  rw [ground_stopped]

theorem logged_teardown (h : Hub) : h.Logged 0 0 h.downRecords h.teardown := by
  -- what is called next does not depend on what the color service had
  have core : h.disableColor.core = h.core :=
    Hub.told_of_ground Hub.core (ground_disableColor h) rfl rfl
  have compositor : h.disableColor.compositor = h.compositor :=
    Hub.told_of_ground Hub.compositor (ground_disableColor h) rfl rfl
  have stopped := logged_stopCompositor h.disableColor
  rw [core, compositor] at stopped
  have cleared := logged_clear h.disableColor.stopCompositor
  have rest : h.disableColor.stopCompositor.core = h.core :=
    Hub.told_of_ground Hub.core (ground_stopped h) rfl rfl
  have resting : h.disableColor.stopCompositor.compositor = h.compositor.stop :=
    Hub.told_of_ground Hub.compositor (ground_stopped h) rfl rfl
  unfold Hub.initialized at cleared
  rw [rest, resting] at cleared
  exact ((logged_disableColor h).trans (stopped.trans cleared)).note .info
    "DisplayCore: deinitialized"

/-- A hub that rests has nothing to take down, and only what is left behind
    differs. -/
theorem teardown_of_resting {h : Hub} (core : h.core = {}) (setup : h.compositor.setup = none)
    (active : h.compositor.active = []) (dark : h.color.active = false) :
    { h.teardown with journal := h.journal } = h := by
  obtain ⟨_, _, _, _, _, _, _, ⟨_, _, _, _⟩, ⟨_, _⟩, _, _, _, _, _, _⟩ := h
  cases core
  cases setup
  cases active
  cases dark
  rfl

end Hub

end DisplayHub
