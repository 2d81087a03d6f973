import DisplayHub.Proofs.Records
import DisplayHub.Proofs.Dealing
import DisplayHub.Proofs.Lifecycle

/-!
# Coming Up

What bringing a hub up asks, in which order, and what it gives back when it
cannot go on.

`Lifecycle` says what coming up does to the holdings. Here it is followed call
by call. Each of the four collaborators that are needed has an answer that can
be told from the state beforehand, because none of them changes what the next
one answers from: the first two write records alone, and so does asking
for the description. `bootstrapAnswer` asks them one after the other, and the
first that stops decides. It is what coming up answers as well, unless one of
the two collaborators that are not needed brings the program down.

What was acquired is released by nobody in particular. The provider goes when
the sequence that began with it is left, and the extension when the sequence
around that one is, so their order is the order of the two sequences. That the
extension is destroyed then, and not only let go, is due to its number: nobody
can hold an interface that was just handed out (`HeldIssued`).

`upRecords` and `undoRecords` are what all of this leaves behind.

## Main definitions

* `Hub.extensionAnswer`, `Hub.providerAnswer`, `Hub.resourceAnswer`,
  `Hub.compositorAnswer`: What the collaborators that are needed answer.
* `Hub.bootstrapAnswer`: The first of their failures.
* `Hub.upRecords`, `Hub.undoRecords`: What is called on the way up, and released.
* `Hub.HeldIssued`: Interfaces that are held were handed out.
* `Hub.BootstrapOutcome`: How coming up ends, with all it leaves behind.

## Theorems

* `Act.loadExtension_onlyLogged`, `Act.createProvider_onlyLogged`: The answers, given.
* `Act.describe_of_resource`, `Act.describe_of_compositor`,
  `Act.describe_of_ready`: What the hub does once it has a provider.
* `Hub.bootstrapOutcome_bootstrap`: `BootstrapOutcome` leaves nothing out.
-/

namespace DisplayHub

/-- The color service once it was called, with the fault that is set there. -/
def ColorService.called (c : ColorService) (fault : Option Stop) (resource : Resource) :
    ColorService :=
  if fault.isNone && !c.standIn && resource.hasColor then { c with active := true } else c

namespace Hub

variable {h u : Hub} {a b : Nat} {l : List Record}

/-! ### What collaborators answer -/

/-- A fault that is set at a call comes before what the collaborator answers. -/
def barred (h : Hub) (call : Call) : Except Stop Unit :=
  match h.faults call with
  | none => .ok ()
  | some stop => .error stop

/-- What loading the extension answers. -/
def extensionAnswer (h : Hub) : Except Stop (Option Extension) :=
  match h.barred .loadExtension with
  | .error stop => .error stop
  | .ok () => match h.loader with
    | .disabled => .ok none
    | .standIn (.error f) => .error (.failure f)
    | .standIn (.ok given) => .ok (if given then some ⟨h.extensions, none⟩ else none)
    | .library settings => match (settings.attempt h.storage h.override).result with
      | .error f => .error (.failure f)
      | .ok opened => .ok (opened.map fun i => ⟨h.extensions, some i⟩)

/-- Whether there is somebody to create a provider from. -/
def providerAnswer (h : Hub) : Except Stop Unit :=
  match h.barred .createProvider with
  | .error stop => .error stop
  | .ok () => match h.hardware.listing with
    | .connectors root =>
      if h.storage.isDirectory root then .ok ()
      else .error (.failure (.hardware (root ++ " not found")))
    | _ => .ok ()

/-- What the provider says of the composition hardware. -/
def resourceAnswer (h : Hub) : Except Stop Resource :=
  match h.barred .queryResource with
  | .error stop => .error stop
  | .ok () => match h.hardware.resource with
    | .error f => .error (.failure f)
    | .ok resource => .ok resource

/-- What the compositor is once it took up work, if it does. -/
def compositorAnswer (h : Hub) (resource : Resource) (extension : Option Extension) :
    Except Stop Compositor :=
  match h.barred .startCompositor with
  | .error stop => .error stop
  | .ok () => match h.compositor.start resource extension with
    | .error refusal => .error (.failure refusal.failure)
    | .ok compositor => .ok compositor

/-- The first of the collaborators that are needed to stop decides. -/
def bootstrapAnswer (h : Hub) : Except Stop Unit := do
  let extension ← h.extensionAnswer
  h.providerAnswer
  let resource ← h.resourceAnswer
  let _ ← h.compositorAnswer resource extension

/-- What loading the extension leaves behind. -/
def loading (h : Hub) : List Record :=
  .call .loadExtension :: match h.barred .loadExtension, h.loader with
    | .ok (), .library settings =>
      (settings.attempt h.storage h.override).events.map .library
    | _, _ => []

/-- What is called of the collaborators that are not needed. -/
def optionalRecords (h : Hub) : List Record :=
  .call .startColor :: if h.faults .startColor = some .collapse then [] else [.call .queryStatus]

/-- What is called on the way up, down to the first collaborator that stops. -/
def upRecords (h : Hub) : List Record :=
  h.loading ++ match h.extensionAnswer with
  | .error _ => []
  | .ok extension => .call .createProvider :: match h.providerAnswer with
    | .error _ => []
    | .ok () => .call .queryResource :: match h.resourceAnswer with
      | .error _ => []
      | .ok resource => .call .startCompositor :: match h.compositorAnswer resource extension with
        | .error _ => []
        | .ok _ => h.optionalRecords

/-- What is released of what was acquired, the latest first. -/
def undoRecords (h : Hub) : List Record :=
  match h.extensionAnswer with
  | .error _ => []
  | .ok extension =>
    let provider := match h.providerAnswer with
      | .error _ => []
      | .ok () => [.call .destroyProvider]
    provider ++ (extension.map Extension.destroyRecords).getD []

/-- The interfaces handed out on the way up. -/
def loads (h : Hub) : Nat :=
  match h.extensionAnswer with
  | .ok (some _) => 1
  | _ => 0

/-- The provider created, if somebody is there to create it from. -/
def grants (h : Hub) : Nat :=
  match h.providerAnswer with
  | .error _ => 0
  | .ok () => 1

/-- The providers created on the way up. -/
def creates (h : Hub) : Nat :=
  match h.extensionAnswer with
  | .error _ => 0
  | .ok _ => h.grants

/-- The color service once it was called, unless a fault is set there. -/
def lit (h : Hub) (resource : Resource) : ColorService :=
  h.color.called (h.faults .startColor) resource

/-- None of those that are not needed brings the program down. -/
def NoOptionalCollapse (h : Hub) : Prop :=
  h.faults .startColor ≠ some .collapse ∧ h.faults .queryStatus ≠ some .collapse

instance (h : Hub) : Decidable h.NoOptionalCollapse :=
  inferInstanceAs (Decidable (_ ∧ _))

theorem collapse_of_not (collapses : ¬ h.NoOptionalCollapse) :
    h.faults .startColor = some .collapse ∨ h.faults .queryStatus = some .collapse :=
  Decidable.or_iff_not_imp_left.mpr fun dark =>
    Decidable.of_not_not fun blind => collapses ⟨dark, blind⟩

theorem OnlyLogged.faults (onlyLogged : OnlyLogged a b l h u) : u.faults = h.faults :=
  Hub.told_of_ground Hub.faults onlyLogged.ground rfl rfl

theorem OnlyLogged.providerAnswer (onlyLogged : OnlyLogged a b l h u) :
    u.providerAnswer = h.providerAnswer := by
  have hardware : u.hardware = h.hardware :=
    Hub.told_of_ground Hub.hardware onlyLogged.ground rfl rfl
  unfold Hub.providerAnswer barred
  rw [onlyLogged.faults, onlyLogged.storage, hardware]

theorem OnlyLogged.resourceAnswer (onlyLogged : OnlyLogged a b l h u) :
    u.resourceAnswer = h.resourceAnswer := by
  have hardware : u.hardware = h.hardware :=
    Hub.told_of_ground Hub.hardware onlyLogged.ground rfl rfl
  unfold Hub.resourceAnswer barred
  rw [onlyLogged.faults, hardware]

theorem OnlyLogged.compositorAnswer (onlyLogged : OnlyLogged a b l h u) (resource : Resource)
    (extension : Option Extension) :
    u.compositorAnswer resource extension = h.compositorAnswer resource extension := by
  have compositor : u.compositor = h.compositor := Hub.compositor_of_ground onlyLogged.ground
  unfold Hub.compositorAnswer barred
  rw [onlyLogged.faults, compositor]

end Hub

namespace Act

variable {h : Hub}

/-- A call is recorded and answered by the fault that is set there, if there is
    one. -/
theorem visit_barred (call : Call) (h : Hub) :
    visit call h = (h.barred call, h.recordCall call) := by
  rw [visit_apply]
  unfold Hub.barred
  cases h.faults call <;> rfl

theorem loadExtension_onlyLogged (h : Hub) : ∃ h', loadExtension h = (h.extensionAnswer, h') ∧
    h.OnlyLogged h.loads 0 h.loading h' := by
  have called := Hub.onlyLogged_recordCall .loadExtension h
  unfold loadExtension Hub.loads Hub.loading Hub.extensionAnswer
  rw [bind_apply, visit_barred]
  cases h.barred .loadExtension with
  | error stop => exact ⟨_, rfl, called⟩
  | ok _ =>
      dsimp only
      have same : (h.recordCall .loadExtension).loader = h.loader := rfl
      rw [get_bind, same]
      cases h.loader with
      | disabled => exact ⟨_, rfl, called⟩
      | standIn outcome =>
          rcases outcome with f | (_ | _)
          · exact ⟨_, rfl, called⟩
          · exact ⟨_, rfl, called⟩
          · exact ⟨_, rfl, called.trans (Hub.onlyLogged_handOut _)⟩
      | library settings =>
          -- the attempt answers from the files, and leaves notes and events behind
          have left := (called.trans (Hub.onlyLogged_noteAll
            (settings.attempt h.storage h.override).notes _)).trans
            (Hub.onlyLogged_recordEvents (settings.attempt h.storage h.override).events _)
          dsimp only
          rw [modify_bind]
          change ∃ h', (ofExcept (settings.attempt h.storage h.override).result >>= fun opened =>
            _ : Act (Option Extension)) _ = _ ∧ _
          rcases (settings.attempt h.storage h.override).result with f | (_ | opened)
          · exact ⟨_, rfl, left⟩
          · exact ⟨_, rfl, left⟩
          · have handed := left.trans (Hub.onlyLogged_handOut _)
            rw [List.append_nil] at handed
            exact ⟨_, rfl, handed⟩

/-- A provider is counted, whether or not it is noted that it comes. -/
theorem count_onlyLogged (told : Bool) (text : String) (provider : Nat) (h : Hub) : ∃ h',
    (if told = true then note .info text >>= fun _ =>
        modify (fun h => { h with providers := h.providers + 1 }) >>= fun _ => pure provider
      else modify (fun h => { h with providers := h.providers + 1 }) >>= fun _ => pure provider
      : Act Nat) h = (.ok provider, h') ∧ h.OnlyLogged 0 1 [] h' := by
  have counted (u : Hub) : u.OnlyLogged 0 1 [] { u with providers := u.providers + 1 } :=
    ⟨⟨rfl, rfl, (List.append_nil _).symm⟩, rfl, rfl⟩
  cases told with
  | true => exact ⟨_, rfl, (Hub.onlyLogged_note .info text h).trans (counted _)⟩
  | false => exact ⟨_, rfl, counted h⟩

/-- A provider has the number of those before it. -/
theorem createProvider_onlyLogged (h : Hub) : ∃ h',
    createProvider h = (h.providerAnswer.map fun _ => h.providers, h') ∧
      h.OnlyLogged 0 h.grants [.call .createProvider] h' := by
  have called := Hub.onlyLogged_recordCall .createProvider h
  unfold createProvider Hub.grants Hub.providerAnswer
  rw [bind_apply, visit_barred]
  cases h.barred .createProvider with
  | error stop => exact ⟨_, rfl, called⟩
  | ok _ =>
      dsimp only
      have same : (h.recordCall .createProvider).hardware = h.hardware := rfl
      rw [get_bind, same]
      cases h.hardware.listing with
      | described entries =>
          obtain ⟨u, ran, counted⟩ := count_onlyLogged h.hardware.announced _ h.providers
            (h.recordCall .createProvider)
          exact ⟨u, ran, called.trans counted⟩
      | connectors root =>
          -- this one alone looks for something that may be missing
          dsimp only
          by_cases found : h.storage.isDirectory root = true
          · have there : ¬ (!(h.recordCall .createProvider).storage.isDirectory root) = true := by
              change ¬ (!h.storage.isDirectory root) = true
              simp [found]
            obtain ⟨u, ran, counted⟩ := count_onlyLogged h.hardware.announced _ h.providers
              (h.recordCall .createProvider)
            rw [if_neg there, if_pos found]
            exact ⟨u, ran, called.trans counted⟩
          · have missing : (!(h.recordCall .createProvider).storage.isDirectory root) = true := by
              change (!h.storage.isDirectory root) = true
              simp [found]
            rw [if_pos missing, if_neg found]
            exact ⟨_, rfl, called⟩
      | scripted entries =>
          obtain ⟨u, ran, counted⟩ := count_onlyLogged false "" h.providers
            (h.recordCall .createProvider)
          exact ⟨u, ran, called.trans counted⟩

theorem queryResource_onlyLogged (h : Hub) : ∃ h', queryResource h = (h.resourceAnswer, h') ∧
    h.OnlyLogged 0 0 [.call .queryResource] h' := by
  have called := Hub.onlyLogged_recordCall .queryResource h
  unfold queryResource Hub.resourceAnswer
  rw [bind_apply, visit_barred]
  cases h.barred .queryResource with
  | error stop => exact ⟨_, rfl, called⟩
  | ok _ =>
      dsimp only
      rw [get_bind]
      change ∃ h', ofExcept h.hardware.resource (h.recordCall .queryResource) = _ ∧ _
      cases h.hardware.resource with
      | error f => exact ⟨_, rfl, called⟩
      | ok resource => exact ⟨_, rfl, called⟩

/-- The compositor that took up work is the only thing that changes, and it does
    not if it refuses to. -/
theorem startCompositor_apply (resource : Resource) (extension : Option Extension) (h : Hub) :
    ∃ h', startCompositor resource extension h =
        ((h.compositorAnswer resource extension).map fun _ => (), h') ∧
      h.Logged 0 0 [.call .startCompositor] h' ∧ h'.storage = h.storage ∧
      h'.ground = match h.compositorAnswer resource extension with
        | .error _ => h.ground
        | .ok c => h.dealing c h.allocator := by
  -- what the compositor is offered stands in no answer
  let offered := { h with offered := some extension.isSome }
  have called : h.Logged 0 0 [.call .startCompositor] (offered.recordCall .startCompositor) :=
    ⟨rfl, rfl, Hub.trace_add (.call .startCompositor) h _ rfl⟩
  have same : offered.barred .startCompositor = h.barred .startCompositor := rfl
  unfold startCompositor Hub.compositorAnswer
  rw [modify_bind, bind_apply, visit_barred, same]
  cases h.barred .startCompositor with
  | error stop => exact ⟨_, rfl, called, rfl, rfl⟩
  | ok _ =>
      dsimp only
      unfold takeUp
      rw [get_bind]
      change ∃ h', (ofCompositor (h.compositor.start resource extension) >>= fun c => _ : Act Unit)
        _ = _ ∧ _
      cases h.compositor.start resource extension with
      | ok c =>
          have begun : h.Logged 0 0 [.call .startCompositor]
              { offered.recordCall .startCompositor with compositor := c } :=
            called.same rfl rfl rfl
          exact ⟨_, rfl, begun.trans (Hub.onlyLogged_note .info _ _).toLogged, rfl, rfl⟩
      | error refusal =>
          -- some refusals are noted
          unfold ofCompositor
          dsimp only
          cases refusal.warning? with
          | none => exact ⟨_, rfl, called, rfl, rfl⟩
          | some text =>
              have noted := called.trans (Hub.onlyLogged_note .warn text _).toLogged
              exact ⟨_, rfl, noted, rfl, rfl⟩

/-! ### What the hub can do without -/

/-- The color service is started, or it is noted that it cannot be. -/
theorem tryColor_apply {h : Hub} (resource : Resource)
    (inLedger : h.faults .startColor ≠ some .collapse) : ∃ h', tryColor resource h = (.ok (), h') ∧
      h.Logged 0 0 [.call .startColor] h' ∧
      h'.ground = { h.ground with color := h.lit resource } := by
  have called := (Hub.onlyLogged_recordCall .startColor h).toLogged
  have noted (u : Hub) (logged : h.Logged 0 0 [.call .startColor] u) (level : Level)
      (text : String) : h.Logged 0 0 [.call .startColor] (u.note level text) :=
    logged.trans (Hub.onlyLogged_note level text u).toLogged
  unfold tryColor Hub.lit ColorService.called
  rw [bind_apply]
  unfold attempt enableColor
  rw [bind_apply, visit_apply]
  rcases barrier : h.faults .startColor with _ | (f | _)
  · dsimp only
    unfold brighten
    rw [get_bind]
    -- what is asked of the service is asked after the call
    have same : (h.recordCall .startColor).color = h.color := rfl
    dsimp only
    rw [same]
    by_cases idle : h.color.standIn = true
    · rw [if_pos idle, if_neg (by simp [idle])]
      exact ⟨_, rfl, called, rfl⟩
    · rw [if_neg idle]
      by_cases able : resource.hasColor = true
      · rw [if_neg (by simp [able]), if_pos (by simp [idle, able])]
        have lit : h.Logged 0 0 [.call .startColor]
            { h.recordCall .startColor with color := { h.color with active := true } } :=
          called.same rfl rfl rfl
        exact ⟨_, rfl, noted _ lit .info _, rfl⟩
      · rw [if_pos (by simp [able]), if_neg (by simp [able])]
        exact ⟨_, rfl, noted _ (noted _ called _ _) _ _, rfl⟩
  · exact ⟨_, rfl, noted _ called _ _, rfl⟩
  · exact absurd barrier inLedger

theorem tryColor_collapse {h : Hub} (resource : Resource)
    (fault : h.faults .startColor = some .collapse) :
    tryColor resource h = (.error .collapse, h.recordCall .startColor) := by
  unfold tryColor
  rw [bind_apply]
  unfold attempt enableColor
  rw [bind_apply, visit_apply, fault]

theorem scanConnectors_logged (root : String) (h : Hub) : ∃ r h',
    scanConnectors root h = (r, h') ∧ r ≠ .error .collapse ∧ h.Logged 0 0 [] h' := by
  unfold scanConnectors
  rw [get_bind]
  rcases Connector.scan h.storage root with ⟨result, storage, notes⟩
  dsimp only
  rw [set_bind]
  have noted : h.Logged 0 0 [] ({ h with storage }.noteAll notes) :=
    ⟨rfl, rfl, (Hub.onlyLogged_noteAll notes { h with storage }).trace⟩
  cases result with
  | ok topology => exact ⟨_, _, rfl, nofun, noted⟩
  | error fault => exact ⟨_, _, rfl, nofun, noted⟩

theorem queryStatus_logged {h : Hub} (inLedger : h.faults .queryStatus ≠ some .collapse) : ∃ r h',
    queryStatus h = (r, h') ∧ r ≠ .error .collapse ∧ h.Logged 0 0 [.call .queryStatus] h' := by
  have called := (Hub.onlyLogged_recordCall .queryStatus h).toLogged
  unfold queryStatus
  rw [bind_apply, visit_apply]
  rcases barrier : h.faults .queryStatus with _ | (f | _)
  · dsimp only
    have same : (h.recordCall .queryStatus).hardware = h.hardware := rfl
    rw [get_bind, same]
    cases h.hardware.listing with
    | described entries =>
        exact ⟨_, _, rfl, nofun, called.trans (Hub.onlyLogged_note .debug _ _).toLogged⟩
    | connectors root =>
        obtain ⟨r, u, ran, still, noted⟩ := scanConnectors_logged root (h.recordCall .queryStatus)
        exact ⟨r, u, ran, still, called.trans noted⟩
    | scripted entries => exact ⟨_, _, rfl, nofun, called⟩
  · exact ⟨_, _, rfl, nofun, called⟩
  · exact absurd barrier inLedger

/-- There is a report, and one without displays if there could be none. -/
theorem tryStatus_logged {h : Hub} (inLedger : h.faults .queryStatus ≠ some .collapse) : ∃ t h',
    tryStatus h = (.ok t, h') ∧ h.Logged 0 0 [.call .queryStatus] h' := by
  obtain ⟨r, u, ran, still, logged⟩ := queryStatus_logged inLedger
  unfold tryStatus
  rw [bind_apply]
  unfold attempt
  rw [ran]
  rcases r with (f | _) | t
  · exact ⟨_, _, rfl, logged.trans (Hub.onlyLogged_note .warn _ u).toLogged⟩
  · exact absurd rfl still
  · exact ⟨_, _, rfl, logged⟩

theorem tryStatus_collapse {h : Hub} (fault : h.faults .queryStatus = some .collapse) :
    tryStatus h = (.error .collapse, h.recordCall .queryStatus) := by
  unfold tryStatus
  rw [bind_apply]
  unfold attempt queryStatus
  rw [bind_apply, visit_apply, fault]

theorem ignoreBrokenPipe_logged (h : Hub) : ∃ h',
    ignoreBrokenPipe h = (.ok (), h') ∧ h.Logged 0 0 [] h' := by
  unfold ignoreBrokenPipe
  rw [get_bind]
  cases h.pipeIgnored with
  | true => exact ⟨_, rfl, rfl, rfl, (List.append_nil _).symm⟩
  | false => exact ⟨_, rfl, (Hub.onlyLogged_note .debug _ h).toLogged.same rfl rfl rfl⟩

/-! ### With a provider -/

theorem describe_of_resource {h : Hub} {stop : Stop} (extension : Option Extension)
    (silent : h.resourceAnswer = .error stop) : ∃ h', describe extension h = (.error stop, h') ∧
      h.OnlyLogged 0 0 [.call .queryResource] h' := by
  obtain ⟨u, asked, onlyLogged⟩ := queryResource_onlyLogged h
  refine ⟨u, ?_, onlyLogged⟩
  unfold describe
  rw [bind_apply, asked, silent]

theorem describe_of_compositor {h : Hub} {extension : Option Extension} {resource : Resource}
    {stop : Stop} (answered : h.resourceAnswer = .ok resource)
    (refused : h.compositorAnswer resource extension = .error stop) : ∃ h',
      describe extension h = (.error stop, h') ∧
      h.OnlyLogged 0 0 [.call .queryResource, .call .startCompositor] h' := by
  obtain ⟨u, asked, onlyLogged⟩ := queryResource_onlyLogged h
  have noted := onlyLogged.trans (Hub.onlyLogged_note .debug
    ("DisplayCore: hardware resources " ++ resource.describe) u)
  obtain ⟨v, started, logged, storage, ground⟩ := startCompositor_apply resource extension
    (u.note .debug ("DisplayCore: hardware resources " ++ resource.describe))
  rw [noted.compositorAnswer, refused] at started ground
  refine ⟨v, ?_, noted.trans ⟨logged, ground, storage⟩⟩
  unfold describe
  rw [bind_apply, asked, answered]
  dsimp only
  unfold note
  rw [modify_bind, bind_apply, started]
  rfl

/-- What the hub does once the compositor has started. -/
def conclude (resource : Resource) : Act (Resource × Topology) := do
  tryColor resource
  let topology ← tryStatus
  ignoreBrokenPipe
  note .info ("DisplayCore: initialized with " ++ toString topology.size
    ++ " displays in topology")
  return (resource, topology)

theorem describe_of_ready {h : Hub} {extension : Option Extension} {resource : Resource}
    {c : Compositor} (answered : h.resourceAnswer = .ok resource)
    (ready : h.compositorAnswer resource extension = .ok c) : ∃ h',
      describe extension h = conclude resource h' ∧
      h.Logged 0 0 [.call .queryResource, .call .startCompositor] h' ∧
      h'.ground = h.dealing c h.allocator := by
  obtain ⟨u, asked, onlyLogged⟩ := queryResource_onlyLogged h
  have noted := onlyLogged.trans (Hub.onlyLogged_note .debug
    ("DisplayCore: hardware resources " ++ resource.describe) u)
  obtain ⟨v, started, logged, -, ground⟩ := startCompositor_apply resource extension
    (u.note .debug ("DisplayCore: hardware resources " ++ resource.describe))
  have allocator : u.allocator = h.allocator :=
    Hub.allocator_of_ground (onlyLogged.ground.trans rfl : _ = h.dealing h.compositor h.allocator)
  rw [noted.compositorAnswer, ready] at started ground
  refine ⟨v, ?_, noted.toLogged.trans logged, ?_⟩
  · unfold describe
    rw [bind_apply, asked, answered]
    dsimp only
    unfold note
    rw [modify_bind, bind_apply, started]
    rfl
  · exact (ground.trans (Hub.dealing_of_same noted.ground _ _)).trans (by rw [← allocator]; rfl)

/-- Nothing but a collapse can stop the hub now. -/
theorem conclude_noCollapse {h : Hub} (resource : Resource) (noCollapse : h.NoOptionalCollapse) :
    ∃ t h', conclude resource h = (.ok (resource, t), h') ∧ h.Logged 0 0 h.optionalRecords h' ∧
      h'.ground = { h.ground with color := h.lit resource } := by
  obtain ⟨u, lit, shone, shining⟩ := tryColor_apply resource noCollapse.1
  have faults : u.faults = h.faults := Hub.told_of_ground Hub.faults shining rfl rfl
  -- a report that fails is no reason to stop, and gives an empty topology
  obtain ⟨t, v, reported, seen⟩ := tryStatus_logged (faults ▸ noCollapse.2 : u.faults _ ≠ _)
  obtain ⟨w, ignored, left⟩ := ignoreBrokenPipe_logged v
  have same : v.ground = u.ground := by
    have := keeps_tryStatus u
    rwa [reported] at this
  have inLedger : w.ground = v.ground := by
    have := keeps_ignoreBrokenPipe v
    rwa [ignored] at this
  let done := "DisplayCore: initialized with " ++ toString t.size ++ " displays in topology"
  refine ⟨t, w.note .info done, ?_, ?_, inLedger.trans (same.trans shining)⟩
  · unfold conclude
    rw [bind_apply, lit]
    dsimp only
    rw [bind_apply, reported]
    dsimp only
    rw [bind_apply, ignored]
    rfl
  · unfold Hub.optionalRecords
    rw [if_neg noCollapse.1]
    exact ((shone.trans seen).trans left).trans (Hub.onlyLogged_note .info done w).toLogged

theorem conclude_collapses {h : Hub} (resource : Resource) (collapses : ¬ h.NoOptionalCollapse) :
    ∃ h', conclude resource h = (.error .collapse, h') ∧ h.Logged 0 0 h.optionalRecords h' ∧
      ∃ color, h'.ground = { h.ground with color } := by
  unfold conclude Hub.optionalRecords
  by_cases dark : h.faults .startColor = some .collapse
  · -- the color service is the first that can end everything
    rw [if_pos dark, bind_apply, tryColor_collapse resource dark]
    exact ⟨_, rfl, (Hub.onlyLogged_recordCall .startColor h).toLogged, h.color, rfl⟩
  · have blind := (Hub.collapse_of_not collapses).resolve_left dark
    obtain ⟨u, lit, shone, shining⟩ := tryColor_apply resource dark
    have faults : u.faults = h.faults := Hub.told_of_ground Hub.faults shining rfl rfl
    rw [if_neg dark, bind_apply, lit]
    dsimp only
    rw [bind_apply, tryStatus_collapse (faults ▸ blind)]
    exact ⟨_, rfl, shone.trans (Hub.onlyLogged_recordCall .queryStatus u).toLogged, _, shining⟩

end Act

namespace Hub

/-! ### All the way -/

/-- Interfaces that are held were handed out. -/
def HeldIssued (h : Hub) : Prop :=
  ∀ e, h.holds e = true → e.serial < h.extensions

/-- How coming up ends, with all it leaves behind. -/
inductive BootstrapOutcome (h : Hub) : Except Stop Unit → Hub → Prop where
  /-- One of the collaborators that are needed stops. -/
  | failed (stop : Stop) (h' : Hub) (answer : h.bootstrapAnswer = .error stop)
      (onlyLogged : h.OnlyLogged h.loads h.creates (h.upRecords ++ h.undoRecords) h') :
      BootstrapOutcome h (.error stop) h'
  /-- One of the others brings the program down. -/
  | collapsed (extension : Option Extension) (resource : Resource) (c : Compositor)
      (color : ColorService) (h' : Hub) (answer : h.bootstrapAnswer = .ok ())
      (collapses : ¬ h.NoOptionalCollapse) (loaded : h.extensionAnswer = .ok extension)
      (described : h.resourceAnswer = .ok resource)
      (started : h.compositor.start resource extension = .ok c)
      (logged : h.Logged h.loads 1 (h.upRecords ++ [.call .destroyProvider]) h')
      (ground : h'.ground = { h.dealing c h.allocator with color }) :
      BootstrapOutcome h (.error .collapse) h'
  | up (extension : Option Extension) (resource : Resource) (c : Compositor)
      (topology : Topology) (h' : Hub) (answer : h.bootstrapAnswer = .ok ())
      (noCollapse : h.NoOptionalCollapse) (loaded : h.extensionAnswer = .ok extension)
      (described : h.resourceAnswer = .ok resource)
      (started : h.compositor.start resource extension = .ok c)
      (logged : h.Logged h.loads 1 h.upRecords h')
      (ground : h'.ground = { h.dealing c h.allocator with
        color := h.lit resource
        core := ⟨extension, some h.providers, some resource, topology⟩ }) :
      BootstrapOutcome h (.ok ()) h'

/-- An interface that is loaded is the next one. -/
theorem serial_of_extensionAnswer {h : Hub} {e : Extension}
    (loaded : h.extensionAnswer = .ok (some e)) : e.serial = h.extensions := by
  unfold extensionAnswer at loaded
  revert loaded
  cases h.barred .loadExtension with
  | error stop => exact nofun
  | ok _ =>
      cases h.loader with
      | disabled => exact nofun
      | standIn outcome =>
          rcases outcome with f | (_ | _)
          · exact nofun
          · exact nofun
          · rintro ⟨⟩
            rfl
      | library settings =>
          dsimp only
          rcases (settings.attempt h.storage h.override).result with f | (_ | opened)
          · exact nofun
          · exact nofun
          · rintro ⟨⟩
            rfl

/-- Nobody else holds an interface that was just handed out. -/
theorem letGoRecords_of_loaded {h u : Hub} {extension : Option Extension}
    (heldIssued : h.HeldIssued)
    (loaded : h.extensionAnswer = .ok extension) (same : u.ground = h.ground) :
    Extension.letGoRecords u.core.extension u.compositor.extension? extension =
      (extension.map Extension.destroyRecords).getD [] := by
  cases extension with
  | none => rfl
  | some e =>
      have held : u.holds e = h.holds e :=
        Hub.told_of_ground (fun v : Hub => v.holds e) same rfl rfl
      have free : ¬ h.holds e = true := by
        -- whoever holds an interface has one with a smaller number
        intro holds
        have older := heldIssued e holds
        rw [serial_of_extensionAnswer loaded] at older
        exact Nat.lt_irrefl _ older
      change (if u.holds e = true then [] else e.destroyRecords) = _
      rw [held, if_neg free]
      rfl

end Hub

namespace Act

theorem onStop_of_error {α : Type} {undo : Hub → Hub} {act : Act α} {h u : Hub} {stop : Stop}
    (ran : act h = (.error stop, u)) : onStop undo act h = (.error stop, undo u) := by
  unfold onStop
  rw [ran]

theorem onStop_of_ok {α : Type} {undo : Hub → Hub} {act : Act α} {h u : Hub} {a : α}
    (ran : act h = (.ok a, u)) : onStop undo act h = (.ok a, u) := by
  unfold onStop
  rw [ran]

/-- What is left of `assemble` once there is a provider. -/
def complete (extension : Option Extension) (provider : Nat) : Act Unit := do
  let (resource, topology) ← onStop (Hub.abandonProvider provider) (describe extension)
  modify fun h => { h with core := ⟨extension, some provider, some resource, topology⟩ }

theorem assemble_apply (extension : Option Extension) (h : Hub) : ∃ u,
    h.OnlyLogged 0 h.grants [.call .createProvider] u ∧ assemble extension h =
      match h.providerAnswer with
      | .error stop => (.error stop, u)
      | .ok () => complete extension h.providers u := by
  obtain ⟨t, noted, silent⟩ : ∃ t, noteExtension extension h = (.ok (), t) ∧
      h.OnlyLogged 0 0 [] t := by
    cases extension with
    | none => exact ⟨_, rfl, Hub.onlyLogged_note .warn _ h⟩
    | some e => exact ⟨_, rfl, Hub.onlyLogged_note .info _ h⟩
  -- a note changes none of the answers that the provider depends on
  obtain ⟨u, created, onlyLogged⟩ := createProvider_onlyLogged t
  have grants : t.grants = h.grants := by
    unfold Hub.grants
    rw [silent.providerAnswer]
  have all := silent.trans onlyLogged
  rw [grants] at all
  rw [silent.providerAnswer, silent.providers] at created
  refine ⟨u, by simpa using all, ?_⟩
  unfold assemble
  rw [bind_apply, noted]
  dsimp only
  rw [bind_apply, created]
  cases h.providerAnswer with
  | error stop => rfl
  | ok _ => rfl

/-- A provider that came for nothing is released. -/
theorem complete_of_error {extension : Option Extension} {provider : Nat} {h u : Hub}
    {stop : Stop} (described : describe extension h = (.error stop, u)) :
    complete extension provider h = (.error stop, u.abandonProvider provider) := by
  unfold complete
  rw [bind_apply, onStop_of_error described]

theorem complete_of_ok {extension : Option Extension} {provider : Nat} {h u : Hub}
    {resource : Resource} {t : Topology}
    (described : describe extension h = (.ok (resource, t), u)) :
    complete extension provider h =
      (.ok (), { u with core := ⟨extension, some provider, some resource, t⟩ }) := by
  unfold complete
  rw [bind_apply, onStop_of_ok described]
  rfl

theorem bootstrap_of_up {h : Hub} (up : h.initialized = true) : bootstrap h =
    (.error (.failure .parameters),
      h.note .error "DisplayCore: init called on an initialized core") := by
  unfold bootstrap
  rw [get_bind, if_pos up]
  rfl

theorem bootstrap_of_down {h : Hub} (down : h.initialized = false) : ∃ u,
    loadExtension h = (h.extensionAnswer, u) ∧ h.OnlyLogged h.loads 0 h.loading u ∧ bootstrap h =
      match h.extensionAnswer with
      | .error stop => (.error stop, u)
      | .ok extension => onStop (Hub.letGo? extension) (assemble extension) u := by
  obtain ⟨u, loaded, onlyLogged⟩ := loadExtension_onlyLogged h
  refine ⟨u, loaded, onlyLogged, ?_⟩
  unfold bootstrap
  rw [get_bind, if_neg (by simp [down])]
  change (loadExtension >>= fun extension =>
    onStop (Hub.letGo? extension) (assemble extension) : Act Unit) h = _
  rw [bind_apply, loaded]
  cases h.extensionAnswer with
  | error stop => rfl
  | ok extension => rfl

end Act

namespace Hub

open Act

theorem start_of_compositorAnswer {h : Hub} {resource : Resource} {extension : Option Extension}
    {c : Compositor} (answer : h.compositorAnswer resource extension = .ok c) :
    h.compositor.start resource extension = .ok c := by
  unfold compositorAnswer at answer
  revert answer
  cases h.barred .startCompositor with
  | error stop => exact nofun
  | ok _ =>
      dsimp only
      cases h.compositor.start resource extension with
      | error refusal => exact nofun
      | ok c =>
          rintro ⟨⟩
          rfl

section Loaded

variable {h u v : Hub} {extension : Option Extension} {resource : Resource} {c : Compositor}

/-- A description that stops takes the provider and the extension along. -/
theorem bootstrapOutcome_of_undescribed {w : Hub} {stop : Stop} {l : List Record}
    (heldIssued : h.HeldIssued)
    (loaded : h.extensionAnswer = .ok extension) (provided : h.providerAnswer = .ok ())
    (before : h.OnlyLogged h.loads h.creates (h.loading ++ [.call .createProvider]) v)
    (assembled : assemble extension u = complete extension h.providers v)
    (ran : describe extension v = (.error stop, w)) (more : v.OnlyLogged 0 0 l w)
    (answer : h.bootstrapAnswer = .error stop)
    (way : h.upRecords = h.loading ++ .call .createProvider :: l) : ∃ r h',
      onStop (Hub.letGo? extension) (assemble extension) u = (r, h') ∧ h.BootstrapOutcome r h' := by
  have stopped := assembled.trans (complete_of_error ran)
  -- the provider goes first, since its sequence is the inner one
  have released := (before.trans more).trans (onlyLogged_abandonProvider h.providers w)
  have ended := released.trans (onlyLogged_letGo? extension _)
  rw [letGoRecords_of_loaded heldIssued loaded released.ground] at ended
  refine ⟨_, _, onStop_of_error stopped, BootstrapOutcome.failed stop _ answer ?_⟩
  unfold undoRecords
  rw [way, loaded, provided]
  simpa using ended

/-- With a compositor that started the hub comes up, unless it collapses. -/
theorem bootstrapOutcome_of_started (loaded : h.extensionAnswer = .ok extension)
    (provided : h.providerAnswer = .ok ()) (described : h.resourceAnswer = .ok resource)
    (started : h.compositorAnswer resource extension = .ok c)
    (before : h.OnlyLogged h.loads h.creates (h.loading ++ [.call .createProvider]) v)
    (assembled : assemble extension u = complete extension h.providers v) : ∃ r h',
      onStop (Hub.letGo? extension) (assemble extension) u = (r, h') ∧ h.BootstrapOutcome r h' := by
  obtain ⟨w, ready, logged, dealt⟩ := describe_of_ready
    (before.resourceAnswer.trans described)
    ((before.compositorAnswer resource extension).trans started)
  rw [dealing_of_same before.ground, allocator_of_ground
    (before.ground.trans rfl : _ = h.dealing h.compositor h.allocator)] at dealt
  have faults : w.faults = h.faults := faults_of_ground dealt
  have began := start_of_compositorAnswer started
  have answer : h.bootstrapAnswer = .ok () := by
    unfold bootstrapAnswer
    rw [loaded, provided, described]
    change (h.compositorAnswer resource extension >>= fun _ => pure ()) = _
    rw [started]
    rfl
  have creates : h.creates = 1 := by
    unfold Hub.creates Hub.grants
    rw [loaded, provided]
  have optionalRecords : w.optionalRecords = h.optionalRecords := by
    unfold Hub.optionalRecords
    rw [faults]
  have way : h.upRecords = h.loading ++ .call .createProvider :: .call .queryResource ::
      .call .startCompositor :: h.optionalRecords := by
    unfold upRecords
    rw [loaded, provided, described]
    dsimp only
    rw [started]
  by_cases noCollapse : h.NoOptionalCollapse
  · obtain ⟨t, x, concluded, rest, ground⟩ := conclude_noCollapse resource
      (show w.NoOptionalCollapse by
        unfold NoOptionalCollapse
        rw [faults]
        exact noCollapse)
    have lit : w.lit resource = h.lit resource := by
      have service : w.color = h.color := Hub.told_of_ground Hub.color dealt rfl rfl
      unfold Hub.lit
      rw [faults, service]
    rw [lit, dealt] at ground
    have done := assembled.trans (complete_of_ok (ready.trans concluded))
    refine ⟨_, _, onStop_of_ok done,
      BootstrapOutcome.up extension resource c t _ answer noCollapse loaded described began ?_ ?_⟩
    · have all := (before.toLogged.trans logged).trans rest
      rw [creates, optionalRecords] at all
      have there : h.Logged h.loads 1 h.upRecords x := by
        rw [way]
        simpa using all
      exact there.same rfl rfl rfl
    · have := congrArg (fun y : Hub =>
        { y with core := ⟨extension, some h.providers, some resource, t⟩ }) ground
      exact this
  · obtain ⟨x, concluded, rest, color, ground⟩ := conclude_collapses resource
      (show ¬ w.NoOptionalCollapse by
        unfold NoOptionalCollapse
        rw [faults]
        exact noCollapse)
    rw [dealt] at ground
    have stopped := assembled.trans (complete_of_error (ready.trans concluded))
    -- the compositor keeps the extension
    have kept : (x.abandonProvider h.providers).letGo? extension =
        x.abandonProvider h.providers := by
      refine letGo?_of_holds fun e given => ?_
      have compositor : (x.abandonProvider h.providers).compositor = c :=
        Hub.told_of_ground Hub.compositor ground rfl rfl
      obtain ⟨-, -, same⟩ := Compositor.start_eq_ok began
      unfold holds Compositor.extension?
      rw [compositor, same, given]
      simp
    refine ⟨_, _, onStop_of_error stopped,
      BootstrapOutcome.collapsed extension resource c color _ answer noCollapse loaded described
      began ?_ ?_⟩
    · rw [kept]
      have all := ((before.toLogged.trans logged).trans rest).trans
        (onlyLogged_abandonProvider h.providers x).toLogged
      rw [creates, optionalRecords] at all
      rw [way]
      simpa using all
    · rw [kept]
      exact ground

/-- What happens once the extension is there. -/
theorem bootstrapOutcome_of_loaded (heldIssued : h.HeldIssued)
    (loaded : h.extensionAnswer = .ok extension)
    (onlyLogged : h.OnlyLogged h.loads 0 h.loading u) : ∃ r h',
      onStop (Hub.letGo? extension) (assemble extension) u = (r, h') ∧ h.BootstrapOutcome r h' := by
  obtain ⟨v, granted, assembled⟩ := assemble_apply extension u
  have before := onlyLogged.trans granted
  have grants : u.grants = h.grants := by
    unfold Hub.grants
    rw [onlyLogged.providerAnswer]
  have creates : h.creates = h.grants := by
    unfold Hub.creates
    rw [loaded]
  rw [grants, Nat.add_zero, Nat.zero_add, ← creates] at before
  rw [onlyLogged.providerAnswer] at assembled
  -- one collaborator after the other, until one of them stops
  cases provided : h.providerAnswer with
  | error stop =>
      rw [provided] at assembled
      refine ⟨_, _, onStop_of_error assembled, BootstrapOutcome.failed stop _ ?_ ?_⟩
      · unfold bootstrapAnswer
        rw [loaded, provided]
        rfl
      · have ended := before.trans (onlyLogged_letGo? extension v)
        rw [letGoRecords_of_loaded heldIssued loaded before.ground] at ended
        unfold upRecords undoRecords
        rw [loaded, provided]
        exact ended
  | ok _ =>
      have number : u.providers = h.providers := onlyLogged.providers
      rw [provided, number] at assembled
      cases resourced : h.resourceAnswer with
      | error stop =>
          obtain ⟨w, ran, more⟩ := describe_of_resource extension
            (before.resourceAnswer.trans resourced)
          refine bootstrapOutcome_of_undescribed heldIssued loaded provided before assembled ran
            more ?_ ?_
          · unfold bootstrapAnswer
            rw [loaded, provided, resourced]
            rfl
          · unfold upRecords
            rw [loaded, provided, resourced]
      | ok resource =>
          cases started : h.compositorAnswer resource extension with
          | error stop =>
              obtain ⟨w, ran, more⟩ := describe_of_compositor
                (before.resourceAnswer.trans resourced)
                ((before.compositorAnswer resource extension).trans started)
              refine bootstrapOutcome_of_undescribed heldIssued loaded provided before assembled ran
                more ?_ ?_
              · unfold bootstrapAnswer
                rw [loaded, provided, resourced]
                change (h.compositorAnswer resource extension >>= fun _ => _) = _
                rw [started]
                rfl
              · unfold upRecords
                rw [loaded, provided, resourced]
                dsimp only
                rw [started]
          | ok c =>
              exact bootstrapOutcome_of_started loaded provided resourced started before assembled

end Loaded

/-- A hub that is down ends up in one of these ways. -/
theorem bootstrapOutcome_bootstrap {h : Hub} (heldIssued : h.HeldIssued)
    (down : h.initialized = false) : h.BootstrapOutcome (bootstrap h).1 (bootstrap h).2 := by
  obtain ⟨u, -, onlyLogged, ran⟩ := bootstrap_of_down down
  cases loaded : h.extensionAnswer with
  | error stop =>
      rw [ran, loaded]
      refine BootstrapOutcome.failed stop u ?_ ?_
      · unfold bootstrapAnswer
        rw [loaded]
        rfl
      · unfold creates upRecords undoRecords
        rw [loaded]
        simpa using onlyLogged
  | ok extension =>
      obtain ⟨r, h', done, outcome⟩ := bootstrapOutcome_of_loaded heldIssued loaded onlyLogged
      rw [ran, loaded]
      dsimp only
      rw [done]
      exact outcome

end Hub

end DisplayHub
