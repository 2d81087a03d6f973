import DisplayHub.Hub.Accessors
import DisplayHub.Hub.Bootstrap
import DisplayHub.Hub.Factory
import DisplayHub.Session.Setup

/-!
# The command line

What the program does when it is run.

The program brings a hub up from its settings, switches on every display that
the hardware reports and that can be created, prints what there is, and takes
everything down again. It ends well if the hub comes up. Otherwise it ends
with a chain of messages, each the cause of the one before.

## Main definitions

* `Command.ofArguments`: What the arguments ask for.
* `Report`: What a run prints and how it ends.
* `tour`: The run on a hub, once its settings are known.
* `runCommand`: The whole run.
-/

namespace DisplayHub

/-- What the arguments ask for. -/
inductive Command where
  | usage
  /-- To run, with the settings file that was named, if one was. -/
  | run (settings : Option String)
  | refuse (reason : String)
deriving DecidableEq, Repr

namespace Command

/-- Reads the arguments in their order. Help ends the reading at once, and a
    later settings file takes the place of an earlier one. -/
def ofArguments (settings : Option String) : List String → Command
  | [] => .run settings
  | argument :: rest =>
    if argument = "--config" ∨ argument = "-c" then match rest with
      | [] => .refuse "--config needs a path"
      | path :: rest => ofArguments (some path) rest
    else if argument = "--help" ∨ argument = "-h" then .usage
    else .refuse ("unexpected argument '" ++ argument ++ "'")

end Command

/-- What a run prints and how it ends. -/
structure Report where
  /-- The lines printed. -/
  output : List String := []
  /-- The messages of what went wrong, each the cause of the one before. -/
  chain : List String := []
  notes : List Note := []

/-- The code with which a run ends. -/
def Report.exitCode (r : Report) : Nat :=
  if r.chain.isEmpty then 0 else 1

/-- A text filled up with spaces to a width in characters. -/
def padded (width : Nat) (text : String) : String :=
  text ++ String.ofList (List.replicate (width - text.length) ' ')

/-- One entry as it is printed. -/
def entryLine (e : Entry) : String :=
  "  [" ++ toString e.id.toInt ++ "] " ++ e.variant.word ++ " " ++ padded 24 e.name
    ++ " connected=" ++ toString e.connected ++ " primary=" ++ toString e.primary

/-- One display as it is printed. -/
def displayLine (d : Display) : String :=
  "  " ++ d.name ++ " (" ++ d.power.title ++ ")"

/-- Creates the display of each entry, and notes those that cannot be. -/
def createAll : List Entry → Act (List Display)
  | [] => return []
  | e :: rest => do
    let d ← match ← Act.attempt (Act.createById e.id (some .announce)) with
      | .ok d => pure [d]
      | .error f => do
        Act.note .warn ("display " ++ toString e.id.toInt ++ " (" ++ e.variant.word ++ ", "
          ++ e.name ++ "): not created: " ++ f.message)
        pure []
    let more ← createAll rest
    return d ++ more

/-- Switches each display on. -/
def switchOn : List Display → Act (List Display)
  | [] => return []
  | d :: rest => do
    let d ← fun h => match Serve.setPower .on (d, h) with
      | (.error (.failure f), d, h) =>
        (.ok d, h.note .warn (d.name ++ ": power on failed: " ++ f.message))
      | (.error .collapse, _, h) => (.error .collapse, h)
      | (.ok (), d, h) => (.ok d, h)
    let more ← switchOn rest
    return d :: more

/-- Destroys each display. -/
def destroyAll : List Display → Act Unit
  | [] => return ()
  | d :: rest => do
    match ← Act.attempt (Act.destroy (some d)) with
    | .ok () => pure ()
    | .error f => Act.note .error ("destroy failed: " ++ f.message)
    destroyAll rest

/-- A fresh report, or else the last one. -/
def currentTopology : Act Topology := do
  match ← Act.attempt Act.refresh with
  | .ok topology => return topology
  | .error f =>
    Act.note .warn ("Topology refresh failed (" ++ f.message ++ "), using bootstrap snapshot")
    return (← get).core.topology

/-- The lines that say how many displays of each kind there can be. -/
def limitLines : List Variant → Act (List String)
  | [] => return []
  | v :: rest => do
    let line ← match ← Act.attempt (Act.limit v) with
      | .ok n => pure ["max " ++ v.word ++ " displays: " ++ toString n]
      | .error _ => pure []
    let more ← limitLines rest
    return line ++ more

/-- Notes what the hardware offers, if it is known. -/
def noteHardware : Act Unit := do
  match (← get).core.resource with
  | none => return ()
  | some r => Act.note .info ("hardware: " ++ toString r.mixers ++ " mixers, " ++ toString r.dspps
      ++ " dspp, " ++ toString r.maxBandwidth ++ " kbps, caps " ++ r.capabilities.describe)

/-- The run on a hub that is up, with the lines it prints. -/
def tour : Act (List String) := do
  noteHardware
  let topology ← currentTopology
  let created ← createAll topology.entries
  let displays ← switchOn created
  let extension := if (← get).core.extension.isSome then "loaded" else "none"
  let limits ← limitLines Variant.all
  destroyAll displays
  modify Hub.teardown
  Act.note .info "display-core exited successfully."
  return ["extension: " ++ extension] ++ limits
    ++ ["topology: " ++ toString topology.size ++ " entries"] ++ topology.entries.map entryLine
    ++ ["active displays: " ++ toString displays.length] ++ displays.map displayLine

/-- The chain of messages of settings that could not be had. -/
def SettingsFault.chain (fault : SettingsFault) : List String :=
  let cause := match fault with
    | unreadable _ os => [os.message]
    | unparsable _ _ => []
  "Failed to load configuration" :: fault.message :: cause

/-- The run on a hub, and the hub afterwards. -/
def runHub (h : Hub) : Report × Hub :=
  match Act.bootstrap h with
  | (.error (.failure f), h) => ({ chain := ["Display core bootstrap failed", f.message] }, h)
  | (.error .collapse, h) => ({ chain := ["Display core bootstrap failed"] }, h)
  | (.ok (), h) => match tour h with
    | (.ok output, h) => ({ output }, h)
    | (.error (.failure f), h) => ({ chain := [f.message] }, h)
    | (.error .collapse, h) => ({ chain := ["Display core teardown failed"] }, h)

/-- The whole run, with the settings file and the library path that the
    environment names. The process has broken pipes ignored from its start. -/
def runCommand (arguments : List String) (storage : Storage)
    (settingsPath override : Option String) : Report :=
  match Command.ofArguments none arguments with
  | .usage => { output := ["usage: display-core [--config <path>]"] }
  | .refuse reason => { chain := [reason] }
  | .run given =>
    let loading := Settings.load storage (Settings.path? given settingsPath)
    match loading.result with
    | .error fault => { chain := fault.chain, notes := loading.notes }
    | .ok settings =>
      let start := (settings.hub loading.storage override).noteAll loading.notes
      let (report, h) := runHub { start with pipeIgnored := true }
      { report with notes := h.close.journal.notes }

end DisplayHub
