import ProxyControl.CommandLine.Grammar
import ProxyControl.Controller.EngineRun
import ProxyControl.Controller.Request
import ProxyControl.Engine.Schedule
import ProxyControl.Preference.Backend
import ProxyControl.Settings.Configuration
import ProxyControl.Settings.Database
import ProxyControl.Settings.Store

/-!
# Sessions of the controller

A session is one start of the controller on a host: the command line is read, the log
directory is made, the settings are opened and the task is carried out.

Main results:

- Structure `Host`: what the controller finds.
- Definition `Session.perform`: a task on open settings.
- Definition `Session.run`: a whole session.
-/

namespace ProxyControl
namespace Controller

open CommandLine

/-- What the controller finds on a host. -/
structure Host where
  user : UserDirectories
  volume : Volume
  /-- The directory of the programs. -/
  binaries : Path
  /-- Log files can be made. -/
  keepsLogs : Bool := true
  /-- How the system preferences answer to a synchronization with a port. -/
  synchronize : UInt16 → Except SyncError SyncReport :=
    fun port => (Synchronizer.run .unsupported port ()).result

/-- What happens while the engine runs. -/
structure Situation where
  /-- An interrupt comes; otherwise the engine ends by itself. -/
  interrupted : Bool := false
  /-- The status of the engine is lost. -/
  losesStatus : Bool := false
  deriving DecidableEq, Repr

/-- What a task has led to. -/
structure Performed where
  stdout : String := ""
  failure : Option Failure := none
  /-- The volume afterwards. -/
  volume : Volume
  log : List Log.Entry := []
  /-- The run of the engine, if the task was one. -/
  run : Option EngineRun := none
  /-- An engine still runs. -/
  alive : Bool := false

namespace Session

/-! ## The log directory -/

/-- The volume with the log directory, and the note about it. -/
def openLog (h : Host) : Volume × Log.Entry :=
  let unavailable : Log.Entry := ⟨.warn, "File logging unavailable, using console only"⟩
  match h.user.logs? with
  | none => (h.volume, unavailable)
  | some directory =>
    match Volume.makeDirectories directory h.volume with
    | .error _ volume => (volume, unavailable)
    | .ok _ volume =>
      if h.keepsLogs then
        (volume, ⟨.debug, "Logging to " ++ Text.Quoted.write directory.bytes⟩)
      else (volume, unavailable)

/-! ## The settings -/

/-- Opens the settings at a path, or at the user's own place. -/
def openSettings (h : Host) (path : Option Path) : VolumeAction Failure (SettingsStore Database) :=
  match path.elim h.user.database .ok with
  | .error e => throw (.openSettings e)
  | .ok path => do
    let (database, _) ← (Database.open? path).adaptExcept .openSettings
    return ⟨database, h.user.defaults⟩

/-- Shows all settings. -/
def showSettings (s : SettingsStore Database) : Performed :=
  match s.snapshot.toJson? with
  | some json => { stdout := Output.line json.toLines, volume := s.backend.close }
  | none => { failure := some .notText, volume := s.backend.close }

/-- Stores a setting given as text. -/
def set (s : SettingsStore Database) (key value : String) : Performed :=
  match s.setFromText key value with
  | .ok s =>
    { volume := s.backend.close, log := [⟨.info, "Set " ++ key ++ " = " ++ value⟩] }
  | .error e => { failure := some (.setting key e), volume := s.backend.close }

/-- Removes a stored setting. -/
def reset (s : SettingsStore Database) (key : String) : Performed :=
  match s.reset key with
  | .ok (true, s) =>
    { volume := s.backend.close, log := [⟨.info, "Reset " ++ key ++ " to its default"⟩] }
  | .ok (false, s) => { volume := s.backend.close }
  | .error e => { failure := some (.resetting e), volume := s.backend.close }

/-! ## The system proxy -/

/-- Points the system proxy at a port and shows the summary. -/
def setSystemProxy (h : Host) (s : SettingsStore Database) (port : UInt16) : Performed :=
  match h.synchronize port with
  | .ok report =>
    { stdout := Output.line report.toJson.toLines
      volume := s.backend.close
      log := (EngineRun.syncNotes "" (.ok report)).filterMap RunAction.entry? }
  | .error e => { failure := some (.systemProxy e), volume := s.backend.close }

/-! ## The engine -/

/-- The supervisor's answer to a start. -/
def startAnswer : CallAnswer → Except EngineError Pid
  | .started pid => .ok pid
  | .failed e => .error e
  | .done => .error .executablePath

/-- The supervisor's answer to a stop. -/
def stopAnswer : CallAnswer → Except EngineError Unit
  | .failed e => .error e
  | _ => .ok ()

/-- What wakes the controller, and the engine at that time. -/
def wake (situation : Situation) (s : Schedule) : Wakeup × Schedule :=
  if situation.interrupted then (.interrupt, s)
  else
    let s := s.letGo
    (.tick s.system.isRunning s.system.lastExit, s)

/-- Runs the engine with the settings of a store. -/
def runEngine (h : Host) (situation : Situation) (s : SettingsStore Database) (engine : Path)
    (systemProxy : Bool) (stopTimeout : Option Nat) : Performed :=
  let launch := s.backend.volume.program engine
  let begun : Schedule :=
    { system := { options := ⟨engine, stopTimeout.isSome⟩ }, losesStatus := situation.losesStatus }
  let (started, schedule) := begun.perform .start {} launch
  let (wakeup, schedule) := wake situation schedule
  let (stopped, schedule) := schedule.perform .stop {} launch
  let (_, schedule) := schedule.perform .drop {} launch
  let surroundings : Surroundings :=
    { defaults := s.defaults
      commandReadings := s.read
      start := startAnswer started
      portReading := s.read .port
      pointing := h.synchronize s.port
      wakeups := [wakeup]
      switchingOff := h.synchronize 0
      stop := stopAnswer stopped }
  let run := EngineRun.run ⟨engine, systemProxy⟩ surroundings
  let failure := match run.result with
    | some (.error failure) => some failure
    | _ => none
  { failure := failure
    volume := s.backend.close
    log := run.log
    run := some run
    alive := !schedule.alive.isEmpty }

/-- A task on open settings. -/
def perform (h : Host) (situation : Situation) (s : SettingsStore Database) : Task → Performed
  | .showSettings => showSettings s
  | .set key value => set s key value
  | .reset key => reset s key
  | .runEngine engine systemProxy stopTimeout =>
    runEngine h situation s (engine.getD (EngineCommand.defaultProgram h.binaries)) systemProxy
      stopTimeout
  | .setSystemProxy disable => setSystemProxy h s (if disable then 0 else s.port)

/-! ## Whole sessions -/

/-- What a session leaves behind. -/
structure Result where
  output : Output
  volume : Volume
  log : List Log.Entry := []
  run : Option EngineRun := none
  alive : Bool := false

/-- The output of a command line whose reading ended early. -/
def outputOf : Stop → Output
  | .showHelp about => .ofText about
  | .showVersion version => .ofText version
  | .nothingGiven about => { code := Output.usageCode, stderr := Output.line about }
  | stop => { code := Output.usageCode, stderr := Output.line ("error: " ++ stop.firstLine) }

/-- The output of a task. -/
def outputOfTask (p : Performed) : Output :=
  match p.failure with
  | none => { stdout := p.stdout }
  | some failure => { code := 1, stdout := p.stdout, stderr := failure.report }

/-- A request on a host, with what is let through of the log. -/
def serve (h : Host) (situation : Situation) (r : Request) (threshold : Log.Threshold) : Result :=
  let (volume, note) := openLog h
  let performed := match openSettings h r.database volume with
    | .error failure volume => { failure := some failure, volume := volume }
    | .ok s _ => perform h situation s r.task
  { output := outputOfTask performed
    volume := performed.volume
    log := (note :: performed.log).filter fun e => threshold.admits e.level
    run := performed.run
    alive := performed.alive }

/-- A whole session: the words of the command line on a host.  A broken log filter ends it
before anything is opened. -/
def run (h : Host) (situation : Situation) (words : List Word) : Result :=
  match Request.read words with
  | .error stop => { output := outputOf stop, volume := h.volume }
  | .ok r =>
    match r.threshold? with
    | none => { output := Output.aborted, volume := h.volume }
    | some threshold => serve h situation r threshold

end Session
end Controller
end ProxyControl
