import ProxyControl.Controller.Failure
import ProxyControl.Engine.Command
import ProxyControl.Engine.Supervisor
import ProxyControl.Preference.Synchronizer

/-!
# Running the engine

The controller starts the engine, points the system proxy at it if it was asked to, and
watches over it until the engine ends or an interrupt comes.  Then it switches the
system proxy off again and stops the engine.

Everything that the controller does not decide itself is part of the surroundings of a
run: what the settings read as at each moment, how the supervisor and the system
preferences answer, and what wakes the controller.

Main results:

- Structure `Surroundings`: what a run finds around it.
- Definition `EngineRun.watch`: what ends the watch.
- Definition `EngineRun.run`: the actions of a run and its result.
-/

namespace ProxyControl
namespace Controller

/-- What wakes the controller during its watch. -/
inductive Wakeup where
  /-- A moment has passed: the running flag and, if it is lowered, the latest record of
  an exit are read. -/
  | tick (running : Bool) (lastExit : Option ExitRecord)
  | interrupt
  /-- Interrupts cannot be listened for. -/
  | cannotListen (cause : String)
  deriving DecidableEq, Repr

/-- What ends the watch. -/
inductive WatchEnd where
  | interrupted
  /-- The engine has ended, with a record unless that was lost. -/
  | exited (record : Option ExitRecord)
  | cannotListen (cause : String)
  deriving DecidableEq, Repr

/-- What a run is asked for. -/
structure RunOptions where
  engine : Path
  /-- The system proxy is pointed at the engine while it runs. -/
  systemProxy : Bool
  deriving DecidableEq, Repr

/-- What a run finds around it. -/
structure Surroundings where
  defaults : ConfigurationDefaults
  /-- The readings that the engine's command line is made from. -/
  commandReadings : SettingKey → Reading
  /-- The supervisor's answer to the start. -/
  start : Except EngineError Pid
  /-- The reading of the port after the start. -/
  portReading : Reading
  /-- The answer to pointing the system proxy at the engine. -/
  pointing : Except SyncError SyncReport
  /-- What wakes the controller, in this order. -/
  wakeups : List Wakeup
  /-- The answer to switching the system proxy off. -/
  switchingOff : Except SyncError SyncReport
  /-- The supervisor's answer to the stop. -/
  stop : Except EngineError Unit

/-- What the controller does during a run. -/
inductive RunAction where
  /-- The supervisor is asked to start the engine. -/
  | start (command : EngineCommand)
  /-- Something is logged. -/
  | note (entry : Log.Entry)
  /-- The system proxy is synchronized with a port. -/
  | synchronize (port : UInt16)
  /-- The supervisor is asked to stop the engine. -/
  | stop
  /-- The supervisor is given up, which stops an engine that it still holds. -/
  | giveUp
  deriving DecidableEq, Repr

/-- The entry that an action logs. -/
def RunAction.entry? : RunAction → Option Log.Entry
  | note entry => some entry
  | _ => none

/-- The command line that an action starts the engine with. -/
def RunAction.command? : RunAction → Option EngineCommand
  | start command => some command
  | _ => none

/-- What a run has done, and its result unless the watch still goes on. -/
structure EngineRun where
  /-- The engine, if it could be started. -/
  engine : Option Pid
  actions : List RunAction
  result : Option (Except Failure Unit)
  deriving Repr

namespace EngineRun

/-! ## Notes -/

/-- The note about an engine that runs. -/
def running (port : UInt16) (pid : Pid) : Log.Entry :=
  ⟨.info, "Engine running on port " ++ toString port.toNat ++ " (pid " ++ toString pid ++ ")"⟩

/-- The notes about a synchronization: services that could not be written, or the reason
why it failed. -/
def syncNotes (complaint : String) : Except SyncError SyncReport → List RunAction
  | .ok report =>
    report.outcomes.filterMap fun o => o.error.map fun e => .note ⟨.warn, e.message⟩
  | .error e => [.note ⟨.error, complaint ++ ": " ++ Failure.sentenceOf (Failure.syncChain e)⟩]

/-- The note about the end of the watch. -/
def ending : WatchEnd → List RunAction
  | .interrupted => [.note ⟨.info, "Interrupted, stopping engine"⟩]
  | .exited (some record) =>
    [.note ⟨.warn, "Engine exited with status " ++ toString record.status⟩]
  | .exited none => [.note ⟨.warn, "Engine exited"⟩]
  | .cannotListen _ => []

/-! ## The run -/

/-- What ends the watch; while the engine runs a tick changes nothing. -/
def watch : List Wakeup → Option WatchEnd
  | [] => none
  | .tick true _ :: rest => watch rest
  | .tick false record :: _ => some (.exited record)
  | .interrupt :: _ => some .interrupted
  | .cannotListen cause :: _ => some (.cannotListen cause)

/-- The command line that the engine is started with. -/
def command (o : RunOptions) (w : Surroundings) : EngineCommand :=
  .ofConfiguration o.engine (.ofReadings w.defaults w.commandReadings)

/-- The port that the system proxy is pointed at, read after the start. -/
def port (w : Surroundings) : UInt16 :=
  w.portReading.port?.getD w.defaults.port

/-- Synchronizes the system proxy if a run was asked to. -/
def synchronize (o : RunOptions) (port : UInt16) (complaint : String)
    (answer : Except SyncError SyncReport) : List RunAction :=
  if o.systemProxy then .synchronize port :: syncNotes complaint answer else []

/-- The actions up to the watch. -/
def opening (o : RunOptions) (w : Surroundings) (pid : Pid) : List RunAction :=
  [.start (command o w), .note (running (port w) pid)] ++
    synchronize o (port w) "Failed to set system proxy" w.pointing

/-- The actions behind the watch.  Without interrupts to listen for the run is broken
off. -/
def closing (o : RunOptions) (w : Surroundings) : WatchEnd → List RunAction
  | .cannotListen _ => [.giveUp]
  | watched =>
    ending watched ++ synchronize o 0 "Failed to reset system proxy" w.switchingOff ++
      [.stop, .giveUp]

/-- The result of a run whose watch has ended. -/
def resultOf (w : Surroundings) : WatchEnd → Except Failure Unit
  | .cannotListen cause => .error (.listening cause)
  | _ => w.stop.mapError .engine

/-- A whole run. -/
def run (o : RunOptions) (w : Surroundings) : EngineRun :=
  match w.start with
  | .error e => ⟨none, [.start (command o w), .giveUp], some (.error (.engine e))⟩
  | .ok pid =>
    match watch w.wakeups with
    | none => ⟨some pid, opening o w pid, none⟩
    | some watched =>
      ⟨some pid, opening o w pid ++ closing o w watched, some (resultOf w watched)⟩

/-- What a run has logged. -/
def log (r : EngineRun) : List Log.Entry :=
  r.actions.filterMap RunAction.entry?

/-- The command line of the engine that was started. -/
def launched? (r : EngineRun) : Option EngineCommand :=
  r.engine.bind fun _ => r.actions.findSome? RunAction.command?

end EngineRun
end Controller
end ProxyControl
