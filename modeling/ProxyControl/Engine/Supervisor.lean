import ProxyControl.Engine.Program
import ProxyControl.Path
import ProxyControl.SystemError

/-!
# Supervision of the engine

A supervisor owns at most one engine.  For each engine that it starts, a watcher thread
takes the engine over, waits for its end, lowers the running flag, stores a record of the
exit and sends the status to the supervisor.  The supervisor's calls and the watchers'
steps interleave freely, so both are given here as small steps of one system.

A call of the supervisor stops at every point where the operating system or a watcher
decides how it goes on; an event says what was decided.  An event that cannot happen in
a state leads nowhere.

Main results:

- Definition `EngineError.message`: the text of each failure.
- Structure `Supervision`: the processes, the watchers, the records and the caller.
- Type `Event`: what can happen next.
- Definition `Supervision.step`: the state after an event.
- Definition `Supervision.run`: the state after a list of events.
-/

namespace ProxyControl

/-! ## Failures -/

/-- A failure of the supervisor. -/
inductive EngineError where
  /-- The engine could not be started. -/
  | launch (path : Path) (cause : String)
  /-- A signal could not be sent. -/
  | signal (pid : Nat) (cause : String)
  /-- The thread that waits for the engine could not be started. -/
  | watcher (cause : String)
  /-- It is not known where the engine's program is. -/
  | executablePath
  deriving DecidableEq, Repr

namespace EngineError

/-- The text of a failure, with process numbers written in a given way. -/
def messageWith (showPid : Nat → String) : EngineError → String
  | launch path cause => "failed to launch " ++ path.display ++ ": " ++ cause
  | signal pid cause => "failed to signal engine process " ++ showPid pid ++ ": " ++ cause
  | watcher cause => "failed to start exit watcher: " ++ cause
  | executablePath => "failed to determine engine executable path"

/-- The text of a failure. -/
def message (e : EngineError) : String :=
  e.messageWith toString

/-- The texts of the failures behind a failure. -/
def causes : EngineError → List String
  | launch _ cause => [cause]
  | watcher cause => [cause]
  | _ => []

end EngineError

/-- The number of a process, counted in the order of the launches.  The system's own numbers
may be given again once a process has been waited for; these stand for the processes
themselves. -/
abbrev Pid := Nat

/-! ## Processes and watchers -/

/-- Where a process is between its start and the end of the wait for it. -/
inductive ProcessState where
  /-- It runs. -/
  | running
  /-- It has ended, and nobody has waited for it yet. -/
  | exited (status : ExitStatus)
  /-- It has been waited for. -/
  | reaped
  deriving DecidableEq, Repr

/-- What a watcher has done. -/
inductive WatcherStage where
  /-- It waits for the process to be handed over. -/
  | expecting
  /-- The process is handed over, and the watcher has not taken it yet. -/
  | entrusted
  /-- It waits for the end of the process. -/
  | waiting
  /-- The wait is over, with a status unless that was lost. -/
  | woken (status : Option ExitStatus)
  /-- The running flag is lowered. -/
  | lowered (status : Option ExitStatus)
  /-- The exit is recorded. -/
  | recorded
  /-- The status is sent. -/
  | sent
  /-- The thread is over. -/
  | ended
  deriving DecidableEq, Repr

/-- The watcher of a process. -/
structure Watcher where
  stage : WatcherStage
  /-- A status has been sent and not been received. -/
  unread : Bool
  deriving DecidableEq, Repr

namespace Watcher

/-- A watcher whose thread has just been made. -/
def new : Watcher := ⟨.expecting, false⟩

/-- The running flag: raised until the watcher lowers it. -/
def flag (w : Watcher) : Bool :=
  match w.stage with
  | .expecting => true
  | .entrusted => true
  | .waiting => true
  | .woken _ => true
  | _ => false

/-- Whether a receive returns: there is a status, or no status can come any more. -/
def canReceive (w : Watcher) : Bool :=
  w.unread || w.stage == .ended

end Watcher

/-- A process that was started, with its watcher if it got one. -/
structure Child where
  pid : Pid
  state : ProcessState
  watcher : Option Watcher
  deriving DecidableEq, Repr

/-- The record of an exit. -/
structure ExitRecord where
  pid : Pid
  status : Nat
  deriving DecidableEq, Repr

/-- How firmly a process is asked to end. -/
inductive Termination where
  | graceful
  | forced
  deriving DecidableEq, Repr

/-- A signal that was sent. -/
structure SentSignal where
  pid : Pid
  how : Termination
  /-- The process had been waited for when the signal was sent. -/
  toReaped : Bool
  deriving DecidableEq, Repr

/-! ## Calls -/

/-- A call of the supervisor. -/
inductive Call where
  | start
  | stop
  | restart
  /-- The supervisor is given up. -/
  | drop
  deriving DecidableEq, Repr

/-- What follows the stop that a call begins with. -/
inductive AfterStop where
  /-- The call is over. -/
  | finish
  /-- The engine is launched. -/
  | launch
  /-- A second stop, and then the engine is launched. -/
  | stopAndLaunch
  /-- The supervisor is gone. -/
  | vanish
  deriving DecidableEq, Repr

/-- Where the caller is.  During a stop it holds the handle. -/
inductive Caller where
  /-- Between two calls. -/
  | idle
  /-- Before reading the running flag. -/
  | checking (pid : Pid) (after : AfterStop)
  /-- Before asking the engine to terminate. -/
  | terminating (pid : Pid) (after : AfterStop)
  /-- Receiving the status, for a limited time if there is a timeout. -/
  | receiving (pid : Pid) (after : AfterStop)
  /-- Before killing the engine after the timeout. -/
  | killing (pid : Pid) (after : AfterStop)
  /-- Receiving the status of a killed engine. -/
  | receivingKilled (pid : Pid) (after : AfterStop)
  /-- Waiting for the watcher's end. -/
  | joining (pid : Pid) (after : AfterStop)
  /-- Before launching the engine. -/
  | launching
  /-- The engine is launched, before its watcher is started. -/
  | hiringWatcher (pid : Pid)
  /-- Before the engine is handed over to its watcher. -/
  | handingOver (pid : Pid)
  /-- No watcher takes the engine, before it is killed. -/
  | discarding (pid : Pid) (cause : String)
  /-- Waiting for an engine that no watcher has taken. -/
  | reaping (pid : Pid) (cause : String)
  /-- Waiting for the end of a watcher that has not taken its engine. -/
  | dismissing (pid : Pid) (cause : String)
  /-- The supervisor is gone. -/
  | gone
  deriving DecidableEq, Repr

/-- The outcome of a call. -/
inductive CallAnswer where
  | done
  | started (pid : Pid)
  | failed (error : EngineError)
  deriving DecidableEq, Repr

/-! ## The system -/

/-- What a supervisor is set up with. -/
structure SupervisorOptions where
  /-- The engine's program. -/
  engine : Path
  /-- The engine is killed if it has not ended some time after the request. -/
  hasTimeout : Bool
  deriving DecidableEq, Repr

/-- The supervisor, its processes and their watchers. -/
structure Supervision where
  options : SupervisorOptions
  /-- All processes that were started, the oldest first. -/
  children : List Child := []
  /-- The engine that the supervisor holds. -/
  handle : Option Pid := none
  /-- The recorded exits, the latest first. -/
  records : List ExitRecord := []
  /-- The signals that were sent, the latest first. -/
  signals : List SentSignal := []
  caller : Caller := .idle
  /-- The outcome of the latest call that is over. -/
  answer : CallAnswer := .done
  deriving Repr

namespace Supervision

/-- The process of a number. -/
def child? (s : Supervision) (pid : Pid) : Option Child :=
  s.children.find? fun c => c.pid = pid

/-- The system with one process changed. -/
def modify (s : Supervision) (pid : Pid) (f : Child → Child) : Supervision :=
  { s with children := s.children.map fun c => if c.pid = pid then f c else c }

/-- The watcher of a process. -/
def watcher? (s : Supervision) (pid : Pid) : Option Watcher :=
  (s.child? pid).bind Child.watcher

/-- The system with one watcher changed. -/
def modifyWatcher (s : Supervision) (pid : Pid) (f : Watcher → Watcher) : Supervision :=
  s.modify pid fun c => { c with watcher := c.watcher.map f }

/-- The system with one process in another state. -/
def setProcess (s : Supervision) (pid : Pid) (state : ProcessState) : Supervision :=
  s.modify pid fun c => { c with state := state }

/-! ## What the supervisor shows -/

/-- Whether the engine that is held runs, as its flag says. -/
def isRunning (s : Supervision) : Bool :=
  (s.handle.bind s.watcher?).any Watcher.flag

/-- The number of the engine that is held. -/
def pid? (s : Supervision) : Option Pid :=
  s.handle

/-- The latest record of an exit. -/
def lastExit (s : Supervision) : Option ExitRecord :=
  s.records.head?

/-- The processes that have not been waited for. -/
def unreaped (s : Supervision) : List Child :=
  s.children.filter fun c => c.state ≠ .reaped

/-! ## Steps of the caller -/

/-- The call is over. -/
def finish (s : Supervision) (answer : CallAnswer) : Supervision :=
  { s with caller := .idle, answer := answer }

/-- Begins a stop: the handle is taken, if there is one. -/
def beginStop (s : Supervision) (after : AfterStop) : Supervision :=
  match s.handle with
  | some pid => { s with handle := none, caller := .checking pid after }
  | none =>
    match after with
    | .finish => s.finish .done
    | .launch => { s with caller := .launching }
    | .stopAndLaunch => { s with caller := .launching }
    | .vanish => { s with caller := .gone, answer := .done }

/-- What follows a stop that has succeeded.  The second stop of a restart finds no
handle. -/
def afterStop (s : Supervision) : AfterStop → Supervision
  | .finish => s.finish .done
  | .launch => { s with caller := .launching }
  | .stopAndLaunch => s.beginStop .launch
  | .vanish => { s with caller := .gone, answer := .done }

/-- The stop has failed: the handle is put back. -/
def failStop (s : Supervision) (pid : Pid) (after : AfterStop) (error : EngineError) :
    Supervision :=
  { s with
    handle := some pid
    caller := if after = .vanish then .gone else .idle
    answer := .failed error }

/-- A call begins. -/
def begin (s : Supervision) : Call → Supervision
  | .start => s.beginStop .launch
  | .stop => s.beginStop .finish
  | .restart => s.beginStop .stopAndLaunch
  | .drop => s.beginStop .vanish

/-- A signal goes out. -/
def send (s : Supervision) (pid : Pid) (how : Termination) : Supervision :=
  let toReaped := (s.child? pid).any fun c => c.state = .reaped
  { s with signals := ⟨pid, how, toReaped⟩ :: s.signals }

/-- The status is taken from the channel. -/
def receive (s : Supervision) (pid : Pid) : Supervision :=
  s.modifyWatcher pid fun w => { w with unread := false }

/-- The cause of a launch that fails because the watcher is over too early. -/
def absentWatcher : String := "exit watcher terminated before taking the engine"

/-- A process is started. -/
def spawn (s : Supervision) : Supervision :=
  let pid := s.children.length
  { s with
    children := s.children ++ [⟨pid, .running, none⟩]
    caller := .hiringWatcher pid }

/-! ## Events -/

/-- What can happen next. -/
inductive Event where
  /-- A call begins. -/
  | call (c : Call)
  /-- The caller reads the running flag. -/
  | readFlag
  /-- The system has sent a signal, or refused to. -/
  | signalled (result : Except String Unit)
  /-- The caller's receive returns. -/
  | received
  /-- The caller's receive has taken too long. -/
  | timedOut
  /-- The watcher's thread has been joined. -/
  | joined
  /-- The system has made a process, or refused to. -/
  | spawned (result : Except SystemError Unit)
  /-- The system has made a thread, or refused to. -/
  | threadStarted (result : Except SystemError Unit)
  /-- The engine has been sent to its watcher, or come back because the watcher is over. -/
  | handedOver
  /-- The engine that no watcher has taken has been waited for. -/
  | waited
  /-- A process ends. -/
  | exits (pid : Pid) (status : ExitStatus)
  /-- A watcher goes on; a wait that returns gives the status or has lost it. -/
  | watcher (pid : Pid) (statusKnown : Bool)

/-- The next step of a watcher. -/
def watcherStep (s : Supervision) (c : Child) (statusKnown : Bool) : Option Supervision :=
  let moved (stage : WatcherStage) := s.modifyWatcher c.pid fun w => { w with stage := stage }
  match c.watcher.map Watcher.stage with
  | none => none
  | some .expecting => none
  | some .entrusted => some (moved .waiting)
  | some .waiting =>
    match c.state with
    | .exited status =>
      let s := s.setProcess c.pid .reaped
      some (s.modifyWatcher c.pid fun w =>
        { w with stage := .woken (if statusKnown then some status else none) })
    | _ => none
  | some (.woken status) => some (moved (.lowered status))
  | some (.lowered (some status)) =>
    some { moved .recorded with records := ⟨c.pid, status.number⟩ :: s.records }
  | some (.lowered none) => some (moved .ended)
  | some .recorded =>
    some (s.modifyWatcher c.pid fun _ => ⟨.sent, true⟩)
  | some .sent => some (moved .ended)
  | some .ended => none

/-- The state after an event, if the event can happen. -/
def step (s : Supervision) : Event → Option Supervision
  | .call c => if s.caller = .idle then some (s.begin c) else none
  | .readFlag =>
    match s.caller with
    | .checking pid after =>
      if (s.watcher? pid).any Watcher.flag then some { s with caller := .terminating pid after }
      else some { s with caller := .receiving pid after }
    | _ => none
  | .signalled result =>
    match s.caller, result with
    | .terminating pid after, .ok () =>
      some { s.send pid .graceful with caller := .receiving pid after }
    | .terminating pid after, .error cause => some (s.failStop pid after (.signal pid cause))
    | .killing pid after, .ok () =>
      some { s.send pid .forced with caller := .receivingKilled pid after }
    | .killing pid after, .error cause => some (s.failStop pid after (.signal pid cause))
    | .discarding pid cause, .ok () => some { s.send pid .forced with caller := .reaping pid cause }
    | .discarding pid cause, .error _ => some { s with caller := .reaping pid cause }
    | _, _ => none
  | .received =>
    match s.caller with
    | .receiving pid after =>
      if (s.watcher? pid).any Watcher.canReceive then
        some { s.receive pid with caller := .joining pid after }
      else none
    | .receivingKilled pid after =>
      if (s.watcher? pid).any Watcher.canReceive then
        some { s.receive pid with caller := .joining pid after }
      else none
    | _ => none
  | .timedOut =>
    match s.caller with
    | .receiving pid after =>
      if s.options.hasTimeout && !(s.watcher? pid).any Watcher.canReceive then
        some { s with caller := .killing pid after }
      else none
    | _ => none
  | .joined =>
    match s.caller with
    | .joining pid after =>
      if (s.watcher? pid).any fun w => w.stage = .ended then some (s.afterStop after) else none
    | .dismissing pid cause =>
      if (s.watcher? pid).any fun w => w.stage = .ended then
        some (s.finish (.failed (.watcher cause)))
      else none
    | _ => none
  | .spawned result =>
    match s.caller, result with
    | .launching, .ok () => some s.spawn
    | .launching, .error e => some (s.finish (.failed (.launch s.options.engine e.message)))
    | _, _ => none
  | .threadStarted result =>
    match s.caller, result with
    | .hiringWatcher pid, .ok () =>
      let s := s.modify pid fun c => { c with watcher := some .new }
      some { s with caller := .handingOver pid }
    | .hiringWatcher pid, .error e => some { s with caller := .discarding pid e.message }
    | _, _ => none
  | .handedOver =>
    match s.caller with
    | .handingOver pid =>
      if (s.watcher? pid).any fun w => w.stage = .ended then
        some { s with caller := .discarding pid absentWatcher }
      else
        let s := s.modifyWatcher pid fun w => { w with stage := .entrusted }
        some { s.finish (.started pid) with handle := some pid }
    | _ => none
  | .waited =>
    match s.caller with
    | .reaping pid cause =>
      match (s.child? pid).map Child.state with
      | some (.exited _) =>
        let s := s.setProcess pid .reaped
        if (s.watcher? pid).isSome then some { s with caller := .dismissing pid cause }
        else some (s.finish (.failed (.watcher cause)))
      | _ => none
    | _ => none
  | .exits pid status =>
    match (s.child? pid).map Child.state with
    | some .running => some (s.setProcess pid (.exited status))
    | _ => none
  | .watcher pid statusKnown =>
    match s.child? pid with
    | some c => s.watcherStep c statusKnown
    | none => none

/-- The state after a list of events, if each of them can happen. -/
def run (s : Supervision) : List Event → Option Supervision
  | [] => some s
  | e :: rest =>
    match s.step e with
    | some s => run s rest
    | none => none

end Supervision

end ProxyControl
