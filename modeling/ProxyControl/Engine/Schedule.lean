import ProxyControl.Engine.Supervisor

/-!
# Scheduled supervision

Supervision leaves open what the processes do and in which order things happen.  A
schedule settles both: every process behaves as its program says, the system refuses
what it is told to refuse, and of the things that can happen the nearest one does: a
process that has to end ends and its watcher goes on to its own end before the caller
takes its next step, and the caller waits in vain only when nothing else can happen.

Main results:

- Definition `Schedule.next?`: the event that happens next.
- Definition `Schedule.perform`: a call up to its outcome.
- Definition `Schedule.letGo`: the engine ends by itself.
-/

namespace ProxyControl

/-- What the system refuses. -/
structure Refusals where
  /-- Requests to terminate. -/
  graceful : Bool := false
  /-- Kills. -/
  forced : Bool := false
  /-- Threads. -/
  threads : Bool := false
  deriving DecidableEq, Repr

/-- A supervision with the programs of its processes. -/
structure Schedule where
  system : Supervision
  /-- The programs of the processes, the oldest first. -/
  programs : List Program := []
  /-- The engines that were started with success, the oldest first. -/
  started : List Pid := []
  /-- Waits lose the status. -/
  losesStatus : Bool := false
  deriving Repr

namespace Schedule

/-- The program of a process. -/
def program (s : Schedule) (pid : Pid) : Program :=
  (s.programs[pid]?).getD {}

/-- Whether a process was sent a signal. -/
def wasSent (s : Schedule) (pid : Pid) (how : Termination) : Bool :=
  s.system.signals.any fun signal => signal.pid = pid ∧ signal.how = how

/-- How a running process ends now, if it does. -/
def dueEnd? (s : Schedule) (c : Child) : Option ExitStatus :=
  if c.state ≠ .running then none
  else if s.wasSent c.pid .forced then some Program.killed
  else if s.wasSent c.pid .graceful then
    ((s.program c.pid).onGraceful).or (s.program c.pid).endAtOnce
  else (s.program c.pid).endAtOnce

/-- Whether a watcher can go on. -/
def watcherReady (c : Child) : Bool :=
  match c.watcher.map Watcher.stage with
  | none => false
  | some .expecting => false
  | some .waiting =>
    match c.state with
    | .exited _ => true
    | _ => false
  | some .ended => false
  | some _ => true

/-- The next event of the processes and the watchers. -/
def backgroundEvent? (s : Schedule) : Option Supervision.Event :=
  s.system.children.findSome? fun c =>
    if watcherReady c then some (.watcher c.pid (!s.losesStatus))
    else (s.dueEnd? c).map fun status => .exits c.pid status

/-- The end of a process that the caller waits for in vain. -/
def lastingEvent? (s : Schedule) (pid : Pid) : Option Supervision.Event :=
  match (s.system.child? pid).map Child.state with
  | some .running => (s.program pid).lastingEnd.map fun status => .exits pid status
  | _ => none

/-- The refusal of a signal, or that it is sent. -/
def signalResult (refused : Bool) : Except String Unit :=
  if refused then .error SystemError.notPermitted.description else .ok ()

/-- The next event of the caller. -/
def callerEvent? (s : Schedule) (refusals : Refusals) (launch : Except SystemError Program) :
    Option Supervision.Event :=
  match s.system.caller with
  | .idle => none
  | .gone => none
  | .checking _ _ => some .readFlag
  | .terminating _ _ => some (.signalled (signalResult refusals.graceful))
  | .killing _ _ => some (.signalled (signalResult refusals.forced))
  | .discarding _ _ => some (.signalled (signalResult refusals.forced))
  | .receiving pid _ =>
    if (s.system.watcher? pid).any Watcher.canReceive then some .received
    else if s.system.options.hasTimeout then some .timedOut
    else s.lastingEvent? pid
  | .receivingKilled pid _ =>
    if (s.system.watcher? pid).any Watcher.canReceive then some .received
    else s.lastingEvent? pid
  | .joining _ _ => some .joined
  | .launching => some (.spawned (launch.map fun _ => ()))
  | .hiringWatcher _ =>
    some (.threadStarted (if refusals.threads then .error .tryAgain else .ok ()))
  | .handingOver _ => some .handedOver
  | .reaping pid _ =>
    match (s.system.child? pid).map Child.state with
    | some (.exited _) => some .waited
    | _ => s.lastingEvent? pid
  | .dismissing _ _ => some .joined

/-- The event that happens next. -/
def next? (s : Schedule) (refusals : Refusals) (launch : Except SystemError Program) :
    Option Supervision.Event :=
  s.backgroundEvent?.or (s.callerEvent? refusals launch)

/-- The programs after an event: a new process runs the launched one. -/
def programsAfter (s : Schedule) (launch : Except SystemError Program) :
    Supervision.Event → List Program
  | .spawned (.ok ()) =>
    match launch with
    | .ok program => s.programs ++ [program]
    | .error _ => s.programs
  | _ => s.programs

/-- The next events up to a number of them, as long as there are any. -/
def proceed (refusals : Refusals) (launch : Except SystemError Program) : Nat → Schedule → Schedule
  | 0, s => s
  | bound + 1, s =>
    match s.next? refusals launch with
    | none => s
    | some e =>
      match s.system.step e with
      | none => s
      | some system =>
        proceed refusals launch bound
          { s with system := system, programs := s.programsAfter launch e }

/-- A number of events that no call exceeds: a stop takes at most ten steps of the
caller, a launch six, and each process with its watcher seven. -/
def callBound : Nat := 64

/-- A call up to its outcome, and what happens right after it. -/
def perform (s : Schedule) (call : Call) (refusals : Refusals)
    (launch : Except SystemError Program) : CallAnswer × Schedule :=
  match s.system.step (.call call) with
  | none => (s.system.answer, s)
  | some system =>
    let s := proceed refusals launch callBound { s with system := system }
    match s.system.answer, call with
    | .started pid, .start => (s.system.answer, { s with started := s.started ++ [pid] })
    | .started pid, .restart => (s.system.answer, { s with started := s.started ++ [pid] })
    | answer, _ => (answer, s)

/-- The engine that is held ends by itself, if it still runs. -/
def letGo (s : Schedule) : Schedule :=
  match s.system.handle with
  | none => s
  | some pid =>
    match s.system.step (.exits pid (s.program pid).endWhenLetGo) with
    | none => s
    | some system => proceed {} (.error .noEntry) callBound { s with system := system }

/-! ## What is shown -/

/-- The number of an engine among those that were started with success. -/
def engineNumber (s : Schedule) (pid : Pid) : Nat :=
  s.started.idxOf pid

/-- The engines whose processes still run. -/
def alive (s : Schedule) : List Nat :=
  (s.started.filter fun pid => (s.system.child? pid).any fun c => c.state = .running).map
    s.engineNumber

end Schedule
end ProxyControl
