/-!
# Engine programs

What an engine does once it has been started, as far as its supervisor can tell: how it
answers a request to terminate, and when it ends by itself.

Main results:

- Type `Program`: the behaviour of an engine.
- Definition `Program.onGraceful`: how a request to terminate ends it.
- Definition `ExitStatus.number`: the status as one number.
-/

namespace ProxyControl

/-- How a process ended. -/
inductive ExitStatus where
  /-- It returned a code. -/
  | code (n : Nat)
  /-- A signal ended it. -/
  | signal (n : Nat)
  deriving DecidableEq, Repr

namespace ExitStatus

/-- The status as one number: the code, or 128 more than the signal. -/
def number : ExitStatus → Nat
  | code n => n
  | signal n => 128 + n

end ExitStatus

/-- When an engine ends by itself. -/
inductive OwnEnd where
  /-- After a long time. -/
  | eventually (status : ExitStatus)
  /-- Once it is let go. -/
  | whenLetGo (status : ExitStatus)
  /-- At once. -/
  | atOnce (status : ExitStatus)
  deriving DecidableEq, Repr

/-- What an engine does with a request to terminate. -/
inductive GracefulAnswer where
  /-- The signal ends it. -/
  | ends
  /-- It goes on. -/
  | ignores
  /-- It returns a code. -/
  | returns (code : Nat)
  deriving DecidableEq, Repr

/-- The behaviour of an engine. -/
structure Program where
  ownEnd : OwnEnd := .eventually (.code 0)
  graceful : GracefulAnswer := .ends
  deriving DecidableEq, Repr

namespace Program

/-- The status after a request to terminate that nothing was done about. -/
def terminated : ExitStatus := .signal 15

/-- The status after a kill. -/
def killed : ExitStatus := .signal 9

/-- How a request to terminate ends an engine, if it does. -/
def onGraceful (p : Program) : Option ExitStatus :=
  match p.graceful with
  | .ends => some terminated
  | .ignores => none
  | .returns code => some (.code code)

/-- How an engine ends at once, if it does. -/
def endAtOnce (p : Program) : Option ExitStatus :=
  match p.ownEnd with
  | .atOnce status => some status
  | _ => none

/-- How an engine ends when nothing else happens to it, if it does. -/
def lastingEnd (p : Program) : Option ExitStatus :=
  match p.ownEnd with
  | .eventually status => some status
  | .atOnce status => some status
  | .whenLetGo _ => none

/-- How an engine ends that is let go. -/
def endWhenLetGo (p : Program) : ExitStatus :=
  match p.ownEnd with
  | .eventually status => status
  | .atOnce status => status
  | .whenLetGo status => status

end Program
end ProxyControl
