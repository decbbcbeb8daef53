import ProxyControl.Preference.Notice

/-!
# Transactions on a session

A transaction stages the dictionaries of several services in one session and commits
them together.  A rejected write is recorded and the others go on.  Nothing is taken
back when the commit fails or the changes cannot be made active.

Main results:

- Definitions `Transaction.unchanged`, `Transaction.stage`: one service.
- Definition `Transaction.finish`: commit, apply and synchronize, in that order, if any
  write was attempted.
-/

namespace ProxyControl

/-- What happened to one service. -/
structure ServiceOutcome where
  serviceId : String
  /-- The service's dictionary was staged. -/
  written : Bool
  /-- Why it could not be staged. -/
  error : Option ServiceWriteError
  deriving DecidableEq, Repr

/-- What a transaction has done so far. -/
structure Transaction where
  outcomes : List ServiceOutcome := []
  /-- A write was attempted. -/
  dirty : Bool := false
  notices : List SyncNotice := []
  deriving Repr

namespace Transaction

variable {τ : Type}

/-- Reports a step. -/
def note (t : Transaction) (notice : SyncNotice) : Transaction :=
  { t with notices := t.notices ++ [notice] }

/-- Records a service that needs no write. -/
def unchanged (t : Transaction) (service : NetworkService) : Transaction :=
  { t with outcomes := t.outcomes ++ [⟨service.id, false, none⟩] }

/-- What is recorded and reported for the session's answer to a write. -/
def recordStage (t : Transaction) (service : NetworkService) :
    Except PreferencesError Unit → Transaction
  | .ok () =>
    { outcomes := t.outcomes ++ [⟨service.id, true, none⟩]
      dirty := true
      notices := t.notices ++ [.staged service.id service.hardware] }
  | .error cause =>
    let error : ServiceWriteError := ⟨service.id, cause⟩
    { outcomes := t.outcomes ++ [⟨service.id, false, some error⟩]
      dirty := true
      notices := t.notices ++ [.rejected error] }

/-- Stages the dictionary of a service and says whether the session took it.  The
transaction is dirty from then on, also if the session rejects the write. -/
def stage (s : Session τ) (t : Transaction) (service : NetworkService) (dict : ProxyDict)
    (x : τ) : Bool × Transaction × τ :=
  let (answer, x) := s.setPath service.proxiesPath dict x
  (answer.isOk, t.recordStage service answer, x)

/-- How a transaction ended. -/
structure Finished (τ : Type) where
  /-- The outcomes and whether there was a commit. -/
  result : Except SyncError (List ServiceOutcome × Bool)
  notices : List SyncNotice
  state : τ

/-- Commits, makes active and synchronizes, each only after the step before succeeded;
does nothing if no write was attempted. -/
def finish (s : Session τ) (t : Transaction) (x : τ) : Finished τ :=
  if !t.dirty then ⟨.ok (t.outcomes, false), t.notices, x⟩
  else
    match s.commit x with
    | (.error cause, x) => ⟨.error (.commit cause), t.notices ++ [.commitFailed cause], x⟩
    | (.ok (), x) =>
      match s.apply x with
      | (.error cause, x) => ⟨.error (.apply cause), t.notices ++ [.applyFailed cause], x⟩
      | (.ok (), x) => ⟨.ok (t.outcomes, true), t.notices ++ [.applied], s.synchronize x⟩

end Transaction
end ProxyControl
