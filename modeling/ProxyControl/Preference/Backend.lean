import ProxyControl.Preference.Session

/-!
# Simple backends

Backends without a state of their own: the one of a platform without network
preferences, and one that answers from a fixed plan.  Any backend can be recorded, so
that the calls made to it can be looked at.

Main results:

- Definition `SystemPreferences.unsupported`: every session is refused.
- Definition `SystemPreferences.planned`: the answers of a plan.
- Definition `SystemPreferences.recorded`: a backend together with the list of its calls.
-/

namespace ProxyControl

/-! ## Unsupported platforms -/

/-- The refusal of a platform without network preferences. -/
def unsupportedMessage : String :=
  "system network preferences are not supported on this platform"

/-- The backend of a platform without network preferences: a credential is granted and
no session can be opened. -/
def SystemPreferences.unsupported : SystemPreferences Unit Unit Empty where
  authorize _ st := (.ok (), st)
  openSession _ _ st := (.error ⟨unsupportedMessage⟩, st)
  session :=
    { value := fun _ x => (none, x)
      setPath := fun _ _ x => (.ok (), x)
      commit := fun x => (.ok (), x)
      apply := fun x => (.ok (), x)
      synchronize := id }
  close _ st := st
  release _ st := st

/-! ## Planned answers -/

/-- The answers of a backend: a snapshot of the services, and the failing steps. -/
structure BackendPlan where
  snapshot : Option PrefValue := none
  denial : Option AuthorizationStatus := none
  openFailure : Option String := none
  /-- The paths whose writes fail, with the failures. -/
  setFailures : List (String × String) := []
  commitFailure : Option String := none
  applyFailure : Option String := none

/-- The answer of a step that fails with a message, or succeeds if there is none. -/
def BackendPlan.answer (failure : Option String) : Except PreferencesError Unit :=
  match failure with
  | some message => .error ⟨message⟩
  | none => .ok ()

/-- The backend that answers from a plan.  Writes do not change the snapshot. -/
def SystemPreferences.planned (plan : BackendPlan) : SystemPreferences Unit Unit Unit where
  authorize _ st :=
    match plan.denial with
    | some status => (.error status, st)
    | none => (.ok (), st)
  openSession _ _ st := (BackendPlan.answer plan.openFailure, st)
  session :=
    { value := fun key x => (if key = "NetworkServices" then plan.snapshot else none, x)
      setPath := fun path _ x => (BackendPlan.answer (plan.setFailures.lookup path), x)
      commit := fun x => (BackendPlan.answer plan.commitFailure, x)
      apply := fun x => (BackendPlan.answer plan.applyFailure, x)
      synchronize := id }
  close _ st := st
  release _ st := st

/-! ## Recorded calls -/

/-- A call of a backend. -/
inductive BackendCall where
  | authorize (flags : AuthorizationFlags)
  | openSession (name : String)
  | value (key : String)
  | setPath (path : String) (dict : ProxyDict)
  | commit
  | apply
  | synchronize
  | close
  | release
  deriving Repr

/-- The state of a backend together with the calls made so far. -/
structure Recorded (σ : Type) where
  state : σ
  calls : List BackendCall := []

namespace Recorded

variable {σ ς β : Type}

/-- A call that changes the state. -/
def call (r : Recorded σ) (c : BackendCall) (f : σ → β × σ) : β × Recorded σ :=
  let (answer, state) := f r.state
  (answer, ⟨state, r.calls ++ [c]⟩)

/-- A call of a session. -/
def sessionCall (x : ς × Recorded σ) (c : BackendCall) (f : ς × σ → β × (ς × σ)) :
    β × (ς × Recorded σ) :=
  let (answer, (session, state)) := f (x.1, x.2.state)
  (answer, (session, ⟨state, x.2.calls ++ [c]⟩))

end Recorded

/-- A backend that keeps the list of its calls. -/
def SystemPreferences.recorded {σ α ς : Type} (p : SystemPreferences σ α ς) :
    SystemPreferences (Recorded σ) α ς where
  authorize flags r := r.call (.authorize flags) (p.authorize flags)
  openSession name credential r := r.call (.openSession name) (p.openSession name credential)
  session :=
    { value := fun key x => Recorded.sessionCall x (.value key) (p.session.value key)
      setPath := fun path dict x =>
        Recorded.sessionCall x (.setPath path dict) (p.session.setPath path dict)
      commit := fun x => Recorded.sessionCall x .commit p.session.commit
      apply := fun x => Recorded.sessionCall x .apply p.session.apply
      synchronize := fun x =>
        (Recorded.sessionCall x .synchronize fun y => ((), p.session.synchronize y)).2 }
  close session r := (r.call .close fun st => ((), p.close session st)).2
  release credential r := (r.call .release fun st => ((), p.release credential st)).2

end ProxyControl
