import Mathlib.Data.List.DropRight
import ProxyControl.Preference.Clients

/-!
# Witnessed sessions

A witness stands beside a session and notes which writes the session accepts and which commits
succeed.  It answers nothing and changes nothing, so what is done in a witnessed session is done
in the same way without the witness.  From the notes one reads off the writes that a commit has
settled and those that are still waiting for one.

Main results:

- Definition `SystemPreferences.witnessed`: a backend whose sessions are witnessed.
- Definitions `SessionEvent.settled` and `SessionEvent.unsettled`: the accepted writes up to the
  latest commit, and those since then.
- Relation `Session.Follows`: two sessions whose operations answer the same from related states.
- Theorems `Session.Follows.runSession` and `Session.Follows.transact`: so do whole runs and
  transactions.
-/

namespace ProxyControl

/-! ## Events of a session -/

/-- What a witness notes. -/
inductive SessionEvent where
  /-- A write was accepted. -/
  | accepted (path : String) (dict : ProxyDict)
  /-- A commit succeeded. -/
  | committed

namespace SessionEvent

/-- The event is a commit. -/
def isCommit : SessionEvent → Bool
  | committed => true
  | _ => false

/-- The write that an event accepts, with the components of its path. -/
def write? : SessionEvent → Option StagedWrite
  | accepted path dict => some (PrefPath.components path, dict)
  | committed => none

/-- The writes that were accepted, in order. -/
def admitted (events : List SessionEvent) : StagedWrites :=
  events.filterMap write?

/-- The accepted writes that a later commit has settled. -/
def settled (events : List SessionEvent) : StagedWrites :=
  admitted (events.rdropWhile fun e => !e.isCommit)

/-- The accepted writes that no later commit has settled. -/
def unsettled (events : List SessionEvent) : StagedWrites :=
  admitted (events.rtakeWhile fun e => !e.isCommit)

/-- The writes that are accepted in two parts are accepted in order. -/
@[simp]
theorem admitted_append (first rest : List SessionEvent) :
    admitted (first ++ rest) = admitted first ++ admitted rest :=
  List.filterMap_append

/-- Every accepted write is settled or not. -/
theorem settled_append_unsettled (events : List SessionEvent) :
    settled events ++ unsettled events = admitted events := by
  rw [settled, unsettled, ← admitted_append, List.rdropWhile_append_rtakeWhile]

variable (events : List SessionEvent) (path : String) (dict : ProxyDict)

/-- A new write is not settled yet. -/
@[simp]
theorem settled_accepted : settled (events ++ [.accepted path dict]) = settled events := by
  rw [settled, List.rdropWhile_concat_pos _ _ _ (by rfl), settled]

/-- A new write waits behind those that are waiting. -/
@[simp]
theorem unsettled_accepted :
    unsettled (events ++ [.accepted path dict]) =
      unsettled events ++ [(PrefPath.components path, dict)] := by
  rw [unsettled, List.rtakeWhile_concat_pos _ _ _ (by rfl), admitted_append, unsettled]
  rfl

/-- A commit settles every write that was accepted before. -/
@[simp]
theorem settled_committed : settled (events ++ [.committed]) = admitted events := by
  rw [settled, List.rdropWhile_concat_neg _ _ _ (by decide), admitted_append]
  exact List.append_nil _

/-- After a commit no write is waiting. -/
@[simp]
theorem unsettled_committed : unsettled (events ++ [.committed]) = [] := by
  rw [unsettled, List.rtakeWhile_concat_neg _ _ _ (by decide)]
  rfl

end SessionEvent

/-! ## Witnesses -/

namespace Witness

variable {σ ς β : Type}

/-- An event that is noted if a call succeeds. -/
def note (e : SessionEvent) : Except PreferencesError Unit → List SessionEvent
  | .ok () => [e]
  | .error _ => []

/-- A call of a session before a witness. -/
def call (x : ς × (σ × List SessionEvent)) (noted : β → List SessionEvent)
    (f : ς × σ → β × (ς × σ)) : β × (ς × (σ × List SessionEvent)) :=
  let (answer, (session, state)) := f (x.1, x.2.1)
  (answer, (session, (state, x.2.2 ++ noted answer)))

/-- A witnessed call has the answer of the session, and the witness notes what the answer tells. -/
theorem call_eq {x : ς × (σ × List SessionEvent)} {f : ς × σ → β × (ς × σ)} {answer : β}
    {session : ς} {state : σ} (h : f (x.1, x.2.1) = (answer, (session, state)))
    (noted : β → List SessionEvent) :
    call x noted f = (answer, (session, (state, x.2.2 ++ noted answer))) := by
  simp only [call, h]

/-- A call of the backend, which a witness of sessions does not note. -/
def pass (x : σ × List SessionEvent) (f : σ → β × σ) : β × (σ × List SessionEvent) :=
  let (answer, state) := f x.1
  (answer, (state, x.2))

end Witness

/-- A backend whose sessions are witnessed. -/
def SystemPreferences.witnessed {σ α ς : Type} (p : SystemPreferences σ α ς) :
    SystemPreferences (σ × List SessionEvent) α ς where
  authorize flags x := Witness.pass x (p.authorize flags)
  openSession name credential x := Witness.pass x (p.openSession name credential)
  session :=
    { value := fun key x => Witness.call x (fun _ => []) (p.session.value key)
      setPath := fun path dict x =>
        Witness.call x (Witness.note (.accepted path dict)) (p.session.setPath path dict)
      commit := fun x => Witness.call x (Witness.note .committed) p.session.commit
      apply := fun x => Witness.call x (fun _ => []) p.session.apply
      synchronize := fun x =>
        (Witness.call x (fun _ => []) fun y => ((), p.session.synchronize y)).2 }
  close session x := (p.close session x.1, x.2)
  release credential x := (p.release credential x.1, x.2)

namespace SystemPreferences

variable {σ α ς : Type} (p : SystemPreferences σ α ς) {state state' : σ}
  (events : List SessionEvent)

/-- A witness has nothing to note of an authorization. -/
theorem witnessed_authorize {flags : AuthorizationFlags} {answer : Except AuthorizationStatus α}
    (h : p.authorize flags state = (answer, state')) :
    p.witnessed.authorize flags (state, events) = (answer, (state', events)) := by
  simp only [witnessed, Witness.pass, h]

/-- A witness has nothing to note of the opening of a session. -/
theorem witnessed_openSession {name : String} {credential : α} {answer : Except PreferencesError ς}
    (h : p.openSession name credential state = (answer, state')) :
    p.witnessed.openSession name credential (state, events) = (answer, (state', events)) := by
  simp only [witnessed, Witness.pass, h]

end SystemPreferences

/-! ## Sessions that answer the same -/

/-- Two results are the same answer with related states. -/
def Agree {β τ τ' : Type} (R : τ → τ' → Prop) (a : β × τ) (a' : β × τ') : Prop :=
  a'.1 = a.1 ∧ R a.2 a'.2

/-- From related states the operations of both sessions give the same answers and related
states. -/
structure Session.Follows {τ τ' : Type} (s : Session τ) (s' : Session τ') (R : τ → τ' → Prop) :
    Prop where
  value : ∀ key x x', R x x' → Agree R (s.value key x) (s'.value key x')
  setPath : ∀ path dict x x', R x x' → Agree R (s.setPath path dict x) (s'.setPath path dict x')
  commit : ∀ x x', R x x' → Agree R (s.commit x) (s'.commit x')
  apply : ∀ x x', R x x' → Agree R (s.apply x) (s'.apply x')
  synchronize : ∀ x x', R x x' → R (s.synchronize x) (s'.synchronize x')

namespace Session.Follows

variable {τ τ' : Type} {s : Session τ} {s' : Session τ'} {R : τ → τ' → Prop}

/-- A write to a session that follows another is recorded in the same way. -/
theorem stage (h : s.Follows s' R) (t : Transaction) (service : NetworkService)
    (dict : ProxyDict) {x : τ} {x' : τ'} (hx : R x x') :
    (t.stage s' service dict x').1 = (t.stage s service dict x).1 ∧
      Agree R (t.stage s service dict x).2 (t.stage s' service dict x').2 := by
  obtain ⟨hanswer, hstate⟩ := h.setPath service.proxiesPath dict x x' hx
  simp only [Transaction.stage, Agree, hanswer]
  exact ⟨trivial, trivial, hstate⟩

/-- A session that follows another ends a transaction with the same result and the same notices. -/
theorem finish (h : s.Follows s' R) (t : Transaction) {x : τ} {x' : τ'} (hx : R x x') :
    (t.finish s' x').result = (t.finish s x).result ∧
      (t.finish s' x').notices = (t.finish s x).notices ∧
      R (t.finish s x).state (t.finish s' x').state := by
  have hcommit := h.commit x x' hx
  simp only [Transaction.finish]
  split
  · exact ⟨rfl, rfl, hx⟩
  generalize s.commit x = a, s'.commit x' = a' at hcommit ⊢
  obtain ⟨answer, y⟩ := a
  obtain ⟨answer', y'⟩ := a'
  obtain ⟨rfl, hy⟩ : answer' = answer ∧ R y y' := hcommit
  cases answer' with
  | error cause => exact ⟨rfl, rfl, hy⟩
  | ok _ =>
      dsimp only
      have happly := h.apply y y' hy
      generalize s.apply y = a, s'.apply y' = a' at happly ⊢
      obtain ⟨answer, z⟩ := a
      obtain ⟨answer', z'⟩ := a'
      obtain ⟨rfl, hz⟩ : answer' = answer ∧ R z z' := happly
      cases answer' with
      | error cause => exact ⟨rfl, rfl, hz⟩
      | ok _ => exact ⟨rfl, rfl, h.synchronize z z' hz⟩

/-! ### Runs -/

/-- A pass over the services goes the same way in a session that follows another. -/
theorem stageAll (h : s.Follows s' R) (wanted : ProxyDict) (services : List NetworkService)
    (t : Transaction) {x : τ} {x' : τ'} (hx : R x x') :
    Agree R (Synchronizer.stageAll s wanted services t x)
      (Synchronizer.stageAll s' wanted services t x') := by
  induction services generalizing t x x' with
  | nil => exact ⟨rfl, hx⟩
  | cons service rest ih =>
      simp only [Synchronizer.stageAll]
      split
      · exact ih _ hx
      · split
        · obtain ⟨_, ht, hstate⟩ := h.stage t service wanted hx
          rw [ht]
          exact ih _ hstate
        · exact ih _ hx

/-- The same services are found in a session that follows another. -/
theorem enumerate (h : s.Follows s' R) {x : τ} {x' : τ'} (hx : R x x') :
    (Synchronizer.enumerate s' x').1 = (Synchronizer.enumerate s x).1 ∧
      Agree R (Synchronizer.enumerate s x).2 (Synchronizer.enumerate s' x').2 := by
  have hvalue := h.value networkServicesKey x x' hx
  unfold Synchronizer.enumerate
  generalize s.value networkServicesKey x = a, s'.value networkServicesKey x' = a' at hvalue ⊢
  obtain ⟨snapshot, y⟩ := a
  obtain ⟨snapshot', y'⟩ := a'
  obtain ⟨rfl, hy⟩ : snapshot' = snapshot ∧ R y y' := hvalue
  dsimp only
  cases NetworkService.records snapshot' with
  | none => exact ⟨rfl, rfl, hy⟩
  | some services => exact ⟨rfl, rfl, hy⟩

/-- The part of a run inside a session is done in the same way. -/
theorem runSession (h : s.Follows s' R) (port : UInt16) {x : τ} {x' : τ'} (hx : R x x') :
    (Synchronizer.runSession s' port x').result = (Synchronizer.runSession s port x).result ∧
      (Synchronizer.runSession s' port x').notices = (Synchronizer.runSession s port x).notices ∧
      R (Synchronizer.runSession s port x).state (Synchronizer.runSession s' port x').state := by
  have henumerate := h.enumerate hx
  simp only [Synchronizer.runSession]
  generalize Synchronizer.enumerate s x = a, Synchronizer.enumerate s' x' = a' at henumerate ⊢
  obtain ⟨services, warnings, y⟩ := a
  obtain ⟨services', warnings', y'⟩ := a'
  obtain ⟨rfl, rfl, hy⟩ : services' = services ∧ warnings' = warnings ∧ R y y' := henumerate
  obtain ⟨ht, hstate⟩ := h.stageAll (ProxyDict.desired port) services'
    { notices := [SyncNotice.transition .authorizing .sessionOpen,
      .transition .sessionOpen .enumerating] ++ warnings' ++
      [.found services'.length, .transition .enumerating .diffing] } hy
  rw [ht]
  obtain ⟨hresult, hnotices, hfinished⟩ := h.finish _ hstate
  exact ⟨congrArg _ hresult, hnotices, hfinished⟩

/-! ### Transactions -/

/-- A list of writes goes the same way in a session that follows another. -/
theorem runActions (h : s.Follows s' R) (actions : List Clients.ServiceAction) (t : Transaction)
    {x : τ} {x' : τ'} (hx : R x x') :
    (Clients.runActions s' actions t x').1 = (Clients.runActions s actions t x).1 ∧
      Agree R (Clients.runActions s actions t x).2 (Clients.runActions s' actions t x').2 := by
  induction actions generalizing t x x' with
  | nil => exact ⟨rfl, rfl, hx⟩
  | cons action rest ih =>
      simp only [Clients.runActions]
      cases action.dict with
      | none =>
          obtain ⟨hstates, hrest⟩ := ih (t.unchanged action.service) hx
          exact ⟨congrArg _ hstates, hrest⟩
      | some dict =>
          obtain ⟨hwritten, ht, hstate⟩ := h.stage t action.service dict hx
          obtain ⟨hstates, hrest⟩ := ih (t.stage s action.service dict x).2.1 hstate
          simp only [hwritten, ht, hstates]
          exact ⟨trivial, hrest⟩

/-- A transaction is done in the same way. -/
theorem transact (h : s.Follows s' R) (actions : List Clients.ServiceAction) (abandon : Bool)
    {x : τ} {x' : τ'} (hx : R x x') :
    (Clients.transact s' actions abandon x').1 = (Clients.transact s actions abandon x).1 ∧
      Agree R (Clients.transact s actions abandon x).2
        (Clients.transact s' actions abandon x').2 := by
  have hactions := h.runActions actions {} hx
  unfold Clients.transact
  generalize Clients.runActions s actions {} x = a, Clients.runActions s' actions {} x' = a'
    at hactions ⊢
  obtain ⟨states, t, y⟩ := a
  obtain ⟨states', t', y'⟩ := a'
  obtain ⟨rfl, rfl, hy⟩ : states' = states ∧ t' = t ∧ R y y' := hactions
  obtain ⟨hresult, hnotices, hstate⟩ := h.finish t' hy
  dsimp only
  split
  · exact ⟨rfl, rfl, hy⟩
  · rw [hresult, hnotices]
    split
    · exact ⟨rfl, rfl, hstate⟩
    · exact ⟨rfl, rfl, hstate⟩

end Session.Follows
end ProxyControl
