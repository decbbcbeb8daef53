import ProxyControl.Proofs.Preference.ServicePass
import ProxyControl.Proofs.Preference.Witness

/-!
# The minutes of a transaction

A transaction keeps an outcome for each of its actions and a flag that says whether it has to
commit.  Whether these are right is a question about the calls that it made and the answers that
it got, so the session is given a log of both.  The log answers nothing and changes nothing.

Main results:

- Definition `Session.logged`: a session with a log of its calls and their answers.
- Relation `Clients.ServiceAction.Entry`: what one action calls, says and leaves as its outcome.
- Theorem `Clients.entry_of_action`: every action leaves such an entry.
- Relation `Clients.Minutes`: the same for a list of actions, with the flag after each.
- Theorem `Clients.minutes_runActions`: every list of actions has such minutes.
- Relation `Transaction.Ending`: the calls that end a transaction and its result.
- Theorem `Clients.transaction_minuted`: the minutes and the ending of every transaction.
-/

namespace ProxyControl

/-! ## Logged sessions -/

/-- A call of a session with its answer. -/
inductive Exchange where
  | value (key : String) (answer : Option PrefValue)
  | setPath (path : String) (dict : ProxyDict) (answer : Except PreferencesError Unit)
  | commit (answer : Except PreferencesError Unit)
  | apply (answer : Except PreferencesError Unit)
  | synchronize

namespace Session

variable {τ β : Type}

/-- A call that is logged with its answer. -/
def logCall (x : τ × List Exchange) (exchange : β → Exchange) (f : τ → β × τ) :
    β × (τ × List Exchange) :=
  let (answer, y) := f x.1
  (answer, (y, x.2 ++ [exchange answer]))

/-- A session with a log of its calls. -/
def logged (s : Session τ) : Session (τ × List Exchange) where
  value key x := logCall x (.value key) (s.value key)
  setPath path dict x := logCall x (.setPath path dict) (s.setPath path dict)
  commit x := logCall x .commit s.commit
  apply x := logCall x .apply s.apply
  synchronize x := (logCall x (fun _ => .synchronize) fun y => ((), s.synchronize y)).2

section

variable (s : Session τ) (x : τ) (log : List Exchange)

@[simp]
theorem logged_setPath (path : String) (dict : ProxyDict) :
    s.logged.setPath path dict (x, log) =
      ((s.setPath path dict x).1, ((s.setPath path dict x).2,
        log ++ [.setPath path dict (s.setPath path dict x).1])) :=
  rfl

@[simp]
theorem logged_commit :
    s.logged.commit (x, log) =
      ((s.commit x).1, ((s.commit x).2, log ++ [.commit (s.commit x).1])) :=
  rfl

@[simp]
theorem logged_apply :
    s.logged.apply (x, log) =
      ((s.apply x).1, ((s.apply x).2, log ++ [.apply (s.apply x).1])) :=
  rfl

@[simp]
theorem logged_synchronize :
    s.logged.synchronize (x, log) = (s.synchronize x, log ++ [.synchronize]) :=
  rfl

end

/-- The log makes no difference to what a session answers. -/
theorem follows_logged (s : Session τ) : s.Follows s.logged fun x x' => x'.1 = x where
  value := by
    rintro key _ x' rfl
    exact ⟨rfl, rfl⟩
  setPath := by
    rintro path dict _ x' rfl
    exact ⟨rfl, rfl⟩
  commit := by
    rintro _ x' rfl
    exact ⟨rfl, rfl⟩
  apply := by
    rintro _ x' rfl
    exact ⟨rfl, rfl⟩
  synchronize := by
    rintro _ x' rfl
    rfl

end Session

namespace Clients

/-! ## One action -/

namespace ServiceAction

/-- The action stages a dictionary. -/
def isStage (action : ServiceAction) : Bool :=
  action.dict.isSome

/-- What is on record of an action: what was called and answered, what was said of it, and its
outcome. -/
inductive Entry : ServiceAction → List Exchange → Option Bool → ServiceOutcome → Prop
  /-- Nothing is called for an unchanged service. -/
  | unchanged (service : NetworkService) :
      Entry ⟨service, none⟩ [] none ⟨service.id, false, none⟩
  /-- A stage is one write at the path of the service. -/
  | staged (service : NetworkService) (dict : ProxyDict) :
      Entry ⟨service, some dict⟩ [.setPath service.proxiesPath dict (.ok ())] (some true)
        ⟨service.id, true, none⟩
  /-- If the write is rejected the error is kept. -/
  | rejected (service : NetworkService) (dict : ProxyDict) (cause : PreferencesError) :
      Entry ⟨service, some dict⟩ [.setPath service.proxiesPath dict (.error cause)] (some false)
        ⟨service.id, false, some ⟨service.id, cause⟩⟩

variable {action : ServiceAction} {part : List Exchange} {said : Option Bool}
  {outcome : ServiceOutcome}

/-- The outcome is that of the service. -/
theorem Entry.serviceId_eq (h : action.Entry part said outcome) :
    outcome.serviceId = action.service.id := by
  cases h <;> rfl

end ServiceAction

/-- An action leaves an entry: its calls join the log, its outcome joins the others, and what is
said of it stands in front of what is said of the rest. -/
theorem entry_of_action {τ : Type} (s : Session τ) (action : ServiceAction) (t : Transaction)
    (x : τ) (log : List Exchange) :
    ∃ part said outcome t' y, action.Entry part said outcome ∧
      t'.outcomes = t.outcomes ++ [outcome] ∧ t'.dirty = (t.dirty || action.isStage) ∧
      ∀ rest, runActions s.logged (action :: rest) t (x, log) =
        let others := runActions s.logged rest t' (y, log ++ part)
        ((said, t'.dirty) :: others.1, others.2) := by
  obtain ⟨service, dict⟩ := action
  cases dict with
  | none =>
      refine ⟨[], none, _, t.unchanged service, x, .unchanged service, rfl,
        (Bool.or_false _).symm, ?_⟩
      intro rest
      rw [List.append_nil]
      rfl
  | some dict =>
      rcases hset : s.setPath service.proxiesPath dict x with ⟨answer, y⟩
      have hrest : ∀ rest, runActions s.logged (⟨service, some dict⟩ :: rest) t (x, log) =
          let others := runActions s.logged rest (t.recordStage service answer)
            (y, log ++ [.setPath service.proxiesPath dict answer])
          ((some answer.isOk, (t.recordStage service answer).dirty) :: others.1, others.2) := by
        intro rest
        simp only [runActions, Transaction.stage, Session.logged_setPath, hset]
      cases answer with
      | ok _ =>
          exact ⟨_, _, _, _, y, .staged service dict, rfl, (Bool.or_true _).symm, hrest⟩
      | error cause =>
          exact ⟨_, _, _, _, y, .rejected service dict cause, rfl, (Bool.or_true _).symm, hrest⟩

/-! ## Lists of actions -/

/-- The entries of a list of actions that begins with a flag, and the flag after each action. -/
inductive Minutes : Bool → List ServiceAction → List (List Exchange) → List ActionState →
    List ServiceOutcome → Prop
  | nil (dirty : Bool) : Minutes dirty [] [] [] []
  | cons {dirty after : Bool} {action : ServiceAction} {part : List Exchange}
      {said : Option Bool} {outcome : ServiceOutcome} {rest : List ServiceAction}
      {parts : List (List Exchange)} {states : List ActionState} {outcomes : List ServiceOutcome}
      (first : action.Entry part said outcome) (flag : after = (dirty || action.isStage))
      (others : Minutes after rest parts states outcomes) :
      Minutes dirty (action :: rest) (part :: parts) ((said, after) :: states)
        (outcome :: outcomes)

namespace Minutes

variable {dirty : Bool} {actions : List ServiceAction} {parts : List (List Exchange)}
  {states : List ActionState} {outcomes : List ServiceOutcome}

theorem length_eq (h : Minutes dirty actions parts states outcomes) :
    parts.length = actions.length ∧ states.length = actions.length ∧
      outcomes.length = actions.length := by
  induction h with
  | nil => exact ⟨rfl, rfl, rfl⟩
  | cons first flag others ih => simpa using ih

/-- There is one outcome for each action, of the service of that action. -/
theorem map_serviceId (h : Minutes dirty actions parts states outcomes) :
    outcomes.map ServiceOutcome.serviceId = actions.map (·.service.id) := by
  induction h with
  | nil => rfl
  | cons first flag others ih => rw [List.map_cons, List.map_cons, first.serviceId_eq, ih]

/-- The entry of each action; the flag is set from the first stage on. -/
theorem entry_getElem? (h : Minutes dirty actions parts states outcomes) {i : Nat}
    {action : ServiceAction} (hi : actions[i]? = some action) :
    ∃ part said outcome, parts[i]? = some part ∧
      states[i]? = some (said, dirty || (actions.take (i + 1)).any ServiceAction.isStage) ∧
      outcomes[i]? = some outcome ∧ action.Entry part said outcome := by
  induction h generalizing i with
  | nil => cases hi
  | @cons dirty after head part said outcome rest parts states outcomes first flag others ih =>
      cases i with
      | zero =>
          obtain rfl : head = action := Option.some.inj hi
          exact ⟨part, said, outcome, rfl, by simp [flag], rfl, first⟩
      | succ i =>
          obtain ⟨part, said, outcome, hpart, hstate, houtcome, hentry⟩ := ih hi
          refine ⟨part, said, outcome, hpart, ?_, houtcome, hentry⟩
          rw [List.getElem?_cons_succ, hstate, flag, List.take_succ_cons, List.any_cons,
            Bool.or_assoc]

end Minutes

/-- The actions of a transaction add their outcomes and their calls, and minutes of them are what
is kept. -/
theorem minutes_runActions {τ : Type} (s : Session τ) (actions : List ServiceAction)
    (t : Transaction) (x : τ) (log : List Exchange) :
    let acted := runActions s.logged actions t (x, log)
    ∃ parts outcomes, Minutes t.dirty actions parts acted.1 outcomes ∧
      acted.2.1.outcomes = t.outcomes ++ outcomes ∧
      acted.2.1.dirty = (t.dirty || actions.any ServiceAction.isStage) ∧
      acted.2.2.2 = log ++ parts.flatten := by
  induction actions generalizing t x log with
  | nil => exact ⟨[], [], .nil t.dirty, by simp [runActions]⟩
  | cons action rest ih =>
      obtain ⟨part, said, outcome, t', y, hentry, houtcome, hflag, hrest⟩ :=
        entry_of_action s action t x log
      obtain ⟨parts, outcomes, hminutes, houtcomes, hdirty, hlog⟩ := ih t' y (log ++ part)
      rw [hrest]
      refine ⟨part :: parts, outcome :: outcomes, .cons hentry hflag hminutes, ?_, ?_, ?_⟩
      · dsimp only
        rw [houtcomes, houtcome, List.append_assoc, List.singleton_append]
      · dsimp only
        rw [hdirty, hflag, List.any_cons, Bool.or_assoc]
      · dsimp only
        rw [hlog, List.flatten_cons, List.append_assoc]

end Clients

/-! ## The end of a transaction -/

namespace Transaction

/-- The calls that end a transaction and its result, by whether a write was attempted. -/
inductive Ending (outcomes : List ServiceOutcome) :
    Bool → List Exchange → Except SyncError (List ServiceOutcome × Bool) → Prop
  | untouched : Ending outcomes false [] (.ok (outcomes, false))
  | commitFailed (cause : PreferencesError) :
      Ending outcomes true [.commit (.error cause)] (.error (.commit cause))
  | applyFailed (cause : PreferencesError) :
      Ending outcomes true [.commit (.ok ()), .apply (.error cause)] (.error (.apply cause))
  | applied : Ending outcomes true [.commit (.ok ()), .apply (.ok ()), .synchronize]
      (.ok (outcomes, true))

/-- Every transaction ends so. -/
theorem ending_finish {τ : Type} (s : Session τ) (t : Transaction) (x : τ) (log : List Exchange) :
    ∃ calls, (t.finish s.logged (x, log)).state.2 = log ++ calls ∧
      Ending t.outcomes t.dirty calls (t.finish s.logged (x, log)).result := by
  cases hdirty : t.dirty with
  | false =>
      refine ⟨[], ?_⟩
      simp only [finish, hdirty, Bool.not_false, if_true, List.append_nil]
      exact ⟨trivial, .untouched⟩
  | true =>
      simp only [finish, hdirty, Bool.not_true, Bool.false_eq_true, if_false,
        Session.logged_commit]
      rcases hcommit : s.commit x with ⟨cause | _, y⟩
      · exact ⟨[.commit (.error cause)], rfl, .commitFailed cause⟩
      · simp only [Session.logged_apply]
        rcases happly : s.apply y with ⟨cause | _, z⟩
        · exact ⟨[.commit (.ok ()), .apply (.error cause)], by simp, .applyFailed cause⟩
        · refine ⟨[.commit (.ok ()), .apply (.ok ()), .synchronize], ?_, .applied⟩
          simp

namespace Ending

variable {outcomes : List ServiceOutcome} {staged : Bool} {calls : List Exchange}
  {result : Except SyncError (List ServiceOutcome × Bool)}

theorem calls_eq_nil_iff (h : Ending outcomes staged calls result) :
    calls = [] ↔ staged = false := by
  cases h <;> simp

theorem result_eq_untouched_iff (h : Ending outcomes staged calls result) :
    result = .ok (outcomes, false) ↔ staged = false := by
  cases h <;> simp

theorem result_eq_applied_iff (h : Ending outcomes staged calls result) :
    result = .ok (outcomes, true) ↔
      Exchange.commit (.ok ()) ∈ calls ∧ Exchange.apply (.ok ()) ∈ calls := by
  cases h <;> simp

/-- An error is that of the last call, and its text ends with the text of that one. -/
theorem cause_of_error {error : SyncError} (h : Ending outcomes staged calls (.error error)) :
    ∃ cause text, error.cause? = some cause ∧ error.message = text ++ cause.message ∧
      (calls.getLast? = some (.commit (.error cause)) ∨
        calls.getLast? = some (.apply (.error cause))) := by
  cases h with
  | commitFailed cause => exact ⟨cause, _, rfl, rfl, .inl rfl⟩
  | applyFailed cause => exact ⟨cause, _, rfl, rfl, .inr rfl⟩

end Ending

end Transaction

/-! ## Whole transactions -/

/-- The bookkeeping of every transaction, for every session and every list of actions.

A log of the calls changes nothing.  Each action has its entry in order, and the transaction is
dirty from the first stage on.  The transaction ends without a call if nothing was staged; otherwise
commit, apply and synchronize are called, each after the one before succeeded, and the result is
that of the last call that matters, with the message of the session. -/
theorem Clients.transaction_minuted {τ : Type} (s : Session τ) (actions : List ServiceAction)
    (x : τ) :
    let acted := runActions s actions {} x
    let logged := runActions s.logged actions {} (x, [])
    let t := acted.2.1
    let ended := t.finish s acted.2.2
    let loggedEnd := t.finish s.logged logged.2.2
    let staged := actions.any ServiceAction.isStage
    (logged.1 = acted.1 ∧ logged.2.1 = t ∧ logged.2.2.1 = acted.2.2 ∧
        loggedEnd.result = ended.result ∧ loggedEnd.state.1 = ended.state) ∧
      (∃ parts : List (List Exchange), logged.2.2.2 = parts.flatten ∧
        parts.length = actions.length ∧ acted.1.length = actions.length ∧
        t.outcomes.map ServiceOutcome.serviceId = actions.map (·.service.id) ∧
        ∀ (i : Nat) action, actions[i]? = some action →
          ∃ part said outcome, parts[i]? = some part ∧
            acted.1[i]? = some (said, (actions.take (i + 1)).any ServiceAction.isStage) ∧
            t.outcomes[i]? = some outcome ∧ action.Entry part said outcome) ∧
      t.dirty = staged ∧
      ∃ calls, loggedEnd.state.2 = logged.2.2.2 ++ calls ∧
        Transaction.Ending t.outcomes staged calls ended.result ∧
        (calls = [] ↔ staged = false) ∧
        (ended.result = .ok (t.outcomes, false) ↔ staged = false) ∧
        (ended.result = .ok (t.outcomes, true) ↔
          Exchange.commit (.ok ()) ∈ calls ∧ Exchange.apply (.ok ()) ∈ calls) ∧
        ∀ error, ended.result = .error error →
          ∃ cause text, error.cause? = some cause ∧ error.message = text ++ cause.message ∧
            (calls.getLast? = some (.commit (.error cause)) ∨
              calls.getLast? = some (.apply (.error cause))) := by
  intro acted logged t ended loggedEnd staged
  have hbegun : ((x, []) : τ × List Exchange).1 = x := rfl
  obtain ⟨hstates, ht, hstate⟩ := s.follows_logged.runActions actions {} hbegun
  obtain ⟨hresult, -, hend⟩ := s.follows_logged.finish t hstate
  obtain ⟨parts, hminutes, hdirty, hlog⟩ :
      ∃ parts, Minutes false actions parts acted.1 t.outcomes ∧ t.dirty = staged ∧
        logged.2.2.2 = parts.flatten := by
    obtain ⟨parts, outcomes, hminutes, houtcomes, hdirty, hlog⟩ :=
      minutes_runActions s actions {} x []
    rw [hstates] at hminutes
    rw [ht] at houtcomes hdirty
    exact ⟨parts, houtcomes ▸ hminutes, hdirty, hlog⟩
  obtain ⟨calls, hcalls, hending⟩ := t.ending_finish s logged.2.2.1 logged.2.2.2
  rw [hdirty] at hending
  replace hending : Transaction.Ending t.outcomes staged calls ended.result := hresult ▸ hending
  obtain ⟨hparts, hlength, -⟩ := hminutes.length_eq
  refine ⟨⟨hstates, ht, hstate, hresult, hend⟩,
    ⟨parts, hlog, hparts, hlength, hminutes.map_serviceId, ?_⟩, hdirty, calls, hcalls, hending,
    hending.calls_eq_nil_iff, hending.result_eq_untouched_iff, hending.result_eq_applied_iff, ?_⟩
  · intro i action hi
    exact hminutes.entry_getElem? hi
  · intro error herror
    rw [herror] at hending
    exact hending.cause_of_error

end ProxyControl
