import ProxyControl.Preference.Clients
import ProxyControl.Proofs.Preference.RunEffect

/-!
# Histories of the preferences in memory

A history is a list of actions, one after the other.  Facts about every state that it
reaches follow from what one action does.  Facts about the order of events are put as one
kind of step leading to another kind, at the same step or later in the history.

Main results:

- Definition `Clients.after`: the state after a history.
- Theorem `Clients.after_induction`: what every action keeps holds after a history.
- Relation `Clients.LeadsTo`: each step of one kind is followed by one of another kind.
- Theorem `Clients.leadsTo_congr`: kinds of steps may be replaced by what they imply.
- Theorem `Clients.tidy_after`: failures and runs keep the services tidy.
-/

namespace ProxyControl

/-! ## Kinds of actions -/

namespace Clients.Action

/-- The action injects a failure or clears all of them. -/
def setsFailures : Action → Bool
  | failAuthorization _ => true
  | failSession _ => true
  | failSet _ => true
  | failCommit => true
  | failApply => true
  | clearFailures => true
  | _ => false

/-- The action is a run. -/
def isRun : Action → Bool
  | run _ => true
  | _ => false

/-- The action adds a service. -/
def addsService : Action → Bool
  | addService _ _ _ => true
  | _ => false

/-- A run has a port. -/
theorem exists_of_isRun {action : Action} (h : action.isRun = true) :
    ∃ port, action = .run port := by
  cases action with
  | run port => exact ⟨port, rfl⟩
  | _ => cases h

/-- A service is added with an identifier, and perhaps hardware and proxies. -/
theorem exists_of_addsService {action : Action} (h : action.addsService = true) :
    ∃ id hardware proxies, action = .addService id hardware proxies := by
  cases action with
  | addService id hardware proxies => exact ⟨id, hardware, proxies, rfl⟩
  | _ => cases h

end Clients.Action

namespace Clients

/-! ## Single steps -/

/-- Injecting or clearing failures always succeeds and changes the failures alone. -/
theorem step_of_setsFailures (c : Clients) {action : Action} (h : action.setsFailures = true) :
    (c.step action).answer = .done ∧
      ∃ failures, (c.step action).state = { c with prefs := { c.prefs with failures } } := by
  cases action with
  | failAuthorization status => exact ⟨rfl, _, rfl⟩
  | failSession message => exact ⟨rfl, _, rfl⟩
  | failSet id => exact ⟨rfl, _, rfl⟩
  | failCommit => exact ⟨rfl, _, rfl⟩
  | failApply => exact ⟨rfl, _, rfl⟩
  | clearFailures => exact ⟨rfl, _, rfl⟩
  | _ => cases h

/-- A run changes the preferences as the synchronizer does. -/
theorem state_run (c : Clients) (port : UInt16) :
    (c.step (.run port)).state =
      { c with prefs := (Synchronizer.run MemoryPreferences.backend port c.prefs).state } :=
  rfl

/-- A run that is answered with a report returned it. -/
theorem result_of_report {c : Clients} {port : UInt16} {report : SyncReport}
    (h : (c.step (.run port)).answer = .report report) :
    (Synchronizer.run MemoryPreferences.backend port c.prefs).result = .ok report := by
  simp only [step] at h
  split at h <;> rename_i hresult
  · rw [hresult, Answer.report.inj h]
  · cases h

/-- The answer to a run that ends well is its report. -/
theorem answer_of_ok {c : Clients} {port : UInt16} {report : SyncReport}
    (h : (Synchronizer.run MemoryPreferences.backend port c.prefs).result = .ok report) :
    (c.step (.run port)).answer = .report report := by
  simp only [step, h]

/-- The answer to a run that fails is its error. -/
theorem answer_of_error {c : Clients} {port : UInt16} {error : SyncError}
    (h : (Synchronizer.run MemoryPreferences.backend port c.prefs).result = .error error) :
    (c.step (.run port)).answer = .syncFailed error := by
  simp only [step, h]

/-! ## Histories -/

/-- The state after some actions. -/
def after (c : Clients) (history : List Action) : Clients :=
  history.foldl (fun c action => (c.step action).state) c

@[simp]
theorem after_nil (c : Clients) : c.after [] = c :=
  rfl

@[simp]
theorem after_cons (c : Clients) (action : Action) (rest : List Action) :
    c.after (action :: rest) = (c.step action).state.after rest :=
  rfl

/-- Two histories one after the other are one history. -/
theorem after_append (c : Clients) (first rest : List Action) :
    c.after (first ++ rest) = (c.after first).after rest :=
  List.foldl_append

/-- What every allowed action keeps holds after a history of such actions. -/
theorem after_induction {allowed : Action → Prop} {P : Clients → Prop}
    (keep : ∀ c action, allowed action → P c → P (c.step action).state) {c : Clients}
    {history : List Action} (hallowed : ∀ action ∈ history, allowed action) (hc : P c) :
    P (c.after history) := by
  induction history generalizing c with
  | nil => exact hc
  | cons action rest ih =>
      have hfirst := keep c action (hallowed action List.mem_cons_self) hc
      exact ih (fun other hother => hallowed other (List.mem_cons_of_mem _ hother)) hfirst

/-- Injecting and clearing failures any number of times changes the failures alone. -/
theorem after_of_setsFailures (c : Clients) {injections : List Action}
    (h : ∀ action ∈ injections, action.setsFailures = true) :
    ∃ failures, c.after injections = { c with prefs := { c.prefs with failures } } := by
  refine after_induction
    (P := fun d => ∃ failures, d = { c with prefs := { c.prefs with failures } }) ?_ h
    ⟨c.prefs.failures, rfl⟩
  intro d action hallowed hd
  obtain ⟨failures, rfl⟩ := hd
  obtain ⟨-, failures', hstate⟩ := step_of_setsFailures _ hallowed
  exact ⟨failures', hstate⟩

/-! ## Order of steps -/

/-- Some step of the history is of a kind. -/
def Eventually (kind : Clients → Action → Prop) : Clients → List Action → Prop
  | _, [] => False
  | c, action :: rest => kind c action ∨ Eventually kind (c.step action).state rest

/-- Each step of the first kind is followed by one of the second kind, which may be the same
step. -/
def LeadsTo (first second : Clients → Action → Prop) : Clients → List Action → Prop
  | _, [] => True
  | c, action :: rest =>
    (first c action → Eventually second c (action :: rest)) ∧
      LeadsTo first second (c.step action).state rest

instance decidableEventually (kind : Clients → Action → Prop)
    [∀ c action, Decidable (kind c action)] :
    ∀ (c : Clients) (history : List Action), Decidable (Eventually kind c history)
  | _, [] => instDecidableFalse
  | c, action :: rest =>
    have := decidableEventually kind (c.step action).state rest
    inferInstanceAs (Decidable (kind c action ∨ Eventually kind (c.step action).state rest))

instance decidableLeadsTo (first second : Clients → Action → Prop)
    [∀ c action, Decidable (first c action)] [∀ c action, Decidable (second c action)] :
    ∀ (c : Clients) (history : List Action), Decidable (LeadsTo first second c history)
  | _, [] => instDecidableTrue
  | c, action :: rest =>
    have := decidableLeadsTo first second (c.step action).state rest
    inferInstanceAs (Decidable ((first c action → Eventually second c (action :: rest)) ∧
      LeadsTo first second (c.step action).state rest))

section Order

variable {allowed : Action → Prop} {first first' second second' : Clients → Action → Prop}

/-- A step at the end of a history comes eventually. -/
theorem eventually_last {c : Clients} {history : List Action} {action : Action}
    (h : second (c.after history) action) : Eventually second c (history ++ [action]) := by
  induction history generalizing c with
  | nil => exact .inl h
  | cons _ rest ih => exact .inr (ih h)

/-- If the last step is of the second kind, everything leads to it. -/
theorem leadsTo_last {c : Clients} {history : List Action} {action : Action}
    (h : second (c.after history) action) :
    LeadsTo first second c (history ++ [action]) := by
  induction history generalizing c with
  | nil => exact ⟨fun _ => .inl h, trivial⟩
  | cons head rest ih =>
      have heventually : Eventually second c ((head :: rest) ++ [action]) := eventually_last h
      exact ⟨fun _ => heventually, ih h⟩

/-- What comes eventually depends only on which steps count, among those that are allowed. -/
theorem eventually_congr
    (hsecond : ∀ c action, allowed action → (second c action ↔ second' c action))
    {c : Clients} {history : List Action} (hallowed : ∀ action ∈ history, allowed action) :
    Eventually second c history ↔ Eventually second' c history := by
  induction history generalizing c with
  | nil => exact Iff.rfl
  | cons action rest ih =>
      exact or_congr (hsecond c action (hallowed action List.mem_cons_self))
        (ih fun other hother => hallowed other (List.mem_cons_of_mem _ hother))

/-- The second kind may be replaced by an equivalent one, and the first by those of its steps
that are not of the second kind already. -/
theorem leadsTo_congr
    (hsecond : ∀ c action, allowed action → (second c action ↔ second' c action))
    (hfirst : ∀ c action, allowed action → (first c action ↔ second c action ∨ first' c action))
    {c : Clients} {history : List Action} (hallowed : ∀ action ∈ history, allowed action) :
    LeadsTo first second c history ↔ LeadsTo first' second' c history := by
  induction history generalizing c with
  | nil => exact Iff.rfl
  | cons action rest ih =>
      have haction : allowed action := hallowed action List.mem_cons_self
      have hrest := ih (c := (c.step action).state) fun other hother =>
        hallowed other (List.mem_cons_of_mem _ hother)
      have heventually := eventually_congr hsecond (c := c) hallowed
      refine and_congr ?_ hrest
      rw [hfirst c action haction, ← heventually]
      constructor
      · intro h hfirst'
        exact h (.inr hfirst')
      · rintro h (hnow | hfirst')
        · exact .inl hnow
        · exact h hfirst'

end Order

/-! ## Tidy services -/

/-- A run keeps the services tidy. -/
theorem tidy_run {c : Clients} (tidy : c.prefs.Tidy) (port : UInt16) :
    (c.step (.run port)).state.prefs.Tidy := by
  have hend := MemoryPreferences.run_end c.prefs port
  rw [state_run]
  exact hend.tidy tidy

/-- Failures and runs keep the services tidy. -/
theorem tidy_after {c : Clients} (tidy : c.prefs.Tidy) {history : List Action}
    (h : ∀ action ∈ history, action.setsFailures = true ∨ action.isRun = true) :
    (c.after history).prefs.Tidy := by
  refine after_induction (P := fun c => c.prefs.Tidy) ?_ h tidy
  intro c action hallowed htidy
  rcases hallowed with hfailures | hrun
  · obtain ⟨-, failures, hstate⟩ := c.step_of_setsFailures hfailures
    rw [hstate]
    exact ⟨htidy.ordered, htidy.plain⟩
  · obtain ⟨port, rfl⟩ := Action.exists_of_isRun hrun
    exact tidy_run htidy port

end Clients
end ProxyControl
