import ProxyControl.Proofs.Engine.Runs

/-!
# Steps behind the caller's back

The processes and their watchers go on whatever the caller does.  Their steps neither
depend on the caller, its handle, its signals and its answers nor change any of them.

Main results:

- Definition `Supervision.uncalled`: the supervision as processes and watchers see it.
- Theorem `step_with`: steps in the background do not depend on the caller.
- Theorem `run_uncalled`: neither do runs of such steps.
-/

namespace ProxyControl
namespace Supervision

variable {s t : Supervision} {e : Event}

/-- Steps in the background do not depend on the caller and leave it alone. -/
theorem step_with (background : e.isBackground = true) (handle : Option Pid)
    (signals : List SentSignal) (caller : Caller) (answer : CallAnswer) :
    { s with handle := handle, signals := signals, caller := caller, answer := answer }.step e =
      (s.step e).map fun t =>
        { t with handle := handle, signals := signals, caller := caller, answer := answer } := by
  cases e with
  | exits pid status =>
      simp only [step, child?]
      split <;> rfl
  | watcher pid known =>
      simp only [step, child?]
      split
      · rename_i c _
        obtain ⟨number, state, watcher⟩ := c
        rcases watcher with _ | ⟨stage, unread⟩
        · rfl
        · cases stage with
          | waiting => cases state <;> rfl
          | lowered status => cases status <;> rfl
          | _ => rfl
      · rfl
  | _ => cases background

/-- Steps in the background leave the caller alone. -/
theorem step_frame (background : e.isBackground = true) (h : s.step e = some t) :
    t.handle = s.handle ∧ t.signals = s.signals ∧ t.caller = s.caller ∧ t.answer = s.answer := by
  have hsame := step_with (s := s) background s.handle s.signals s.caller s.answer
  rw [h, Option.map_some] at hsame
  have ht := Option.some.inj hsame
  have hhandle := congrArg handle ht
  have hsignals := congrArg signals ht
  have hcaller := congrArg caller ht
  have hanswer := congrArg answer ht
  exact ⟨hhandle, hsignals, hcaller, hanswer⟩

/-- The supervision as processes and watchers see it. -/
def uncalled (s : Supervision) : Supervision :=
  { s with handle := none, signals := [], caller := .idle, answer := .done }

theorem eq_of_uncalled_eq (h : s.uncalled = t.uncalled) :
    s = { t with
      handle := s.handle, signals := s.signals, caller := s.caller, answer := s.answer } := by
  obtain ⟨options, children, handle, records, signals, caller, answer⟩ := s
  obtain ⟨rfl, rfl, _, rfl, _, _, _⟩ := Supervision.mk.inj h
  rfl

theorem step_uncalled (background : e.isBackground = true) :
    s.uncalled.step e = (s.step e).map uncalled :=
  step_with background none [] .idle .done

/-- Runs in the background do not depend on the caller. -/
theorem run_uncalled {events : List Event} (background : ∀ e ∈ events, e.isBackground = true) :
    s.uncalled.run events = (s.run events).map uncalled := by
  induction events generalizing s with
  | nil => rfl
  | cons e rest ih =>
      have hstep := step_uncalled (s := s) (background e List.mem_cons_self)
      rw [run, run, hstep]
      cases s.step e with
      | none => rfl
      | some s' => exact ih fun e he => background e (List.mem_cons_of_mem _ he)

/-- Runs in the background leave the caller alone. -/
theorem run_frame {events : List Event} (background : ∀ e ∈ events, e.isBackground = true)
    (h : s.run events = some t) :
    t.handle = s.handle ∧ t.signals = s.signals ∧ t.caller = s.caller ∧ t.answer = s.answer := by
  induction events generalizing s with
  | nil =>
      obtain rfl := Option.some.inj h
      exact ⟨rfl, rfl, rfl, rfl⟩
  | cons e rest ih =>
      obtain ⟨s', hstep, hrest⟩ := run_cons_eq_some.1 h
      obtain ⟨hhandle, hsignals, hcaller, hanswer⟩ :=
        step_frame (background e List.mem_cons_self) hstep
      obtain ⟨hhandle', hsignals', hcaller', hanswer'⟩ :=
        ih (fun e he => background e (List.mem_cons_of_mem _ he)) hrest
      exact ⟨hhandle'.trans hhandle, hsignals'.trans hsignals, hcaller'.trans hcaller,
        hanswer'.trans hanswer⟩

end Supervision
end ProxyControl
