import ProxyControl.Proofs.Engine.Background

/-!
# Restarts

A restart stops twice, but its second stop finds no engine.  Hence it does what a start
does: with the same events it comes to the same supervision.

Main results:

- Definition `Supervision.asStart`: a restart that is going on, taken for a start.
- Theorem `Orderly.step_asStart`: a step of a restart is that of a start.
- Theorem `Orderly.run_restart`: a restart goes on as a start does.
- Theorem `Orderly.run_restart_iff`: it ends as a start does.
-/

namespace ProxyControl

/-- What follows the stop of a restart, taken for that of a start. -/
def AfterStop.asStart : AfterStop → AfterStop
  | .stopAndLaunch => .launch
  | after => after

/-- The caller in a restart, taken for one in a start. -/
def Caller.asStart : Caller → Caller
  | .checking pid after => .checking pid after.asStart
  | .terminating pid after => .terminating pid after.asStart
  | .receiving pid after => .receiving pid after.asStart
  | .killing pid after => .killing pid after.asStart
  | .receivingKilled pid after => .receivingKilled pid after.asStart
  | .joining pid after => .joining pid after.asStart
  | caller => caller

theorem Caller.asStart_of_isBetween {caller : Caller} (between : caller.isBetween = true) :
    caller.asStart = caller := by
  cases caller <;> first | rfl | cases between

theorem Caller.isBetween_asStart (caller : Caller) :
    caller.asStart.isBetween = caller.isBetween := by
  cases caller <;> rfl

namespace Supervision

/-- The supervision with a restart taken for a start. -/
def asStart (s : Supervision) : Supervision :=
  { s with caller := s.caller.asStart }

@[simp]
theorem asStart_stopped (s : Supervision) (after : AfterStop) :
    (s.stopped after).asStart = s.asStart.stopped after.asStart := by
  cases after <;> rfl

theorem asStart_of_isBetween {s : Supervision} (between : s.caller.isBetween = true) :
    s.asStart = s := by
  rw [asStart, Caller.asStart_of_isBetween between]

theorem failStop_asStart (s : Supervision) (pid : Pid) (after : AfterStop) (error : EngineError) :
    (s.failStop pid after error).asStart = s.asStart.failStop pid after.asStart error := by
  cases after <;> rfl

/-- A step of a restart is that of a start. -/
theorem Orderly.step_asStart {s : Supervision} {past : List Child} {present : Option Child}
    (h : Orderly s past present) {e : Event} (hcall : e.isCall = false) :
    s.asStart.step e = (s.step e).map asStart := by
  cases hbackground : e.isBackground with
  | true =>
      have hsame := step_with (s := s) hbackground s.handle s.signals s.caller.asStart s.answer
      rw [asStart, hsame]
      cases hstep : s.step e with
      | none => rfl
      | some t =>
          obtain ⟨hhandle, hsignals, hcaller, hanswer⟩ := step_frame hbackground hstep
          rw [Option.map_some, Option.map_some, asStart, hcaller, ← hhandle, ← hsignals, ← hanswer]
  | false =>
      have hcustody := h.custody
      have hmap {c : Bool} {a b : Option Supervision} :
          (if c then a else b).map asStart = if c then a.map asStart else b.map asStart := by
        cases c <;> rfl
      obtain ⟨options, children, handle, records, signals, caller, answer⟩ := s
      cases e with
      | call c => cases hcall
      | exits pid status => cases hbackground
      | watcher pid known => cases hbackground
      | readFlag =>
          cases caller with
          | checking pid after => exact Eq.trans (by rfl) hmap.symm
          | _ => rfl
      | signalled result =>
          cases result with
          | ok sent => cases caller <;> rfl
          | error cause =>
              cases caller with
              | terminating pid after => exact congrArg some (failStop_asStart _ pid after _).symm
              | killing pid after => exact congrArg some (failStop_asStart _ pid after _).symm
              | _ => rfl
      | received =>
          cases caller with
          | receiving pid after => exact Eq.trans (by rfl) hmap.symm
          | receivingKilled pid after => exact Eq.trans (by rfl) hmap.symm
          | _ => rfl
      | timedOut =>
          cases caller with
          | receiving pid after => exact Eq.trans (by rfl) hmap.symm
          | _ => rfl
      | joined =>
          cases caller with
          | joining pid after =>
              obtain ⟨rfl, _⟩ := hcustody.of_stop rfl
              have hafter := congrArg some (asStart_stopped ⟨options, children, none, records,
                signals, .joining pid after, answer⟩ after)
              rw [← afterStop_of_none rfl, ← afterStop_of_none rfl, ← Option.map_some] at hafter
              refine Eq.trans ?_ hmap.symm
              rw [hafter]
              rfl
          | dismissing pid cause => exact absurd hcustody Custody.not_dismissing
          | _ => rfl
      | spawned result => cases caller <;> cases result <;> rfl
      | threadStarted result => cases caller <;> cases result <;> rfl
      | handedOver =>
          cases caller with
          | handingOver pid => exact Eq.trans (by rfl) hmap.symm
          | _ => rfl
      | waited =>
          cases caller with
          | reaping pid cause =>
              simp only [step, asStart, Caller.asStart, watcher?, child?, setProcess, modify]
              split
              · split <;> rfl
              · rfl
          | _ => rfl

/-- A restart that is going on goes on as a start. -/
theorem Orderly.run_asStart {s : Supervision} {past : List Child} {present : Option Child}
    (h : Orderly s past present) {during : List Event} (hcalls : ∀ e ∈ during, e.isCall = false) :
    s.asStart.run during = (s.run during).map asStart := by
  induction during generalizing s past present with
  | nil => rfl
  | cons e rest ih =>
      have hstep := h.step_asStart (hcalls e List.mem_cons_self)
      rw [Supervision.run, Supervision.run, hstep]
      cases hs' : s.step e with
      | none => rfl
      | some s' =>
          obtain ⟨_, _, way⟩ := h.advance hs'
          exact ih (way.orderly h) fun e he => hcalls e (List.mem_cons_of_mem _ he)

/-- A restart begins as a start does. -/
theorem step_restart_asStart (s : Supervision) :
    (s.step (.call .restart)).map asStart = s.step (.call .start) := by
  obtain ⟨options, children, handle, records, signals, caller, answer⟩ := s
  simp only [step]
  split
  · cases handle <;> rfl
  · rfl

/-- A restart goes on as a start does, whether it returns or not. -/
theorem Orderly.run_restart {s : Supervision} {past : List Child} {present : Option Child}
    (h : Orderly s past present) {during : List Event} (hcalls : ∀ e ∈ during, e.isCall = false) :
    s.run (.call .start :: during) = (s.run (.call .restart :: during)).map asStart := by
  have hbegin := step_restart_asStart s
  rw [Supervision.run, Supervision.run, ← hbegin]
  cases hs' : s.step (.call .restart) with
  | none => rfl
  | some s' =>
      obtain ⟨_, _, way⟩ := h.advance hs'
      exact (way.orderly h).run_asStart hcalls

/-- A restart ends as a start does: with the same answer, and with the same supervision. -/
theorem Orderly.run_restart_iff {s t : Supervision} {past : List Child} {present : Option Child}
    (h : Orderly s past present) {during : List Event} (hcalls : ∀ e ∈ during, e.isCall = false)
    (returned : t.caller.isBetween = true) :
    s.run (.call .restart :: during) = some t ↔ s.run (.call .start :: during) = some t := by
  rw [h.run_restart hcalls, Option.map_eq_some_iff]
  constructor
  · intro hrun
    exact ⟨t, hrun, asStart_of_isBetween returned⟩
  · rintro ⟨u, hrun, hu⟩
    have between : u.caller.isBetween = true := by
      rw [← Caller.isBetween_asStart]
      rwa [← hu] at returned
    rw [asStart_of_isBetween between] at hu
    rwa [← hu]

end Supervision
end ProxyControl
