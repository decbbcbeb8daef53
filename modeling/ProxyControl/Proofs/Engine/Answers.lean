import ProxyControl.Proofs.Engine.Background

/-!
# What the calls answer

The caller of a supervisor sees the answers of its calls, in the order in which the calls
end.  A call that has begun ends with one answer at most, and until the next call begins
nothing changes that answer.

Main results:

- Definition `Supervision.answers`: the answers given along a run.
- Definition `Supervision.started`: the engines for which they tell of a successful start.
- Theorem `answers_during`: without another call there is one answer, once the call is over.
-/

namespace ProxyControl

/-- The engine that was started, if the call succeeded in that. -/
def CallAnswer.started? : CallAnswer → Option Pid
  | .started pid => some pid
  | _ => none

namespace Supervision

/-! ## Answers along a run -/

/-- The answer of the call that an event ends, by the state after the event. -/
def reply? (e : Event) (s : Supervision) : Option CallAnswer :=
  if !e.isBackground && s.caller.isBetween then some s.answer else none

/-- The answers given along a run, the first call first. -/
def answers (s : Supervision) : List Event → List CallAnswer
  | [] => []
  | e :: rest =>
    match s.step e with
    | some s => (reply? e s).toList ++ s.answers rest
    | none => []

/-- The engines that were started with success along a run, the first one first. -/
def started (s : Supervision) (events : List Event) : List Pid :=
  (s.answers events).filterMap CallAnswer.started?

/-- The first event is answered first, if it has an answer. -/
theorem answers_cons {s s' : Supervision} {e : Event} (h : s.step e = some s')
    (rest : List Event) : s.answers (e :: rest) = (reply? e s').toList ++ s'.answers rest := by
  simp [answers, h]

/-- Events in two parts are answered in order. -/
theorem answers_append {s t : Supervision} {first : List Event} (h : s.run first = some t)
    (rest : List Event) : s.answers (first ++ rest) = s.answers first ++ t.answers rest := by
  induction first generalizing s with
  | nil =>
      obtain rfl := Option.some.inj h
      rfl
  | cons e first ih =>
      obtain ⟨s', hstep, hrest⟩ := run_cons_eq_some.1 h
      rw [List.cons_append, answers_cons hstep, answers_cons hstep, ih hrest, List.append_assoc]

/-- The engines of two parts are started in order. -/
theorem started_append {s t : Supervision} {first : List Event} (h : s.run first = some t)
    (rest : List Event) : s.started (first ++ rest) = s.started first ++ t.started rest := by
  rw [started, answers_append h, List.filterMap_append]
  rfl

theorem started_singleton {s s' : Supervision} {e : Event} (h : s.step e = some s') :
    s.started [e] = ((reply? e s').bind CallAnswer.started?).toList := by
  rw [started, answers_cons h]
  cases reply? e s' with
  | none => rfl
  | some answer => cases answer <;> rfl

/-! ## One answer to a call -/

/-- Between two calls only processes and watchers go on. -/
theorem Orderly.isBackground_of_between {s s' : Supervision} {past : List Child}
    {present : Option Child} (h : Orderly s past present) {e : Event}
    (hstep : s.step e = some s') (between : s.caller.isBetween = true)
    (hcall : e.isCall = false) : e.isBackground = true := by
  obtain ⟨_, _, way⟩ := h.advance hstep
  -- A caller in the middle of a call is not between two calls.
  have hbusy {stage : Caller} (hstage : s.caller = stage) (busy : stage.isBetween = false) :
      e.isBackground = true := by
    rw [hstage, busy] at between
    cases between
  cases way with
  | background move => exact move.isBackground
  | takesHandle _ _ => cases hcall
  | findsNone _ _ => cases hcall
  | findsRunning checking _ _ => exact hbusy checking rfl
  | findsOver checking _ _ => exact hbusy checking rfl
  | asks terminating => exact hbusy terminating rfl
  | kills killing => exact hbusy killing rfl
  | isRefused signalling =>
      rcases signalling with terminating | killing
      · exact hbusy terminating rfl
      · exact hbusy killing rfl
  | timesOut receiving _ _ _ => exact hbusy receiving rfl
  | receives receiving _ _ =>
      rcases receiving with receiving | receiving
      · exact hbusy receiving rfl
      · exact hbusy receiving rfl
  | joins joining _ _ => exact hbusy joining rfl
  | failsToLaunch launching => exact hbusy launching rfl
  | launches launching => exact hbusy launching rfl
  | hires hiring => exact hbusy hiring rfl
  | lacksThread hiring => exact hbusy hiring rfl
  | handsOver handing => exact hbusy handing rfl
  | discards discarding => exact hbusy discarding rfl
  | cannotDiscard discarding => exact hbusy discarding rfl
  | reaps reaping _ => exact hbusy reaping rfl

/-- Between two calls a run without calls gives no answer and leaves the caller alone. -/
theorem Orderly.answers_of_between {s t : Supervision} {past : List Child}
    {present : Option Child} (h : Orderly s past present) (between : s.caller.isBetween = true)
    {during : List Event} (hcalls : ∀ e ∈ during, e.isCall = false)
    (hrun : s.run during = some t) :
    s.answers during = [] ∧ t.caller = s.caller ∧ t.answer = s.answer ∧ t.handle = s.handle := by
  induction during generalizing s past present with
  | nil =>
      obtain rfl := Option.some.inj hrun
      exact ⟨rfl, rfl, rfl, rfl⟩
  | cons e rest ih =>
      obtain ⟨s', hstep, hrest⟩ := run_cons_eq_some.1 hrun
      obtain ⟨past', present', way⟩ := h.advance hstep
      have background := h.isBackground_of_between hstep between (hcalls e List.mem_cons_self)
      obtain ⟨hhandle, _, hcaller, hanswer⟩ := step_frame background hstep
      have ⟨hnone, hcaller', hanswer', hhandle'⟩ := ih (way.orderly h) (hcaller ▸ between)
        (fun e he => hcalls e (List.mem_cons_of_mem _ he)) hrest
      refine ⟨?_, hcaller'.trans hcaller, hanswer'.trans hanswer, hhandle'.trans hhandle⟩
      rw [answers_cons hstep, hnone, reply?, background]
      rfl

/-- A call that is going on gives its answer when it ends, and no other call answers before
one begins. -/
theorem Orderly.answers_during {s t : Supervision} {past : List Child} {present : Option Child}
    (h : Orderly s past present) (busy : s.caller.isBetween = false) {during : List Event}
    (hcalls : ∀ e ∈ during, e.isCall = false) (hrun : s.run during = some t) :
    s.answers during = if t.caller.isBetween then [t.answer] else [] := by
  induction during generalizing s past present with
  | nil =>
      obtain rfl := Option.some.inj hrun
      rw [busy]
      rfl
  | cons e rest ih =>
      obtain ⟨s', hstep, hrest⟩ := run_cons_eq_some.1 hrun
      obtain ⟨past', present', way⟩ := h.advance hstep
      have hcalls' : ∀ e ∈ rest, e.isCall = false :=
        fun e he => hcalls e (List.mem_cons_of_mem _ he)
      rw [answers_cons hstep]
      cases hbetween : s'.caller.isBetween with
      | false =>
          rw [ih (way.orderly h) hbetween hcalls' hrest, reply?, hbetween, Bool.and_false]
          rfl
      | true =>
          have ⟨hnone, hcaller, hanswer, _⟩ :=
            (way.orderly h).answers_of_between hbetween hcalls' hrest
          have background : e.isBackground = false := by
            refine Bool.eq_false_iff.2 fun background => ?_
            rw [(step_frame background hstep).2.2.1, busy] at hbetween
            cases hbetween
          rw [hnone, hcaller, hanswer, reply?, hbetween, background]
          rfl

/-- A call that answers otherwise starts no engine. -/
theorem Orderly.started_of_call {s t : Supervision} {past : List Child} {present : Option Child}
    (h : Orderly s past present) {call : Call} {during : List Event}
    (hcalls : ∀ e ∈ during, e.isCall = false) (hrun : s.run (.call call :: during) = some t)
    (between : t.caller.isBetween = true) (hanswer : t.answer.started? = none) :
    s.started (.call call :: during) = [] := by
  obtain ⟨s', hstep, hrest⟩ := run_cons_eq_some.1 hrun
  obtain ⟨past', present', way⟩ := h.advance hstep
  rw [started, answers_cons hstep]
  cases hbetween : s'.caller.isBetween with
  | false =>
      rw [(way.orderly h).answers_during hbetween hcalls hrest, between, reply?, hbetween]
      simp [hanswer]
  | true =>
      obtain ⟨hnone, _, hsame, _⟩ := (way.orderly h).answers_of_between hbetween hcalls hrest
      rw [hnone, reply?, hbetween, ← hsame]
      simp [Event.isBackground, hanswer]

end Supervision
end ProxyControl
