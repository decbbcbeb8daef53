import ProxyControl.Proofs.Engine.Advance

/-!
# Runs of a supervision

A run is a list of events that can happen one after the other, beginning with a new
supervisor.  What every event keeps holds after every run.

Main results:

- Theorem `run_induction`: induction on the latest event of a run.
- Theorem `orderly_run`: the processes are in order after every run.
- Theorem `Orderly.done_of_stop`: a stop that is refused no signal succeeds.
-/

namespace ProxyControl

/-- Where the caller is after a stop that ends its call. -/
def AfterStop.rest : AfterStop → Caller
  | .vanish => .gone
  | _ => .idle

/-- When a stop has been answered no call is under way. -/
theorem AfterStop.isBetween_rest (after : AfterStop) : after.rest.isBetween = true := by
  cases after <;> rfl

namespace Supervision

/-! ## Runs -/

/-- A new supervisor. -/
def new (options : SupervisorOptions) : Supervision :=
  { options := options }

/-- A list of events happens if its first event does and the rest after it. -/
theorem run_cons_eq_some {s t : Supervision} {e : Event} {rest : List Event} :
    s.run (e :: rest) = some t ↔ ∃ s', s.step e = some s' ∧ s'.run rest = some t := by
  cases h : s.step e <;> simp [run, h]

theorem run_cons_of_step {s s' : Supervision} {e : Event} (h : s.step e = some s')
    (rest : List Event) : s.run (e :: rest) = s'.run rest := by
  simp [run, h]

/-- Two lists of events happen one after the other. -/
theorem run_append (s : Supervision) (first rest : List Event) :
    s.run (first ++ rest) = (s.run first).bind fun t => t.run rest := by
  induction first generalizing s with
  | nil => rfl
  | cons e first ih =>
      cases h : s.step e <;> simp [run, h, ih]

/-- What holds before a run and is kept by its latest event holds after it. -/
theorem run_induction {s : Supervision} {P : List Event → Supervision → Prop} (nil : P [] s)
    (snoc : ∀ events t e t', s.run events = some t → P events t → t.step e = some t' →
      P (events ++ [e]) t') {events : List Event} {t : Supervision}
    (h : s.run events = some t) : P events t := by
  suffices hrest : ∀ rest events u, s.run events = some u → P events u → u.run rest = some t →
      P (events ++ rest) t from hrest events [] s rfl nil h
  intro rest
  induction rest with
  | nil =>
      intro events u _ hu ht
      obtain rfl := Option.some.inj ht
      simpa using hu
  | cons e rest ih =>
      intro events u hrun hu ht
      obtain ⟨u', hstep, hrest⟩ := run_cons_eq_some.1 ht
      have hrun' : s.run (events ++ [e]) = some u' := by
        rw [run_append, hrun, Option.bind_some, run_cons_eq_some]
        exact ⟨u', hstep, rfl⟩
      simpa using ih (events ++ [e]) u' hrun' (snoc events u e u' hrun hu hstep) hrest

/-- The order is kept by a run. -/
theorem Orderly.run {s t : Supervision} {past : List Child} {present : Option Child}
    (h : Orderly s past present) {events : List Event} (hrun : s.run events = some t) :
    ∃ past' present', Orderly t past' present' := by
  induction events generalizing s past present with
  | nil => exact ⟨past, present, Option.some.inj hrun ▸ h⟩
  | cons e rest ih =>
      obtain ⟨s', hstep, hrest⟩ := run_cons_eq_some.1 hrun
      obtain ⟨past', present', way⟩ := h.advance hstep
      exact ih (way.orderly h) hrest

/-- The processes are in order after every run. -/
theorem orderly_run {options : SupervisorOptions} {events : List Event} {s : Supervision}
    (h : (new options).run events = some s) : ∃ past present, Orderly s past present :=
  (orderly_new options).run h

/-! ## Stops that end their call -/

/-- A stop is going on, or it is over with an answer of some kind. -/
def EndsWith (P : CallAnswer → Prop) (after : AfterStop) (s : Supervision) : Prop :=
  (∃ pid, s.caller.stop? = some (pid, after)) ∨ s.caller = after.rest ∧ P s.answer

namespace EndsWith

variable {P : CallAnswer → Prop} {after : AfterStop} {s : Supervision}

/-- Between two calls the stop is over. -/
theorem answer (h : EndsWith P after s) (between : s.caller.isBetween = true) : P s.answer := by
  rcases h with ⟨pid, stop⟩ | ⟨_, hanswer⟩
  · cases hcaller : s.caller <;> rw [hcaller] at between stop <;> cases between <;> cases stop
  · exact hanswer

/-- The stop that is going on is the one in question. -/
theorem eq_after {after' : AfterStop} {pid : Pid} (h : EndsWith P after s)
    (stop : s.caller.stop? = some (pid, after')) : after' = after := by
  rcases h with ⟨pid', stop'⟩ | ⟨rest, _⟩
  · exact (Prod.mk.inj (Option.some.inj (stop.symm.trans stop'))).2
  · rw [rest] at stop
    cases after <;> cases stop

/-- No engine is launched. -/
theorem stop_or_between (h : EndsWith P after s) :
    s.caller.stop? ≠ none ∨ s.caller.isBetween = true := by
  rcases h with ⟨pid, stop⟩ | ⟨rest, _⟩
  · exact .inl (by simp [stop])
  · exact .inr (rest ▸ after.isBetween_rest)

end EndsWith

/-- A stop goes on until it has succeeded, unless it is refused a signal. -/
theorem Advance.endsWith {s s' : Supervision} {past past' : List Child}
    {present present' : Option Child} {e : Event} {P : CallAnswer → Prop} {after : AfterStop}
    (way : Advance s past present e s' past' present') (h : EndsWith P after s)
    (hafter : after = .finish ∨ after = .vanish) (hcall : s.caller = .idle → e.isCall = false)
    (hdone : P .done)
    (hrefused : e.isRefusal = true → ∀ pid cause, P (.failed (.signal pid cause))) :
    EndsWith P after s' := by
  -- The stop goes on with its next stage.
  have hnext {pid : Pid} {after' : AfterStop} {stage : Caller} {t : Supervision}
      (stop : s.caller.stop? = some (pid, after')) (stop' : stage.stop? = some (pid, after'))
      (ht : t.caller = stage) : EndsWith P after t := by
    rw [h.eq_after stop] at stop'
    exact .inl ⟨pid, ht ▸ stop'⟩
  -- The caller launches no engine.
  have hlaunch {stage : Caller} (hstage : s.caller = stage)
      (hno : stage.stop? = none ∧ stage.isBetween = false) : EndsWith P after s' := by
    rcases h.stop_or_between with stop | between
    · exact absurd (hstage ▸ hno.1) stop
    · rw [hstage, hno.2] at between
      cases between
  cases way with
  | background _ => exact h
  | takesHandle idle _ => cases hcall idle
  | findsNone idle _ => cases hcall idle
  | findsRunning checking _ _ => exact hnext (by rw [checking]; rfl) rfl rfl
  | findsOver checking _ _ => exact hnext (by rw [checking]; rfl) rfl rfl
  | asks terminating => exact hnext (by rw [terminating]; rfl) rfl rfl
  | kills killing => exact hnext (by rw [killing]; rfl) rfl rfl
  | @isRefused c after' cause signalling =>
      have stop : s.caller.stop? = some (c.pid, after') := by
        rcases signalling with h | h <;> rw [h] <;> rfl
      obtain rfl := h.eq_after stop
      refine .inr ⟨?_, hrefused rfl c.pid cause⟩
      rcases hafter with rfl | rfl
      · rfl
      · rfl
  | timesOut receiving _ _ _ => exact hnext (by rw [receiving]; rfl) rfl rfl
  | receives receiving _ _ =>
      rcases receiving with receiving | receiving
      · exact hnext (by rw [receiving]; rfl) rfl rfl
      · exact hnext (by rw [receiving]; rfl) rfl rfl
  | joins joining _ _ =>
      obtain rfl := h.eq_after (by rw [joining]; rfl)
      rcases hafter with rfl | rfl
      · exact .inr ⟨rfl, hdone⟩
      · exact .inr ⟨rfl, hdone⟩
  | failsToLaunch launching => exact hlaunch launching ⟨rfl, rfl⟩
  | launches launching => exact hlaunch launching ⟨rfl, rfl⟩
  | hires hiring => exact hlaunch hiring ⟨rfl, rfl⟩
  | lacksThread hiring => exact hlaunch hiring ⟨rfl, rfl⟩
  | handsOver handing => exact hlaunch handing ⟨rfl, rfl⟩
  | discards discarding => exact hlaunch discarding ⟨rfl, rfl⟩
  | cannotDiscard discarding => exact hlaunch discarding ⟨rfl, rfl⟩
  | reaps reaping _ => exact hlaunch reaping ⟨rfl, rfl⟩

/-- A stop ends with an answer of its kind, whatever events come before its end. -/
theorem EndsWith.run {s t : Supervision} {past : List Child} {present : Option Child}
    {P : CallAnswer → Prop} {after : AfterStop} (hs : EndsWith P after s)
    (h : Orderly s past present) (hafter : after = .finish ∨ after = .vanish) (hdone : P .done)
    {events : List Event} (hcalls : after = .finish → ∀ e ∈ events, e.isCall = false)
    (hrefused : ∀ e ∈ events, e.isRefusal = true → ∀ pid cause, P (.failed (.signal pid cause)))
    (hrun : s.run events = some t) : EndsWith P after t := by
  induction events generalizing s past present with
  | nil => exact Option.some.inj hrun ▸ hs
  | cons e rest ih =>
      obtain ⟨s', hstep, hrest⟩ := run_cons_eq_some.1 hrun
      obtain ⟨past', present', way⟩ := h.advance hstep
      have hcall (idle : s.caller = .idle) : e.isCall = false := by
        rcases hafter with rfl | rfl
        · exact hcalls rfl e List.mem_cons_self
        · rcases hs with ⟨pid, stop⟩ | ⟨gone, _⟩
          · rw [idle] at stop
            cases stop
          · rw [idle] at gone
            cases gone
      have hs' := way.endsWith hs hafter hcall hdone (hrefused e List.mem_cons_self)
      exact ih hs' (way.orderly h)
        (fun hfinish e he => hcalls hfinish e (List.mem_cons_of_mem _ he))
        (fun e he => hrefused e (List.mem_cons_of_mem _ he)) hrest

/-- A stop or a drop that returns has succeeded, unless it was refused a signal. -/
theorem Orderly.answer_of_stop {s t : Supervision} {past : List Child} {present : Option Child}
    {P : CallAnswer → Prop} (h : Orderly s past present) {call : Call}
    (hcall : call = .stop ∨ call = .drop) {during : List Event}
    (hrun : s.run (.call call :: during) = some t)
    (hcalls : call = .stop → ∀ e ∈ during, e.isCall = false) (hdone : P .done)
    (hrefused : ∀ e ∈ during, e.isRefusal = true → ∀ pid cause, P (.failed (.signal pid cause)))
    (between : t.caller.isBetween = true) : P t.answer := by
  obtain ⟨s', hstep, hrest⟩ := run_cons_eq_some.1 hrun
  obtain ⟨past', present', way⟩ := h.advance hstep
  have hafter : call.after = .finish ∨ call.after = .vanish := by
    rcases hcall with rfl | rfl
    · exact .inl rfl
    · exact .inr rfl
  have hfinish : call.after = .finish → call = .stop := by
    rcases hcall with rfl | rfl <;> simp [Call.after]
  have hs' : EndsWith P call.after s' := by
    cases way with
    | background move => cases move.isBackground
    | takesHandle _ _ => exact .inl ⟨_, rfl⟩
    | findsNone _ _ =>
        rcases hcall with rfl | rfl
        · exact .inr ⟨rfl, hdone⟩
        · exact .inr ⟨rfl, hdone⟩
  exact (hs'.run (way.orderly h) hafter hdone (fun h => hcalls (hfinish h)) hrefused hrest).answer
    between

/-- A stop or a drop that is refused no signal and returns has succeeded, and no engine is
held any more. -/
theorem Orderly.done_of_stop {s t : Supervision} {past : List Child} {present : Option Child}
    (h : Orderly s past present) {call : Call} (hcall : call = .stop ∨ call = .drop)
    {during : List Event} (hrun : s.run (.call call :: during) = some t)
    (hcalls : call = .stop → ∀ e ∈ during, e.isCall = false)
    (hrefusals : ∀ e ∈ during, e.isRefusal = false) (between : t.caller.isBetween = true) :
    t.answer = .done ∧ t.handle = none := by
  have hdone : t.answer = .done := by
    refine h.answer_of_stop (P := fun answer => answer = .done) hcall hrun hcalls rfl ?_ between
    intro e he refusal
    rw [hrefusals e he] at refusal
    cases refusal
  obtain ⟨_, _, horder⟩ := h.run hrun
  refine ⟨hdone, ?_⟩
  rw [horder.answered between, hdone]
  rfl

end Supervision
end ProxyControl
