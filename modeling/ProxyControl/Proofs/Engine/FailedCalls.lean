import ProxyControl.Proofs.Engine.Chronicle
import ProxyControl.Proofs.Engine.OneEngine
import ProxyControl.Proofs.Engine.Restarts

/-!
# Calls that fail

A call whose signal is refused leaves everything as if it had not been made, and its engine
can still be stopped.  A call that fails later has ended the engine that was held, and
leaves none.  In both cases a stop that may signal puts things right.

Main results:

- Structure `FailureAtomic`: what a call leaves behind when it fails.
- Theorem `run_failureAtomic`: every call leaves behind no more than that.
-/

namespace ProxyControl

/-- A stop is going on that can still be refused a signal. -/
def Caller.isRevocable : Caller → Bool
  | .checking _ _ => true
  | .terminating _ _ => true
  | .receiving _ _ => true
  | .killing _ _ => true
  | _ => false

namespace Supervision

/-! ## Refused signals -/

/-- A stop of the engine has been refused a signal, or can still be refused one. -/
def Revocable (pid : Pid) (s : Supervision) : Prop :=
  s.caller.isRevocable = true ∧ (∃ after, s.caller.stop? = some (pid, after)) ∨
    s.caller.isBetween = true ∧ s.handle = some pid ∧
      ∃ cause, s.answer = .failed (.signal pid cause)

/-- The call does not fail for a refused signal any more. -/
def Committed (s : Supervision) : Prop :=
  s.caller.isRevocable = false ∧
    (s.caller.isBetween = true → ∀ pid cause, s.answer ≠ .failed (.signal pid cause))

theorem committed_stopped (s : Supervision) (after : AfterStop) : Committed (s.stopped after) := by
  cases after <;> exact ⟨rfl, by simp [stopped, finish, Caller.isBetween]⟩

/-- A call that is past its signals goes on without failing for one. -/
theorem Advance.committed {s s' : Supervision} {past past' : List Child}
    {present present' : Option Child} {e : Event}
    (way : Advance s past present e s' past' present') (hs : Committed s)
    (hcall : e.isCall = false) : Committed s' := by
  -- The stages of a stop that can be refused a signal are over.
  have hover {stage : Caller} (hstage : s.caller = stage) (revocable : stage.isRevocable = true) :
      Committed s' := by
    rw [← hstage, hs.1] at revocable
    cases revocable
  cases way with
  | background _ => exact hs
  | takesHandle _ _ => cases hcall
  | findsNone _ _ => cases hcall
  | findsRunning checking _ _ => exact hover checking rfl
  | findsOver checking _ _ => exact hover checking rfl
  | asks terminating => exact hover terminating rfl
  | kills killing => exact hover killing rfl
  | isRefused signalling =>
      rcases signalling with terminating | killing
      · exact hover terminating rfl
      · exact hover killing rfl
  | timesOut receiving _ _ _ => exact hover receiving rfl
  | receives _ _ _ => exact ⟨rfl, by simp [Caller.isBetween]⟩
  | joins _ _ _ => exact committed_stopped s _
  | failsToLaunch _ => exact ⟨rfl, by simp [finish]⟩
  | launches _ => exact ⟨rfl, by simp [Caller.isBetween]⟩
  | hires _ => exact ⟨rfl, by simp [Caller.isBetween]⟩
  | lacksThread _ => exact ⟨rfl, by simp [Caller.isBetween]⟩
  | handsOver _ => exact ⟨rfl, by simp⟩
  | discards _ => exact ⟨rfl, by simp [Caller.isBetween]⟩
  | cannotDiscard _ => exact ⟨rfl, by simp [Caller.isBetween]⟩
  | reaps _ _ => exact ⟨rfl, by simp⟩

/-- As long as a stop can be refused a signal, the caller leaves the engines alone. -/
theorem Advance.revocable {s s' : Supervision} {past past' : List Child}
    {present present' : Option Child} {e : Event} {pid : Pid}
    (way : Advance s past present e s' past' present') (hs : Revocable pid s)
    (hbackground : e.isBackground = false) (hcall : s.caller.isBetween = false) :
    Revocable pid s' ∧ s'.uncalled = s.uncalled ∨ Committed s' := by
  obtain ⟨_, after, stop⟩ : s.caller.isRevocable = true ∧
      ∃ after, s.caller.stop? = some (pid, after) := by
    rcases hs with stop | ⟨between, _⟩
    · exact stop
    · rw [hcall] at between
      cases between
  -- The stop goes on with a stage that can be refused a signal.
  have hnext {stage : Caller} {c : Child} {after' : AfterStop} {signals : List SentSignal}
      (stop' : s.caller.stop? = some (c.pid, after'))
      (hstage : stage.isRevocable = true ∧ stage.stop? = some (c.pid, after')) :
      Revocable pid { s with signals := signals, caller := stage } ∧
        { s with signals := signals, caller := stage }.uncalled = s.uncalled := by
    obtain ⟨rfl, rfl⟩ := Prod.mk.inj (Option.some.inj (stop.symm.trans stop'))
    exact ⟨.inl ⟨hstage.1, _, hstage.2⟩, rfl⟩
  cases way with
  | background move => rw [move.isBackground] at hbackground; cases hbackground
  | findsRunning checking _ _ => exact .inl (hnext (by rw [checking]; rfl) ⟨rfl, rfl⟩)
  | findsOver checking _ _ => exact .inl (hnext (by rw [checking]; rfl) ⟨rfl, rfl⟩)
  | asks terminating => exact .inl (hnext (by rw [terminating]; rfl) ⟨rfl, rfl⟩)
  | timesOut receiving _ _ _ => exact .inl (hnext (by rw [receiving]; rfl) ⟨rfl, rfl⟩)
  | @isRefused c after' cause signalling =>
      have stop' : s.caller.stop? = some (c.pid, after') := by
        rcases signalling with h | h <;> rw [h] <;> rfl
      obtain ⟨rfl, rfl⟩ := Prod.mk.inj (Option.some.inj (stop.symm.trans stop'))
      refine .inl ⟨.inr ⟨?_, rfl, cause, rfl⟩, rfl⟩
      simp only [failStop]
      split <;> rfl
  | kills _ => exact .inr ⟨rfl, by simp [Caller.isBetween]⟩
  | receives _ _ _ => exact .inr ⟨rfl, by simp [Caller.isBetween]⟩
  | joins _ _ _ => exact .inr (committed_stopped s _)
  | findsNone idle _ => rw [idle] at stop; cases stop
  | takesHandle idle _ => rw [idle] at stop; cases stop
  | failsToLaunch launching => rw [launching] at stop; cases stop
  | launches launching => rw [launching] at stop; cases stop
  | hires hiring => rw [hiring] at stop; cases stop
  | lacksThread hiring => rw [hiring] at stop; cases stop
  | handsOver handing => rw [handing] at stop; cases stop
  | discards discarding => rw [discarding] at stop; cases stop
  | cannotDiscard discarding => rw [discarding] at stop; cases stop
  | reaps reaping _ => rw [reaping] at stop; cases stop

theorem Committed.run {s t : Supervision} {past : List Child} {present : Option Child}
    (hs : Committed s) (h : Orderly s past present) {during : List Event}
    (hcalls : ∀ e ∈ during, e.isCall = false) (hrun : s.run during = some t) : Committed t := by
  induction during generalizing s past present with
  | nil => exact Option.some.inj hrun ▸ hs
  | cons e rest ih =>
      obtain ⟨s', hstep, hrest⟩ := run_cons_eq_some.1 hrun
      obtain ⟨_, _, way⟩ := h.advance hstep
      exact ih (way.committed hs (hcalls e List.mem_cons_self)) (way.orderly h)
        (fun e he => hcalls e (List.mem_cons_of_mem _ he)) hrest

/-- A step in the background does not change what a stop can still be refused. -/
theorem Revocable.background {s s' : Supervision} {pid : Pid} {e : Event} (hs : Revocable pid s)
    (background : e.isBackground = true) (hstep : s.step e = some s') : Revocable pid s' := by
  obtain ⟨hhandle, _, hcaller, hanswer⟩ := step_frame background hstep
  rwa [Revocable, hhandle, hcaller, hanswer]

/-- A stop that can be refused a signal is past its signals in the end, or what has happened
meanwhile is what happens without it. -/
theorem Revocable.run {s t : Supervision} {past : List Child} {present : Option Child}
    {pid : Pid} (hs : Revocable pid s) (h : Orderly s past present) {during : List Event}
    (hcalls : ∀ e ∈ during, e.isCall = false) (hrun : s.run during = some t) :
    Revocable pid t ∧ s.uncalled.run (during.filter Event.isBackground) = some t.uncalled ∨
      Committed t := by
  induction during generalizing s past present with
  | nil =>
      obtain rfl := Option.some.inj hrun
      exact .inl ⟨hs, rfl⟩
  | cons e rest ih =>
      obtain ⟨s', hstep, hrest⟩ := run_cons_eq_some.1 hrun
      obtain ⟨_, _, way⟩ := h.advance hstep
      have hcall := hcalls e List.mem_cons_self
      have hcalls' : ∀ e ∈ rest, e.isCall = false :=
        fun e he => hcalls e (List.mem_cons_of_mem _ he)
      cases hbackground : e.isBackground with
      | true =>
          have hsame := step_uncalled (s := s) hbackground
          rw [hstep, Option.map_some] at hsame
          rw [List.filter_cons_of_pos hbackground, run_cons_of_step hsame]
          exact ih (hs.background hbackground hstep) (way.orderly h) hcalls' hrest
      | false =>
          have hbusy : s.caller.isBetween = false := by
            refine Bool.eq_false_iff.2 fun between => ?_
            rw [h.isBackground_of_between hstep between hcall] at hbackground
            cases hbackground
          rw [List.filter_cons_of_neg (by simp [hbackground])]
          rcases way.revocable hs hbackground hbusy with ⟨hs', hsame⟩ | committed
          · rw [← hsame]
            exact ih hs' (way.orderly h) hcalls' hrest
          · exact .inr (committed.run (way.orderly h) hcalls' hrest)

/-- A call that fails for a refused signal leaves everything but the signals as it is
without the call. -/
theorem Orderly.unchanged_of_refusal {s t : Supervision} {past : List Child}
    {present : Option Child} (h : Orderly s past present) {call : Call} {during : List Event}
    (hrun : s.run (.call call :: during) = some t) (hcalls : ∀ e ∈ during, e.isCall = false)
    (returned : t.caller = .idle) {pid : Pid} {cause : String}
    (failed : t.answer = .failed (.signal pid cause)) :
    s.handle = some pid ∧ ∃ u, s.run (during.filter Event.isBackground) = some u ∧
      t = { u with signals := t.signals, answer := t.answer } := by
  obtain ⟨s', hstep, hrest⟩ := run_cons_eq_some.1 hrun
  obtain ⟨_, _, way⟩ := h.advance hstep
  have horder := way.orderly h
  have hcommitted : ¬ Committed t := fun committed =>
    committed.2 (by rw [returned]; rfl) pid cause failed
  cases way with
  | background move => cases move.isBackground
  | findsNone idle free =>
      exact absurd ((committed_stopped s _).run horder hcalls hrest) hcommitted
  | @takesHandle c _ idle held =>
      have hs' : Revocable c.pid { s with handle := none, caller := .checking c.pid call.after } :=
        .inl ⟨rfl, _, rfl⟩
      obtain ⟨revocable, hsame⟩ := (hs'.run horder hcalls hrest).resolve_right hcommitted
      -- The background has gone on as without the call.
      have hbackground : ∀ e ∈ during.filter Event.isBackground, e.isBackground = true :=
        fun e he => (List.mem_filter.1 he).2
      change s.uncalled.run _ = _ at hsame
      rw [run_uncalled hbackground, Option.map_eq_some_iff] at hsame
      obtain ⟨u, hu, hsame⟩ := hsame
      obtain ⟨hhandle, _, hcaller, _⟩ := run_frame hbackground hu
      obtain ⟨_, heldt, cause', failed'⟩ :=
        revocable.resolve_left fun ⟨revocable, _⟩ => by rw [returned] at revocable; cases revocable
      obtain rfl : c.pid = pid := by
        rw [failed'] at failed
        exact (EngineError.signal.inj (CallAnswer.failed.inj failed)).1
      refine ⟨held, u, hu, ?_⟩
      have ht := eq_of_uncalled_eq hsame.symm
      rwa [heldt, returned, ← held, ← hhandle, ← idle, ← hcaller] at ht

/-! ## Unread statuses -/

/-- The status that a watcher has sent is unread, until the caller joins the watcher. -/
def Readable (s : Supervision) (present : Option Child) : Prop :=
  ∀ c w, present = some c → c.watcher = some w → w.stage = .sent ∨ w.stage = .ended →
    w.unread = true ∨ ∃ after, s.caller = .joining c.pid after

/-- A status that was sent stays unread until the caller joins the watcher, if no wait loses
a status. -/
theorem Advance.readable {s s' : Supervision} {past past' : List Child}
    {present present' : Option Child} {e : Event}
    (way : Advance s past present e s' past' present') (hs : Readable s present)
    (hknown : ∀ c w, present = some c → c.watcher = some w → w.stage ≠ .lowered none) :
    Readable s' present' := by
  -- The caller goes on from a stage in which it does not join the watcher.
  have hkeep {stage : Caller} (hstage : s.caller = stage)
      (hjoining : ∀ pid after, stage ≠ .joining pid after) {t : Supervision} :
      Readable t present := by
    intro c w hpresent watcher told
    refine .inl ((hs c w hpresent watcher told).resolve_right ?_)
    rintro ⟨after, joining⟩
    exact hjoining _ _ (hstage.symm.trans joining)
  cases way with
  | @background c c' _ _ move =>
      rintro _ w' ⟨⟩ watcher' told
      rw [move.pid_eq]
      cases move with
      | exits _ => exact hs c w' rfl watcher' told
      | wakes _ _ =>
          obtain rfl := Option.some.inj watcher'
          simp at told
      | @turns w _ _ _ watcher turn =>
          obtain rfl := Option.some.inj watcher'
          cases turn with
          | givesUp => exact absurd rfl (hknown c _ rfl watcher)
          | sends => exact .inl rfl
          | ends =>
              have hsent := hs c _ rfl watcher (.inl rfl)
              exact hsent
          | _ => simp at told
  | takesHandle idle _ => exact hkeep idle (by simp)
  | findsNone idle _ => exact hkeep idle (by simp)
  | findsRunning checking _ _ => exact hkeep checking (by simp)
  | findsOver checking _ _ => exact hkeep checking (by simp)
  | asks terminating => exact hkeep terminating (by simp)
  | kills killing => exact hkeep killing (by simp)
  | isRefused signalling =>
      rcases signalling with terminating | killing
      · exact hkeep terminating (by simp)
      · exact hkeep killing (by simp)
  | timesOut receiving _ _ _ => exact hkeep receiving (by simp)
  | receives _ _ _ =>
      rintro _ w ⟨⟩ _ _
      exact .inr ⟨_, rfl⟩
  | joins _ _ _ => rintro c w ⟨⟩
  | failsToLaunch launching => exact hkeep launching (by simp)
  | launches _ => rintro _ w ⟨⟩ ⟨⟩
  | hires _ => rintro _ w ⟨⟩ ⟨⟩ (⟨⟨⟩⟩ | ⟨⟨⟩⟩)
  | lacksThread hiring => exact hkeep hiring (by simp)
  | handsOver _ => rintro _ w ⟨⟩ ⟨⟩ (⟨⟨⟩⟩ | ⟨⟨⟩⟩)
  | discards discarding => exact hkeep discarding (by simp)
  | cannotDiscard discarding => exact hkeep discarding (by simp)
  | reaps _ _ => rintro c w ⟨⟩

/-- After a run whose waits keep the status, a status that was sent is unread until the
caller joins the watcher. -/
theorem readable_run {options : SupervisorOptions} {events : List Event} {s : Supervision}
    (h : (new options).run events = some s) (hwaits : ∀ e ∈ events, e.keepsStatus = true) :
    ∃ past present, Orderly s past present ∧ Readable s present := by
  refine run_induction (P := fun events s => (∀ e ∈ events, e.keepsStatus = true) →
    ∃ past present, Orderly s past present ∧ Readable s present) ?_ ?_ h hwaits
  · exact fun _ => ⟨[], none, orderly_new options, by rintro c w ⟨⟩⟩
  · intro events t e t' hrun ih hstep hwaits
    have hwaits' : ∀ e ∈ events, e.keepsStatus = true :=
      fun e he => hwaits e (List.mem_append_left _ he)
    obtain ⟨past, present, horder, hreadable⟩ := ih hwaits'
    obtain ⟨past', present', way⟩ := horder.advance hstep
    refine ⟨past', present', way.orderly horder, way.readable hreadable ?_⟩
    rintro c w rfl watcher lost
    have htold := (chronicle_run hrun hwaits').told c (by simp [horder.children])
    exact (htold.known w none watcher (.inr lost)).1 rfl

/-- Between two calls the status of the engine that is held can be received once its watcher
has sent it. -/
theorem Readable.of_held {s : Supervision} {past : List Child} {present : Option Child}
    (h : Readable s present) (horder : Orderly s past present)
    (between : s.caller.isBetween = true) {pid : Pid} (held : s.handle = some pid) :
    ∃ w, s.watcher? pid = some w ∧ (w.unread = true ↔ w.stage = .sent ∨ w.stage = .ended) := by
  rcases horder.custody.of_between between with ⟨free, _⟩ | ⟨c, w, held', rfl, attended⟩
  · cases free.symm.trans held
  · obtain rfl := Option.some.inj (held.symm.trans held')
    rw [horder.watcher?_present]
    refine ⟨w, attended.watcher, attended.unread, fun told => ?_⟩
    refine (h c w rfl attended.watcher told).resolve_right ?_
    rintro ⟨after, joining⟩
    rw [joining] at between
    cases between

/-! ## What a failed call leaves behind -/

/-- No process is forgotten. -/
theorem Orderly.length_le_run {s t : Supervision} {past : List Child} {present : Option Child}
    (h : Orderly s past present) {events : List Event} (hrun : s.run events = some t) :
    s.children.length ≤ t.children.length := by
  induction events generalizing s past present with
  | nil =>
      obtain rfl := Option.some.inj hrun
      exact Nat.le_refl _
  | cons e rest ih =>
      obtain ⟨s', hstep, hrest⟩ := run_cons_eq_some.1 hrun
      obtain ⟨_, _, way⟩ := h.advance hstep
      obtain ⟨latest, _, change, hchildren, _⟩ := way.change h
      refine Nat.le_trans ?_ (ih (way.orderly h) hrest)
      rw [hchildren, h.children, List.length_append, List.length_append]
      exact Nat.add_le_add_left change.length_le _

theorem Orderly.exists_of_run {s t : Supervision} {past : List Child} {present : Option Child}
    (h : Orderly s past present) {events : List Event} (hrun : s.run events = some t) {c : Child}
    (hc : c ∈ s.children) : ∃ d ∈ t.children, d.pid = c.pid := by
  obtain ⟨_, _, ht⟩ := h.run hrun
  have hmem : c.pid ∈ s.children.map Child.pid := List.mem_map_of_mem hc
  rw [h.numbered, List.mem_range] at hmem
  have hpid : c.pid ∈ t.children.map Child.pid := by
    rw [ht.numbered, List.mem_range]
    exact Nat.lt_of_lt_of_le hmem (h.length_le_run hrun)
  exact List.mem_map.1 hpid

/-- In the background no process is launched. -/
theorem Orderly.length_eq_run {s t : Supervision} {past : List Child} {present : Option Child}
    (h : Orderly s past present) {events : List Event}
    (background : ∀ e ∈ events, e.isBackground = true) (hrun : s.run events = some t) :
    t.children.length = s.children.length := by
  induction events generalizing s past present with
  | nil =>
      obtain rfl := Option.some.inj hrun
      rfl
  | cons e rest ih =>
      obtain ⟨s', hstep, hrest⟩ := run_cons_eq_some.1 hrun
      obtain ⟨_, _, way⟩ := h.advance hstep
      have hbackground := background e List.mem_cons_self
      rw [ih (way.orderly h) (fun e he => background e (List.mem_cons_of_mem _ he)) hrest]
      cases way with
      | background _ => simp [h.children]
      | _ => cases hbackground

/-- What a call leaves behind when it fails, with what happens during the call. -/
structure FailureAtomic (s : Supervision) (call : Call) (during : List Event) (t : Supervision) :
    Prop where
  /-- A stop fails only because a signal is refused. -/
  stop : call = .stop → ∀ error, t.answer = .failed error → ∃ pid cause, error = .signal pid cause
  /-- A call that fails because a signal is refused has launched nothing, and the supervisor
  holds the same engine as before. -/
  refused : ∀ pid cause, t.answer = .failed (.signal pid cause) →
    s.handle = some pid ∧ t.handle = some pid ∧ t.children.length = s.children.length
  /-- But for the signals, all is as if the call had not been made. -/
  unchanged : ∀ pid cause, t.answer = .failed (.signal pid cause) →
    ∃ u, s.run (during.filter Event.isBackground) = some u ∧
      t = { u with signals := t.signals, answer := t.answer }
  /-- The status can still be received once it has been sent. -/
  readable : ∀ pid cause, t.answer = .failed (.signal pid cause) →
    ∃ w, t.watcher? pid = some w ∧ (w.unread = true ↔ w.stage = .sent ∨ w.stage = .ended)
  /-- A later stop that is refused no signal and returns succeeds, and leaves no handle. -/
  recovers : ∀ later u during' v, t.run later = some u →
    u.run (.call .stop :: during') = some v → (∀ e ∈ during', e.isCall = false) →
    (∀ e ∈ during', e.isRefusal = false) → v.caller = .idle → v.answer = .done ∧ v.handle = none
  /-- A call that fails without a refused signal has ended the engine that was held and
  waited for every process, and leaves no handle. -/
  ended : ∀ error, t.answer = .failed error → (∀ pid cause, error ≠ .signal pid cause) →
    t.handle = none ∧ t.unreaped = [] ∧ ∀ pid, s.handle = some pid →
      ∃ c ∈ t.children, c.pid = pid ∧ c.Settled
  /-- A stop that follows does nothing and succeeds. -/
  followed : ∀ error, t.answer = .failed error → (∀ pid cause, error ≠ .signal pid cause) →
    t.step (.call .stop) = some { t with answer := .done }
  /-- A restart does what a start does, and a start what a restart does. -/
  restart : call = .start ∨ call = .restart →
    s.run (.call .start :: during) = some t ∧ s.run (.call .restart :: during) = some t
  /-- This is so whatever happens during the call, also when it does not return. -/
  restarting : ∀ during', (∀ e ∈ during', e.isCall = false) →
    s.run (.call .start :: during') = (s.run (.call .restart :: during')).map asStart

/-- No call leaves more behind when it fails, if no wait loses a status. -/
theorem run_failureAtomic {options : SupervisorOptions} {events : List Event} {s : Supervision}
    (h : (new options).run events = some s) {call : Call} {during : List Event} {t : Supervision}
    (hrun : s.run (.call call :: during) = some t) (hcalls : ∀ e ∈ during, e.isCall = false)
    (hwaits : ∀ e ∈ events ++ .call call :: during, e.keepsStatus = true)
    (returned : t.caller = .idle) : FailureAtomic s call during t := by
  obtain ⟨past, present, horder⟩ := orderly_run h
  have ht : (new options).run (events ++ .call call :: during) = some t := by
    rw [run_append, h, Option.bind_some, hrun]
  obtain ⟨pastt, presentt, hordert, hreadable⟩ := readable_run ht hwaits
  have between : t.caller.isBetween = true := by rw [returned]; rfl
  have hanswered := hordert.answered between
  have hended {error : EngineError} (failed : t.answer = .failed error)
      (hsignal : ∀ pid cause, error ≠ .signal pid cause) : t.handle = none := by
    rw [hanswered, failed]
    cases error with
    | signal pid cause => exact absurd rfl (hsignal pid cause)
    | _ => rfl
  refine
    { stop := ?_
      refused := ?_
      unchanged := fun pid cause failed =>
        (horder.unchanged_of_refusal hrun hcalls returned failed).2
      readable := ?_
      recovers := ?_
      ended := ?_
      followed := ?_
      restart := ?_
      restarting := fun _ hcalls' => horder.run_restart hcalls' }
  · rintro rfl
    exact horder.answer_of_stop (P := fun answer => ∀ error, answer = .failed error →
        ∃ pid cause, error = .signal pid cause) (.inl rfl) hrun (fun _ => hcalls) (by simp)
      (fun _ _ _ pid cause error failed => ⟨pid, cause, (CallAnswer.failed.inj failed).symm⟩)
      between
  · intro pid cause failed
    obtain ⟨held, u, hu, ht⟩ := horder.unchanged_of_refusal hrun hcalls returned failed
    refine ⟨held, by rw [hanswered, failed]; rfl, ?_⟩
    rw [← horder.length_eq_run (fun e he => (List.mem_filter.1 he).2) hu, ht]
  · intro pid cause failed
    exact hreadable.of_held hordert between (by rw [hanswered, failed]; rfl)
  · intro later u during' v hlater hstop hcalls' hrefusals hover
    obtain ⟨_, _, horderu⟩ := hordert.run hlater
    exact horderu.done_of_stop (.inl rfl) hstop (fun _ => hcalls') hrefusals (by rw [hover]; rfl)
  · intro error failed hsignal
    have free := hended failed hsignal
    obtain rfl := hordert.custody.eq_none between free
    refine ⟨free, by rw [hordert.unreaped_eq]; rfl, fun pid held => ?_⟩
    -- The engine that was held is among the processes, and nothing is left of any of them.
    have hcustody := horder.custody
    rw [held] at hcustody
    cases hcustody with
    | @held _ c _ _ _ =>
        have hmem : c ∈ s.children := by simp [horder.children]
        obtain ⟨d, hd, hpid⟩ := horder.exists_of_run hrun hmem
        exact ⟨d, hd, hpid, hordert.settled d (by simpa [hordert.children] using hd)⟩
  · intro error failed hsignal
    have hstop : t.stopped .finish = { t with answer := .done } := by
      simp only [stopped, finish]
      rw [← returned]
    rw [step, if_pos returned, begin_eq, beginStop_of_none (hended failed hsignal)]
    exact congrArg some hstop
  · intro hcall
    have hiff := horder.run_restart_iff (t := t) hcalls between
    rcases hcall with rfl | rfl
    · exact ⟨hrun, hiff.2 hrun⟩
    · exact ⟨hiff.1 hrun, hrun⟩

/-- The engine ends only when the caller has lost patience with it and may not kill it. -/
def lateRefusal : List Event :=
  [.readFlag, .signalled (.ok ()), .timedOut, .exits 0 (.code 3), .watcher 0 true, .watcher 0 true,
    .watcher 0 true, .watcher 0 true, .signalled (.error "not permitted")]

/-- The stop that is refused its second signal leaves the status of the engine unread, as it
is without the stop. -/
theorem run_failureAtomic_lateRefusal :
    ∃ s t u, (new impatient).run (mishaps.take 5) = some s ∧
      s.run (.call .stop :: lateRefusal) = some t ∧ t.caller = .idle ∧
      (∀ e ∈ lateRefusal, e.isCall = false) ∧
      (∀ e ∈ mishaps.take 5 ++ .call .stop :: lateRefusal, e.keepsStatus = true) ∧
      t.answer = .failed (.signal 0 "not permitted") ∧ t.handle = some 0 ∧
      t.watcher? 0 = some ⟨.sent, true⟩ ∧ s.run (lateRefusal.filter Event.isBackground) = some u ∧
      t = { u with signals := t.signals, answer := t.answer } := by
  have hs : (new impatient).run (mishaps.take 5) = some _ := rfl
  have ht : (new impatient).run (mishaps.take 5 ++ .call .stop :: lateRefusal) = some _ := rfl
  have hcall := ht
  rw [run_append, hs, Option.bind_some] at hcall
  have hatomic := run_failureAtomic hs hcall (by decide) (by decide) rfl
  obtain ⟨u, hu, hsame⟩ := hatomic.unchanged 0 "not permitted" rfl
  have hheld := (hatomic.refused 0 "not permitted" rfl).2.1
  exact ⟨_, _, u, hs, hcall, rfl, by decide, by decide, rfl, hheld, rfl, hu, hsame⟩

end Supervision
end ProxyControl
