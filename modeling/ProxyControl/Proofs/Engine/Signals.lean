import ProxyControl.Proofs.Engine.Background
import ProxyControl.Proofs.Engine.OneEngine

/-!
# Signals to engines

A stop asks its engine to terminate if the running flag is up, and kills it if no status
comes in time.  The system sends the signal to whatever process has the number of the engine
at that moment, and the number is free as soon as the watcher has waited for the engine.
Neither the flag nor the missing status rules that out: the watcher lowers the flag and sends
the status later than its wait returns, and it may go on between the decision and the signal.

Main results:

- Relation `Decides`: what a stop has seen when it decides to send a signal.
- Theorem `run_decided`: since that moment only processes and watchers have gone on.
- Theorem `run_signal_toReaped`: when a signal goes to an engine that has been waited for.
- Theorem `not_toUnreaped`: both kinds of signals may.
-/

namespace ProxyControl

/-- The signal that a stop is about to send. -/
def Caller.request? : Caller → Option (Pid × Termination)
  | terminating pid _ => some (pid, .graceful)
  | killing pid _ => some (pid, .forced)
  | _ => none

/-! ## Watchers behind the caller's back -/

/-- A process that a watcher has stays with it.  A wait that is over stays over, and only the
watcher's own steps change the watcher. -/
theorem Child.AttendedBy.keeps {c c' : Child} {w : Watcher} {e : Supervision.Event}
    {rs : List ExitRecord} (h : c.AttendedBy w) (move : c.Move e c' rs) :
    ∃ w', c'.AttendedBy w' ∧ (w.stage.isWaitOver = true → w'.stage.isWaitOver = true) ∧
      (w' = w ∨ ∃ known, e = .watcher c.pid known) := by
  obtain ⟨w', attended, _⟩ := h.move move
  refine ⟨w', attended, ?_, ?_⟩
  · intro hover
    cases move with
    | exits running => cases running.symm.trans (h.reaped.2 hover)
    | wakes _ exited => cases exited.symm.trans (h.reaped.2 hover)
    | turns _ _ => exact attended.reaped.1 (h.reaped.2 hover)
  · cases move with
    | exits _ => exact .inl (Option.some.inj (attended.watcher.symm.trans h.watcher))
    | wakes _ _ => exact .inr ⟨_, rfl⟩
    | turns _ _ => exact .inr ⟨_, rfl⟩

namespace Supervision

/-- The same holds over a run of processes and watchers. -/
theorem Orderly.keeps_attended {s t : Supervision} {past : List Child} {c : Child} {w : Watcher}
    (h : Orderly s past (some c)) (attended : c.AttendedBy w) {events : List Event}
    (background : ∀ e ∈ events, e.isBackground = true) (hrun : s.run events = some t) :
    ∃ c' w', Orderly t past (some c') ∧ c'.pid = c.pid ∧ c'.AttendedBy w' ∧
      (w.stage.isWaitOver = true → w'.stage.isWaitOver = true) ∧
      (w' = w ∨ ∃ known, .watcher c.pid known ∈ events) := by
  induction events generalizing s c w with
  | nil =>
      obtain rfl := Option.some.inj hrun
      exact ⟨c, w, h, rfl, attended, id, .inl rfl⟩
  | cons e rest ih =>
      obtain ⟨s', hstep, hrest⟩ := run_cons_eq_some.1 hrun
      obtain ⟨_, _, way⟩ := h.advance hstep
      have horder := way.orderly h
      have hback := background e List.mem_cons_self
      cases way with
      | background move =>
          obtain ⟨w₁, attended₁, hover₁, hown₁⟩ := attended.keeps move
          obtain ⟨c', w', horder', hpid, attended', hover', hown'⟩ :=
            ih horder attended₁ (fun e he => background e (List.mem_cons_of_mem _ he)) hrest
          rw [move.pid_eq] at hpid hown'
          refine ⟨c', w', horder', hpid, attended', fun hover => hover' (hover₁ hover), ?_⟩
          rcases hown' with rfl | ⟨known, hmem⟩
          · rcases hown₁ with rfl | ⟨known, rfl⟩
            · exact .inl rfl
            · exact .inr ⟨known, List.mem_cons_self⟩
          · exact .inr ⟨known, List.mem_cons_of_mem _ hmem⟩
      | _ => cases hback

/-! ## Decisions -/

/-- What a stop has seen of the engine's watcher when it decides to send a signal. -/
inductive Decides (w : Watcher) : Event → Termination → Prop
  /-- The running flag is up. -/
  | raised (up : w.flag = true) : Decides w .readFlag .graceful
  /-- No status has come in time. -/
  | late (empty : w.canReceive = false) : Decides w .timedOut .forced

/-- Looking at the watcher leaves the processes as they are. -/
theorem Orderly.step_decision {s t : Supervision} {past : List Child} {c : Child} {w : Watcher}
    {e : Event} {how : Termination} (h : Orderly s past (some c)) (decides : Decides w e how)
    (hstep : s.step e = some t) : Orderly t past (some c) := by
  obtain ⟨_, _, way⟩ := h.advance hstep
  have horder := way.orderly h
  cases decides with
  | raised _ =>
      cases way with
      | background move => cases move.isBackground
      | findsRunning _ _ _ => exact horder
      | findsOver _ _ _ => exact horder
  | late _ =>
      cases way with
      | background move => cases move.isBackground
      | timesOut _ _ _ _ => exact horder

/-- The caller is about to send a signal because it has just decided so, or because it has been
about to and a process or a watcher has made a step. -/
theorem Advance.decides {s s' : Supervision} {past past' : List Child}
    {present present' : Option Child} {e : Event} {pid : Pid} {how : Termination}
    (way : Advance s past present e s' past' present') (h : Orderly s past present)
    (request : s'.caller.request? = some (pid, how)) :
    (e.isBackground = true ∧ s.caller.request? = some (pid, how)) ∨
      ∃ after w, s.caller.stop? = some (pid, after) ∧ s.watcher? pid = some w ∧
        Decides w e how := by
  cases way with
  | background move => exact .inl ⟨move.isBackground, request⟩
  | @findsRunning _ _ after checking watcher raised =>
      obtain ⟨rfl, rfl⟩ := Prod.mk.inj (Option.some.inj request)
      exact .inr ⟨after, _, by rw [checking]; rfl, h.watcher?_present.trans watcher, .raised raised⟩
  | @timesOut _ _ after receiving watcher _ empty =>
      obtain ⟨rfl, rfl⟩ := Prod.mk.inj (Option.some.inj request)
      exact .inr ⟨after, _, by rw [receiving]; rfl, h.watcher?_present.trans watcher, .late empty⟩
  | @findsNone call _ _ => cases hafter : call.after <;> rw [hafter] at request <;> cases request
  | @joins _ _ after _ _ _ => cases after <;> cases request
  | isRefused _ =>
      simp only [failStop] at request
      split at request <;> cases request
  | _ => cases request

/-- The stop decided to send the signal when it had looked at a watcher, and since then only
processes and watchers have gone on. -/
structure Decided (options : SupervisorOptions) (events : List Event) (pid : Pid)
    (how : Termination) (before : List Event) (decision : Event) (during : List Event)
    (u : Supervision) (w : Watcher) : Prop where
  split : events = before ++ decision :: during
  run : (new options).run before = some u
  stop : ∃ after, u.caller.stop? = some (pid, after)
  watcher : u.watcher? pid = some w
  decides : Decides w decision how
  background : ∀ e ∈ during, e.isBackground = true

/-- A stop that is about to send a signal has decided to. -/
theorem run_decided {options : SupervisorOptions} {events : List Event} {s : Supervision}
    (h : (new options).run events = some s) {pid : Pid} {how : Termination}
    (request : s.caller.request? = some (pid, how)) :
    ∃ before decision during u w,
      Decided options events pid how before decision during u w := by
  revert request
  refine run_induction (P := fun events s => s.caller.request? = some (pid, how) →
    ∃ before decision during u w,
      Decided options events pid how before decision during u w) ?nil ?snoc h
  case nil =>
    intro request
    cases request
  case snoc =>
    intro events t e t' hrun ih hstep request
    obtain ⟨past, present, horder⟩ := orderly_run hrun
    obtain ⟨_, _, way⟩ := horder.advance hstep
    rcases way.decides horder request with ⟨hback, request'⟩ | ⟨after, w, stop, watcher, decides⟩
    · obtain ⟨before, decision, during, u, w, decided⟩ := ih request'
      have hduring : ∀ e' ∈ during ++ [e], e'.isBackground = true := by
        intro e' he'
        rcases List.mem_append.1 he' with he' | he'
        · exact decided.background e' he'
        · rwa [List.mem_singleton.1 he']
      have hsplit : events ++ [e] = before ++ decision :: (during ++ [e]) := by
        rw [decided.split, List.append_assoc, List.cons_append]
      exact ⟨before, decision, during ++ [e], u, w, { decided with
        split := hsplit
        background := hduring }⟩
    · exact ⟨events, e, [], t, w, rfl, hrun, ⟨after, stop⟩, watcher, decides, by simp⟩

/-! ## Signals -/

/-- The caller sends the signal that it is about to send. -/
theorem Orderly.step_signalled {s t : Supervision} {past : List Child} {c : Child} {w : Watcher}
    {how : Termination} (h : Orderly s past (some c)) (attended : c.AttendedBy w)
    (request : s.caller.request? = some (c.pid, how))
    (hstep : s.step (.signalled (.ok ())) = some t) :
    t.signals = ⟨c.pid, how, w.stage.isWaitOver⟩ :: s.signals := by
  have hreaped : decide (c.state = .reaped) = w.stage.isWaitOver := by
    rw [Bool.eq_iff_iff, decide_eq_true_eq]
    exact attended.reaped
  obtain ⟨_, _, way⟩ := h.advance hstep
  cases way with
  | background move => cases move.isBackground
  | asks terminating =>
      rw [terminating] at request
      obtain ⟨_, rfl⟩ := Prod.mk.inj (Option.some.inj request)
      simp [send, h.child?_present, hreaped]
  | kills killing =>
      rw [killing] at request
      obtain ⟨_, rfl⟩ := Prod.mk.inj (Option.some.inj request)
      simp [send, h.child?_present, hreaped]
  | discards discarding =>
      rw [discarding] at request
      cases request

/-- A signal of a stop goes to the engine of the stop, and nothing is left to happen to any
other process.  The engine has been waited for if its watcher's wait was over when the stop
decided to send the signal, and otherwise only if the watcher has made a step since. -/
theorem run_signal_toReaped {options : SupervisorOptions} {events : List Event}
    {s t : Supervision} (h : (new options).run events = some s) {pid : Pid} {how : Termination}
    (request : s.caller.request? = some (pid, how))
    (hstep : s.step (.signalled (.ok ())) = some t) :
    ∃ toReaped, t.signals = ⟨pid, how, toReaped⟩ :: s.signals ∧
      (∀ c ∈ s.children, c.pid ≠ pid → c.Settled) ∧
      ∃ before decision during u w,
        Decided options events pid how before decision during u w ∧
        (w.stage.isWaitOver = true → toReaped = true) ∧
        (toReaped = true → w.stage.isWaitOver = true ∨ ∃ known, .watcher pid known ∈ during) := by
  obtain ⟨before, decision, during, u, w, decided⟩ := run_decided h request
  obtain ⟨after, stop⟩ := decided.stop
  -- When the stop decided, its engine was the present process and had the watcher that it saw.
  obtain ⟨past, _, horder⟩ := orderly_run decided.run
  obtain ⟨_, c, v, rfl, rfl, attended, _⟩ := horder.custody.of_stop stop
  obtain rfl : w = v := by
    have hwatcher := decided.watcher
    rw [horder.watcher?_present, attended.watcher] at hwatcher
    exact (Option.some.inj hwatcher).symm
  have hrest : u.run (decision :: during) = some s := by
    rw [decided.split, run_append, decided.run, Option.bind_some] at h
    exact h
  obtain ⟨u', hdecision, hduring⟩ := run_cons_eq_some.1 hrest
  obtain ⟨c', w', horder', hpid, attended', hover, hown⟩ :=
    (horder.step_decision decided.decides hdecision).keeps_attended attended decided.background
      hduring
  rw [← hpid] at request
  have hsignals := horder'.step_signalled attended' request hstep
  rw [hpid] at hsignals
  refine ⟨w'.stage.isWaitOver, hsignals, ?_, before, decision, during, u, w, decided, hover, ?_⟩
  · intro d hd hne
    rw [horder'.children] at hd
    rcases List.mem_append.1 hd with hpast | hpresent
    · exact horder'.settled d hpast
    · obtain rfl : d = c' := by simpa using hpresent
      exact absurd hpid hne
  · intro hreaped
    rcases hown with rfl | hstepped
    · exact .inl hreaped
    · exact .inr hstepped

/-- A stop finds the flag up.  Before it asks the engine to terminate, the engine ends and its
watcher waits for it. -/
def overtaken : List Event :=
  [.call .start, .spawned (.ok ()), .threadStarted (.ok ()), .handedOver, .watcher 0 true,
    .call .stop, .readFlag, .exits 0 (.code 3), .watcher 0 true]

/-- The signal goes to an engine that has been waited for, since its watcher has made a step
after the stop had looked at the flag. -/
theorem run_signal_toReaped_overtaken :
    ∃ s t, (new impatient).run overtaken = some s ∧ s.caller.request? = some (0, .graceful) ∧
      s.step (.signalled (.ok ())) = some t ∧ t.signals = [⟨0, .graceful, true⟩] ∧
      ∃ before decision during u w,
        Decided impatient overtaken 0 .graceful before decision during u w ∧
        (w.stage.isWaitOver = true ∨ ∃ known, .watcher 0 known ∈ during) := by
  have hs : (new impatient).run overtaken = some _ := rfl
  have ht : (new impatient).run (overtaken ++ [.signalled (.ok ())]) = some _ := rfl
  have hstep := ht
  rw [run_append, hs, Option.bind_some, run_cons_eq_some] at hstep
  obtain ⟨t, hstep, hlast⟩ := hstep
  obtain rfl := Option.some.inj hlast
  obtain ⟨toReaped, hsignals, _, before, decision, during, u, w, decided, _, hown⟩ :=
    run_signal_toReaped hs rfl hstep
  obtain rfl : true = toReaped := by
    cases hsignals
    rfl
  exact ⟨_, _, hs, rfl, hstep, rfl, before, decision, during, u, w, decided, hown rfl⟩

/-- All signals of a kind that stops send go to engines that have not been waited for. -/
def ToUnreaped (how : Termination) : Prop :=
  ∀ (options : SupervisorOptions) (events : List Event) (s t : Supervision) (pid : Pid),
    (new options).run events = some s → s.caller.request? = some (pid, how) →
    s.step (.signalled (.ok ())) = some t → t.signals = ⟨pid, how, false⟩ :: s.signals

/-- An engine that has been waited for may be asked to terminate, and it may be killed. -/
theorem not_toUnreaped : ¬ ToUnreaped .graceful ∧ ¬ ToUnreaped .forced := by
  constructor
  · intro hall
    have hsignals := hall impatient overtaken _ _ 0 rfl rfl rfl
    cases hsignals
  · intro hall
    have hsignals :=
      hall impatient (overtaken ++ [.signalled (.ok ()), .timedOut]) _ _ 0 rfl rfl rfl
    cases hsignals

end Supervision
end ProxyControl
