import ProxyControl.Proofs.Controller.EnginePort
import ProxyControl.Proofs.Engine.Answers

/-!
# What a run leaves behind

A run that has started the engine asks the supervisor to stop it before it returns, on every
way out.  The system proxy is switched off before that, unless the run is broken off because
interrupts cannot be listened for.

Main results:

- Theorem `EngineRun.watch_eq_some_iff`: what ends the watch is the first wakeup that is not a
  tick of a running engine.
- Theorem `Supervision.held_of_calls`: the call after a successful start finds the engine held.
- Theorem `EngineRun.run_cleansUp`: what a run has done before it asks for the stop, and what the
  stop finds.
- Theorem `EngineRun.not_cleansUp`: the system proxy may be left pointed at the engine.
-/

namespace ProxyControl

namespace Supervision

/-! ## Calls of a supervision -/

/-- The call that begins with an event. -/
def Event.call? : Event → Option Call
  | .call c => some c
  | _ => none

/-- An event that makes a call is the beginning of that call. -/
theorem Event.eq_call_of_call? {e : Event} {c : Call} (h : e.call? = some c) : e = .call c := by
  cases e with
  | call c' => rw [Option.some.inj h]
  | _ => cases h

/-- An event that makes no call is not the beginning of one. -/
theorem Event.isCall_of_call? {e : Event} (h : e.call? = none) : e.isCall = false := by
  cases e with
  | call c => cases h
  | _ => rfl

/-- A call begins only when the one before it has been answered. -/
theorem idle_of_step_call {s s' : Supervision} {c : Call} (h : s.step (.call c) = some s') :
    s.caller = .idle := by
  by_contra busy
  rw [step, if_neg busy] at h
  cases h

/-- The call after a start that has succeeded finds the engine held. -/
theorem held_of_calls {options : SupervisorOptions} {events : List Event} {t : Supervision}
    {call : Call} {calls : List Call} {pid : Pid} (hrun : (new options).run events = some t)
    (hcalls : events.filterMap Event.call? = .start :: call :: calls)
    (hstarted : ((new options).answers events).head? = some (.started pid)) :
    ∃ first later s, events = first ++ .call call :: later ∧ (new options).run first = some s ∧
      s.caller = .idle ∧ s.handle = some pid := by
  obtain ⟨quiet, e, rest, rfl, hquiet, he, hrest⟩ := List.filterMap_eq_cons_iff.1 hcalls
  obtain ⟨during, e', later, rfl, hduring, he', -⟩ := List.filterMap_eq_cons_iff.1 hrest
  obtain rfl := Event.eq_call_of_call? he
  obtain rfl := Event.eq_call_of_call? he'
  -- Before the start nothing can happen.
  obtain ⟨s₀, hrun₀, hrun⟩ := Option.bind_eq_some_iff.1 ((run_append _ _ _).symm.trans hrun)
  obtain ⟨hsilent, hidle, -, hfree⟩ : (new options).answers quiet = [] ∧ s₀.caller = .idle ∧
      s₀.answer = .done ∧ s₀.handle = none :=
    (orderly_new options).answers_of_between rfl
      (fun e he => Event.isCall_of_call? (hquiet e he)) hrun₀
  obtain ⟨_, _, horder₀⟩ := orderly_run hrun₀
  -- The start is going on until it answers.
  obtain ⟨s₁, hstep, hrun⟩ := run_cons_eq_some.1 hrun
  have hbegun : s₁ = { s₀ with caller := .launching } := by
    rw [step, if_pos hidle, begin_eq, beginStop_of_none hfree] at hstep
    exact (Option.some.inj hstep).symm
  obtain ⟨_, _, way⟩ := horder₀.advance hstep
  obtain ⟨s₂, hrun₂, hrun⟩ := Option.bind_eq_some_iff.1 ((run_append _ _ _).symm.trans hrun)
  obtain ⟨s₃, hstep', -⟩ := run_cons_eq_some.1 hrun
  have hidle₂ := idle_of_step_call hstep'
  have hanswers := (way.orderly horder₀).answers_during (by rw [hbegun]; rfl)
    (fun e he => Event.isCall_of_call? (hduring e he)) hrun₂
  have hfirst : (new options).run (quiet ++ .call .start :: during) = some s₂ := by
    rw [run_append, hrun₀, Option.bind_some, run_cons_of_step hstep, hrun₂]
  obtain ⟨_, _, horder₂⟩ := orderly_run hfirst
  refine ⟨quiet ++ .call .start :: during, later, s₂, by simp, hfirst, hidle₂, ?_⟩
  rw [answers_append hrun₀, hsilent, List.nil_append, answers_cons hstep, answers_append hrun₂,
    hanswers, hidle₂, reply?, hbegun] at hstarted
  have hanswer : s₂.answer = .started pid := by simpa [Caller.isBetween] using hstarted
  rw [horder₂.answered (by rw [hidle₂]; rfl), hanswer]
  rfl

end Supervision

namespace Controller

/-! ## Actions of a run -/

namespace RunAction

/-- The call of the supervisor that an action makes. -/
def call? : RunAction → Option Call
  | start _ => some .start
  | stop => some .stop
  | giveUp => some .drop
  | _ => none

/-- The call that asks the engine to stop. -/
def request? : RunAction → Option Call
  | stop => some .stop
  | giveUp => some .drop
  | _ => none

end RunAction

namespace EngineRun

variable {o : RunOptions} {w : Surroundings} {pid : Pid}

/-- What a run has done before it asks the engine to stop. -/
def untilStop (r : EngineRun) : List RunAction :=
  r.actions.takeWhile fun a => a.request?.isNone

/-- The calls of a run are made to a new supervisor, which starts the engine if the run does. -/
structure SupervisedBy (r : EngineRun) (options : SupervisorOptions)
    (events : List Supervision.Event) : Prop where
  happens : ∃ t, (Supervision.new options).run events = some t
  calls : events.filterMap Supervision.Event.call? = r.actions.filterMap RunAction.call?
  started : ((Supervision.new options).answers events).head? = r.engine.map .started

/-- What ends the watch, unless it is a tick of a running engine. -/
def endOf? : Wakeup → Option WatchEnd
  | .tick true _ => none
  | .tick false record => some (.exited record)
  | .interrupt => some .interrupted
  | .cannotListen cause => some (.cannotListen cause)

/-- Only a failure to listen for interrupts ends the watch as one. -/
theorem endOf?_eq_cannotListen {wakeup : Wakeup} {cause : String}
    (h : endOf? wakeup = some (.cannotListen cause)) : wakeup = .cannotListen cause := by
  cases wakeup with
  | tick running record => cases running <;> cases h
  | interrupt => cases h
  | cannotListen cause' =>
      cases h
      rfl

/-- The watch ends with the first wakeup that ends it. -/
theorem watch_cons (wakeup : Wakeup) (rest : List Wakeup) :
    watch (wakeup :: rest) = (endOf? wakeup).or (watch rest) := by
  cases wakeup with
  | tick running record => cases running <;> rfl
  | interrupt => rfl
  | cannotListen cause => rfl

/-- The first wakeup that ends the watch decides how it ends. -/
theorem watch_eq_some_iff {wakeups : List Wakeup} {watched : WatchEnd} :
    watch wakeups = some watched ↔ ∃ ticks last rest, wakeups = ticks ++ last :: rest ∧
      (∀ wakeup ∈ ticks, endOf? wakeup = none) ∧ endOf? last = some watched := by
  have hwatch : watch wakeups = wakeups.findSome? endOf? := by
    induction wakeups with
    | nil => rfl
    | cons wakeup rest ih =>
        rw [watch_cons, List.findSome?_cons, ih]
        cases endOf? wakeup <;> rfl
  rw [hwatch, List.findSome?_eq_some_iff]
  constructor
  · rintro ⟨ticks, last, rest, hsplit, hlast, hticks⟩
    exact ⟨ticks, last, rest, hsplit, hticks, hlast⟩
  · rintro ⟨ticks, last, rest, hsplit, hticks, hlast⟩
    exact ⟨ticks, last, rest, hsplit, hlast, hticks⟩

/-! ## The way to the stop -/

/-- What lies between the end of the watch and the stop. -/
def switchOff (o : RunOptions) (w : Surroundings) : WatchEnd → List RunAction
  | .cannotListen _ => []
  | watched => ending watched ++ synchronize o 0 "Failed to reset system proxy" w.switchingOff

/-- The requests to stop. -/
def requests : WatchEnd → List RunAction
  | .cannotListen _ => [.giveUp]
  | _ => [.stop, .giveUp]

/-- A run that is not broken off switches the system proxy off. -/
theorem switchOff_of_listening {watched : WatchEnd} (o : RunOptions) (w : Surroundings)
    (listening : ∀ cause, watched ≠ .cannotListen cause) :
    switchOff o w watched =
      ending watched ++ synchronize o 0 "Failed to reset system proxy" w.switchingOff := by
  cases watched with
  | cannotListen cause => exact absurd rfl (listening cause)
  | interrupted => rfl
  | exited record => rfl

/-- After the watch the system proxy is switched off, and then the engine is asked to stop. -/
theorem closing_eq (o : RunOptions) (w : Surroundings) (watched : WatchEnd) :
    closing o w watched = switchOff o w watched ++ requests watched := by
  cases watched <;> rfl

/-- Notes about a synchronization are nothing but notes. -/
theorem exists_note_of_mem_syncNotes {complaint : String} {answer : Except SyncError SyncReport}
    {a : RunAction} (h : a ∈ syncNotes complaint answer) : ∃ entry, a = .note entry := by
  cases answer with
  | ok report =>
      obtain ⟨outcome, -, hnote⟩ := List.mem_filterMap.1 h
      obtain ⟨e, -, rfl⟩ := Option.map_eq_some_iff.1 hnote
      exact ⟨_, rfl⟩
  | error e =>
      obtain rfl := List.mem_singleton.1 h
      exact ⟨_, rfl⟩

/-- The end of the watch is only noted. -/
theorem exists_note_of_mem_ending {watched : WatchEnd} {a : RunAction} (h : a ∈ ending watched) :
    ∃ entry, a = .note entry := by
  rcases watched with _ | (_ | record) | cause
  · exact ⟨_, List.mem_singleton.1 h⟩
  · exact ⟨_, List.mem_singleton.1 h⟩
  · exact ⟨_, List.mem_singleton.1 h⟩
  · cases h

/-- What does not concern notes does not concern a list of notes. -/
theorem filterMap_of_notes {α : Type} {f : RunAction → Option α}
    (hf : ∀ entry, f (.note entry) = none) {actions : List RunAction}
    (h : ∀ a ∈ actions, ∃ entry, a = .note entry) :
    actions.filterMap f = [] := by
  rw [List.filterMap_eq_nil_iff]
  intro a ha
  obtain ⟨entry, rfl⟩ := h a ha
  exact hf entry

/-- Of a synchronization only the run itself is more than a note, and it is left out unless it was
asked for. -/
theorem filterMap_synchronize {α : Type} {f : RunAction → Option α}
    (hf : ∀ entry, f (.note entry) = none) (port : UInt16) (complaint : String)
    (answer : Except SyncError SyncReport) :
    (synchronize o port complaint answer).filterMap f =
      if o.systemProxy then (f (.synchronize port)).toList else [] := by
  have hnotes : (syncNotes complaint answer).filterMap f = [] :=
    filterMap_of_notes hf fun a ha => exists_note_of_mem_syncNotes ha
  rw [synchronize]
  split
  · rw [List.filterMap_cons, hnotes]
    cases f (.synchronize port) <;> rfl
  · rfl

/-- What the actions between the watch and the stop give, if notes give nothing. -/
theorem filterMap_switchOff {α : Type} {f : RunAction → Option α}
    (hf : ∀ entry, f (.note entry) = none) (o : RunOptions) (w : Surroundings)
    {watched : WatchEnd} (listening : ∀ cause, watched ≠ .cannotListen cause) :
    (switchOff o w watched).filterMap f =
      if o.systemProxy then (f (.synchronize 0)).toList else [] := by
  have hending : (ending watched).filterMap f = [] :=
    filterMap_of_notes hf fun a ha => exists_note_of_mem_ending ha
  rw [switchOff_of_listening o w listening, List.filterMap_append, hending, List.nil_append,
    filterMap_synchronize hf]

/-- Before the watch a run starts the engine and points the system proxy at it if it was asked to.
-/
theorem filterMap_opening {α : Type} {f : RunAction → Option α}
    (hf : ∀ entry, f (.note entry) = none) (o : RunOptions) (w : Surroundings) (pid : Pid) :
    (opening o w pid).filterMap f = (f (.start (command o w))).toList ++
      if o.systemProxy then (f (.synchronize (port w))).toList else [] := by
  rw [opening, List.filterMap_append, filterMap_synchronize hf]
  cases hstart : f (.start (command o w)) <;> simp [hf, hstart]

/-- Nothing is left of the way to the stop if a synchronization gives nothing either. -/
theorem filterMap_switchOff_eq_nil {α : Type} {f : RunAction → Option α}
    (hf : ∀ entry, f (.note entry) = none) (hsync : f (.synchronize 0) = none) (o : RunOptions)
    (w : Surroundings) (watched : WatchEnd) : (switchOff o w watched).filterMap f = [] := by
  by_cases listening : ∀ cause, watched ≠ .cannotListen cause
  · rw [filterMap_switchOff hf o w listening, hsync]
    exact ite_self _
  · obtain ⟨cause, rfl⟩ : ∃ cause, watched = .cannotListen cause := by simpa using listening
    rfl

/-- Nothing asks the engine to stop before the requests do. -/
theorem request?_eq_none {watched : WatchEnd} {a : RunAction}
    (h : a ∈ opening o w pid ++ switchOff o w watched) : a.request? = none := by
  suffices hnone : (opening o w pid ++ switchOff o w watched).filterMap RunAction.request? = [] from
    List.filterMap_eq_nil_iff.1 hnone a h
  rw [List.filterMap_append, filterMap_opening fun _ => rfl,
    filterMap_switchOff_eq_nil (fun _ => rfl) rfl]
  cases o.systemProxy <;> rfl

/-- Before the requests to stop the supervisor is called once, for the start. -/
theorem filterMap_call? (o : RunOptions) (w : Surroundings) (pid : Pid) (watched : WatchEnd) :
    (opening o w pid ++ switchOff o w watched).filterMap RunAction.call? = [.start] := by
  rw [List.filterMap_append, filterMap_opening fun _ => rfl,
    filterMap_switchOff_eq_nil (fun _ => rfl) rfl]
  cases o.systemProxy <;> rfl

/-- Only a run that is broken off fails for want of interrupts. -/
theorem resultOf_eq_listening_iff {watched : WatchEnd} {cause : String} :
    resultOf w watched = .error (.listening cause) ↔ watched = .cannotListen cause := by
  cases watched with
  | cannotListen cause' => simp [resultOf]
  | interrupted => cases hstop : w.stop <;> simp [resultOf, hstop, Except.mapError]
  | exited record => cases hstop : w.stop <;> simp [resultOf, hstop, Except.mapError]

/-- The actions of a run that returns, up to the stop and from there on. -/
theorem actions_of_watch {watched : WatchEnd} (hstart : w.start = .ok pid)
    (hwatch : watch w.wakeups = some watched) :
    (run o w).actions = opening o w pid ++ switchOff o w watched ++ requests watched := by
  simp only [run, hstart, hwatch, closing_eq, List.append_assoc]

/-- When the watch is over, what comes before the stop is the opening and what lies between. -/
theorem untilStop_of_watch {watched : WatchEnd} (hstart : w.start = .ok pid)
    (hwatch : watch w.wakeups = some watched) :
    untilStop (run o w) = opening o w pid ++ switchOff o w watched := by
  have hrequests : (requests watched).takeWhile (fun a => a.request?.isNone) = [] := by
    cases watched <;> rfl
  rw [untilStop, actions_of_watch hstart hwatch,
    List.takeWhile_append_of_pos fun a ha => by rw [request?_eq_none ha]; rfl, hrequests,
    List.append_nil]

/-! ## Clean-up -/

/-- A run that has started the engine and returns has asked the supervisor to stop it.  If it was
asked to, it has pointed the system proxy at the engine and switched it off again before that, in
this order, unless interrupts could not be listened for; nothing synchronizes the system proxy
later.  The first request to stop finds the engine held and takes the handle. -/
theorem run_cleansUp {result : Except Failure Unit} (hstart : w.start = .ok pid)
    (hreturns : (run o w).result = some result) :
    ∃ call, (run o w).actions.findSome? RunAction.request? = some call ∧
      (o.systemProxy = true → (∀ cause, result ≠ .error (.listening cause)) →
        (untilStop (run o w)).filterMap RunAction.pointed? = [port w, 0]) ∧
      (∀ cause, result = .error (.listening cause) →
        (o.systemProxy = true → (untilStop (run o w)).filterMap RunAction.pointed? = [port w]) ∧
        ∃ ticks rest, w.wakeups = ticks ++ .cannotListen cause :: rest ∧
          ∀ wakeup ∈ ticks, endOf? wakeup = none) ∧
      (run o w).actions.filterMap RunAction.pointed? =
        (untilStop (run o w)).filterMap RunAction.pointed? ∧
      ∀ options events, (run o w).SupervisedBy options events →
        ∃ first later s, events = first ++ .call call :: later ∧
          (Supervision.new options).run first = some s ∧ s.handle = some pid ∧
          s.step (.call call) =
            some { s with handle := none, caller := .checking pid call.after } := by
  obtain ⟨watched, hwatch, rfl⟩ : ∃ watched, watch w.wakeups = some watched ∧
      result = resultOf w watched := by
    cases hwatch : watch w.wakeups with
    | none => simp [run, hstart, hwatch] at hreturns
    | some watched => exact ⟨watched, rfl, by simpa [run, hstart, hwatch] using hreturns.symm⟩
  obtain ⟨call, calls, hcalls, hrequest⟩ : ∃ call calls,
      (requests watched).filterMap RunAction.call? = call :: calls ∧
        (requests watched).findSome? RunAction.request? = some call := by
    cases watched <;> exact ⟨_, _, rfl, rfl⟩
  have hactions := actions_of_watch (o := o) hstart hwatch
  have huntil := untilStop_of_watch (o := o) hstart hwatch
  have hopening : (opening o w pid).filterMap RunAction.pointed? =
      if o.systemProxy then [port w] else [] := filterMap_opening (fun _ => rfl) o w pid
  refine ⟨call, ?_, ?_, ?_, ?_, ?_⟩
  · rw [hactions, List.findSome?_append,
      List.findSome?_eq_none_iff.2 fun a ha => request?_eq_none ha, Option.none_or, hrequest]
  · intro asked listening
    have hwatched : ∀ cause, watched ≠ .cannotListen cause :=
      fun cause h => listening cause (resultOf_eq_listening_iff.2 h)
    rw [huntil, List.filterMap_append, hopening, filterMap_switchOff (fun _ => rfl) o w hwatched,
      asked]
    rfl
  · intro cause broken
    obtain rfl := resultOf_eq_listening_iff.1 broken
    obtain ⟨ticks, last, rest, hsplit, hticks, hlast⟩ := watch_eq_some_iff.1 hwatch
    refine ⟨fun asked => ?_, ticks, rest, ?_, hticks⟩
    · rw [huntil, List.filterMap_append, hopening, asked]
      rfl
    · rw [hsplit, endOf?_eq_cannotListen hlast]
  · have hrequests : (requests watched).filterMap RunAction.pointed? = [] := by
      cases watched <;> rfl
    rw [hactions, huntil, List.filterMap_append, hrequests, List.append_nil]
  · intro options events supervised
    obtain ⟨t, hrun⟩ := supervised.happens
    have hstarted := supervised.started
    have hall := supervised.calls
    rw [hactions, List.filterMap_append, filterMap_call?, hcalls] at hall
    rw [show (run o w).engine = some pid by simp [run, hstart, hwatch]] at hstarted
    obtain ⟨first, later, s, hsplit, hfirst, hidle, hheld⟩ :=
      Supervision.held_of_calls hrun hall hstarted
    refine ⟨first, later, s, hsplit, hfirst, hheld, ?_⟩
    rw [Supervision.step, if_pos hidle, Supervision.begin_eq, Supervision.beginStop_of_handle hheld]

/-- The events of a supervisor whose engine is started, stopped and waited for, before the
supervisor is given up. -/
def servedEvents : List Supervision.Event :=
  [.call .start, .spawned (.ok ()), .threadStarted (.ok ()), .handedOver, .watcher 0 true,
    .call .stop, .readFlag, .signalled (.ok ()), .exits 0 (.signal 15), .watcher 0 true,
    .watcher 0 true, .watcher 0 true, .watcher 0 true, .received, .watcher 0 true, .joined,
    .call .drop]

/-- A run that is interrupted at once. -/
def interruptedRun : EngineRun :=
  run ⟨.ofText "engine", true⟩ (interrupted Reader.blank Reader.blank)

/-- These are events of a supervisor that serves the interrupted run. -/
theorem supervisedBy_servedEvents :
    interruptedRun.SupervisedBy ⟨.ofText "engine", false⟩ servedEvents where
  happens := ⟨_, rfl⟩
  calls := rfl
  started := rfl

/-- An interrupted run switches the system proxy off, and its stop finds the engine held. -/
theorem run_cleansUp_interrupted :
    interruptedRun.result = some (.ok ()) ∧
      (untilStop interruptedRun).filterMap RunAction.pointed? = [3128, 0] ∧
      ∃ first later s, servedEvents = first ++ .call .stop :: later ∧
        (Supervision.new ⟨.ofText "engine", false⟩).run first = some s ∧ s.handle = some 0 := by
  have hstart : (interrupted Reader.blank Reader.blank).start = .ok 0 := rfl
  have hreturns : interruptedRun.result = some (.ok ()) := rfl
  obtain ⟨call, hcall, hswitched, -, -, hstop⟩ := run_cleansUp hstart hreturns
  obtain rfl : call = .stop := Option.some.inj (hcall.symm.trans rfl)
  obtain ⟨first, later, s, hsplit, hfirst, hheld, -⟩ := hstop _ _ supervisedBy_servedEvents
  exact ⟨hreturns, hswitched rfl (by simp), first, later, s, hsplit, hfirst, hheld⟩

/-- Every run that has started the engine and returns has asked for its stop, and has switched the
system proxy off between pointing it at the engine and the stop if it was asked to. -/
def CleansUp : Prop :=
  ∀ (o : RunOptions) (w : Surroundings) (pid : Pid) (result : Except Failure Unit),
    w.start = .ok pid → (run o w).result = some result →
    ((run o w).actions.findSome? RunAction.request?).isSome = true ∧
      (o.systemProxy = true →
        [port w, 0].Sublist ((untilStop (run o w)).filterMap RunAction.pointed?))

/-- If interrupts cannot be listened for, the system proxy stays pointed at an engine that is
stopped. -/
theorem not_cleansUp : ¬ CleansUp := by
  intro hall
  have hswitched := (hall ⟨.ofText "engine", true⟩
    { interrupted Reader.blank Reader.blank with wakeups := [.cannotListen "no signal driver"] }
    0 _ rfl rfl).2 rfl
  have hlength := hswitched.length_le
  exact absurd hlength (by decide)

end EngineRun
end Controller
end ProxyControl
