import ProxyControl.Proofs.Engine.Custody

/-!
# What an event does

The processes of a supervision fall into the past ones, which are settled, and at most one
present process.  Every event keeps this order, and what an event does can be said in terms
of the present process alone.

Main results:

- Structure `Orderly`: a supervision whose processes are divided in this way.
- Relation `Advance`: the ways on for an orderly supervision.
- Theorem `Orderly.advance`: every event is one of them.
- Theorem `Advance.orderly`: each of them keeps the order.
-/

namespace ProxyControl

/-- What follows the stop that a call begins with. -/
def Call.after : Call → AfterStop
  | .start => .launch
  | .stop => .finish
  | .restart => .stopAndLaunch
  | .drop => .vanish

/-- The engine that is held after the outcome of a call. -/
def CallAnswer.engine? : CallAnswer → Option Pid
  | .started pid => some pid
  | .failed (.signal pid _) => some pid
  | _ => none

namespace Supervision

/-! ## Stops without an engine -/

/-- The supervision without an engine, once a stop is over. -/
def stopped (s : Supervision) : AfterStop → Supervision
  | .finish => s.finish .done
  | .launch => { s with caller := .launching }
  | .stopAndLaunch => { s with caller := .launching }
  | .vanish => { s with caller := .gone, answer := .done }

@[simp]
theorem children_stopped (s : Supervision) (after : AfterStop) :
    (s.stopped after).children = s.children := by
  cases after <;> rfl

@[simp]
theorem handle_stopped (s : Supervision) (after : AfterStop) :
    (s.stopped after).handle = s.handle := by
  cases after <;> rfl

@[simp]
theorem records_stopped (s : Supervision) (after : AfterStop) :
    (s.stopped after).records = s.records := by
  cases after <;> rfl

/-- When a stop is over, the supervisor is between two calls or about to launch. -/
theorem caller_stopped (s : Supervision) (after : AfterStop) :
    (s.stopped after).caller.isBetween = true ∨ (s.stopped after).caller = .launching := by
  cases after <;> simp [stopped, finish, Caller.isBetween]

/-- A stop that ends its call has done what was asked. -/
theorem answer_stopped {s : Supervision} {after : AfterStop}
    (between : (s.stopped after).caller.isBetween = true) : (s.stopped after).answer = .done := by
  cases after <;> first | rfl | cases between

/-- Every call begins with a stop. -/
theorem begin_eq (s : Supervision) (c : Call) : s.begin c = s.beginStop c.after := by
  cases c <;> rfl

/-- A stop with an engine takes the handle and looks at the flag. -/
theorem beginStop_of_handle {s : Supervision} {pid : Pid} (h : s.handle = some pid)
    (after : AfterStop) :
    s.beginStop after = { s with handle := none, caller := .checking pid after } := by
  simp [beginStop, h]

/-- A stop without an engine is over at once. -/
theorem beginStop_of_none {s : Supervision} (h : s.handle = none) (after : AfterStop) :
    s.beginStop after = s.stopped after := by
  cases after <;> simp [beginStop, h, stopped]

/-- Without an engine nothing is left to do after a stop. -/
theorem afterStop_of_none {s : Supervision} (h : s.handle = none) (after : AfterStop) :
    s.afterStop after = s.stopped after := by
  cases after <;> simp [afterStop, beginStop, h, stopped]

/-! ## Past and present processes -/

/-- The processes are the settled ones of the past and at most one present process. -/
structure Orderly (s : Supervision) (past : List Child) (present : Option Child) : Prop where
  children : s.children = past ++ present.toList
  past_numbered : past.map Child.pid = List.range past.length
  present_numbered : ∀ c, present = some c → c.pid = past.length
  settled : ∀ c ∈ past, c.Settled
  custody : Custody s.handle s.caller present
  /-- Between two calls the latest outcome tells which engine is held. -/
  answered : s.caller.isBetween = true → s.handle = s.answer.engine?

/-- A supervision that has not done anything yet is in order. -/
theorem orderly_new (options : SupervisorOptions) :
    Orderly { options := options } [] none where
  children := rfl
  past_numbered := rfl
  present_numbered := by simp
  settled := by simp
  custody := .nobody (.inl rfl)
  answered _ := rfl

/-- It waits for a call: there is nothing to join. -/
example (options : SupervisorOptions) :
    ({ options := options } : Supervision).step .joined = none := by
  cbv

/-- The last process is changed if it is the only one of its number. -/
theorem modify_of_last {s : Supervision} {past : List Child} {c : Child} {pid : Pid}
    (hchildren : s.children = past ++ [c]) (hpid : c.pid = pid) (hne : ∀ d ∈ past, d.pid ≠ pid)
    (f : Child → Child) : s.modify pid f = { s with children := past ++ [f c] } := by
  have hpast : (past.map fun d => if d.pid = pid then f d else d) = past :=
    (List.map_congr_left fun d hd => if_neg (hne d hd)).trans (List.map_id past)
  simp [modify, hchildren, hpast, hpid]

/-- The last process is found if it is the only one of its number. -/
theorem child?_of_last {s : Supervision} {past : List Child} {c : Child} {pid : Pid}
    (hchildren : s.children = past ++ [c]) (hpid : c.pid = pid) (hne : ∀ d ∈ past, d.pid ≠ pid) :
    s.child? pid = some c := by
  have hpast : past.find? (fun d => d.pid = pid) = none := by
    simpa using hne
  simp [child?, hchildren, hpast, hpid]

/-- The watcher of the last process is changed if the process is the only one of its number. -/
theorem modifyWatcher_of_last {s : Supervision} {past : List Child} {c : Child} {w : Watcher}
    {pid : Pid} (hchildren : s.children = past ++ [c]) (hpid : c.pid = pid)
    (hne : ∀ d ∈ past, d.pid ≠ pid) (watcher : c.watcher = some w) (f : Watcher → Watcher) :
    s.modifyWatcher pid f =
      { s with children := past ++ [{ c with watcher := some (f w) }] } := by
  rw [modifyWatcher, modify_of_last hchildren hpid hne, watcher, Option.map_some]

namespace Orderly

variable {s : Supervision} {past : List Child} {present : Option Child} {c : Child}

/-- No past process has the number of the present one. -/
theorem past_ne (h : Orderly s past (some c)) : ∀ d ∈ past, d.pid ≠ c.pid := by
  intro d hd hpid
  have hmem : d.pid ∈ List.range past.length := h.past_numbered ▸ List.mem_map_of_mem hd
  rw [hpid, h.present_numbered c rfl] at hmem
  simp at hmem

/-- A change by the number of the present process changes the present process alone. -/
theorem modify_present (h : Orderly s past (some c)) (f : Child → Child) :
    s.modify c.pid f = { s with children := past ++ [f c] } :=
  modify_of_last h.children rfl h.past_ne f

/-- The present process is found by its number. -/
theorem child?_present (h : Orderly s past (some c)) : s.child? c.pid = some c :=
  child?_of_last h.children rfl h.past_ne

/-- The present process's watcher is found by its number. -/
theorem watcher?_present (h : Orderly s past (some c)) : s.watcher? c.pid = c.watcher := by
  simp [watcher?, h.child?_present]

/-- The processes are numbered in the order of their launches. -/
theorem numbered (h : Orderly s past present) :
    s.children.map Child.pid = List.range s.children.length := by
  rw [h.children, List.map_append, h.past_numbered]
  cases present with
  | none => simp
  | some c => simp [h.present_numbered c rfl, List.range_succ]

/-- A process is given by its number. -/
theorem eq_of_pid_eq (h : Orderly s past present) {d d' : Child} (hd : d ∈ s.children)
    (hd' : d' ∈ s.children) (hpid : d.pid = d'.pid) : d = d' := by
  have hindex (i : Nat) (hi : i < s.children.length) : s.children[i].pid = i := by
    have hnumber := congrArg (fun pids => pids[i]?) h.numbered
    simpa [hi] using hnumber
  obtain ⟨i, hi, rfl⟩ := List.getElem_of_mem hd
  obtain ⟨j, hj, rfl⟩ := List.getElem_of_mem hd'
  rw [hindex i hi, hindex j hj] at hpid
  subst hpid
  rfl

/-- A process that makes a step is the present one. -/
theorem present_of_move (h : Orderly s past present) {d d' : Child} {pid : Pid} {e : Event}
    {rs : List ExitRecord} (hd : s.child? pid = some d) (move : d.Move e d' rs) :
    present = some d ∧ pid = d.pid := by
  have hpid : d.pid = pid := by simpa using List.find?_some hd
  have hmem : d ∈ past ++ present.toList := h.children ▸ List.mem_of_find?_eq_some hd
  rcases List.mem_append.1 hmem with hpast | hpresent
  · exact absurd move (h.settled d hpast).not_move
  · exact ⟨by simpa using hpresent, hpid.symm⟩

end Orderly

/-! ## Ways on -/

/-- The ways on for a supervision with some past processes: the present process before, the
event, and the supervision, the past and the present afterwards. -/
inductive Advance (s : Supervision) (past : List Child) :
    Option Child → Event → Supervision → List Child → Option Child → Prop
  /-- The process or its watcher makes a step. -/
  | background {c c' : Child} {e : Event} {rs : List ExitRecord} (move : c.Move e c' rs) :
      Advance s past (some c) e
        { s with children := past ++ [c'], records := rs ++ s.records } past (some c')
  /-- A call begins and takes the handle. -/
  | takesHandle {c : Child} {call : Call} (idle : s.caller = .idle) (held : s.handle = some c.pid) :
      Advance s past (some c) (.call call)
        { s with handle := none, caller := .checking c.pid call.after } past (some c)
  /-- A call begins without a handle. -/
  | findsNone {call : Call} (idle : s.caller = .idle) (free : s.handle = none) :
      Advance s past none (.call call) (s.stopped call.after) past none
  /-- The running flag is up. -/
  | findsRunning {c : Child} {w : Watcher} {after : AfterStop}
      (checking : s.caller = .checking c.pid after) (watcher : c.watcher = some w)
      (raised : w.flag = true) :
      Advance s past (some c) .readFlag { s with caller := .terminating c.pid after } past (some c)
  /-- The running flag is down. -/
  | findsOver {c : Child} {w : Watcher} {after : AfterStop}
      (checking : s.caller = .checking c.pid after) (watcher : c.watcher = some w)
      (lowered : w.flag = false) :
      Advance s past (some c) .readFlag { s with caller := .receiving c.pid after } past (some c)
  /-- The engine is asked to terminate. -/
  | asks {c : Child} {after : AfterStop} (terminating : s.caller = .terminating c.pid after) :
      Advance s past (some c) (.signalled (.ok ()))
        { s.send c.pid .graceful with caller := .receiving c.pid after } past (some c)
  /-- The engine is killed after the timeout. -/
  | kills {c : Child} {after : AfterStop} (killing : s.caller = .killing c.pid after) :
      Advance s past (some c) (.signalled (.ok ()))
        { s.send c.pid .forced with caller := .receivingKilled c.pid after } past (some c)
  /-- The signal is refused, and the stop fails. -/
  | isRefused {c : Child} {after : AfterStop} {cause : String}
      (signalling : s.caller = .terminating c.pid after ∨ s.caller = .killing c.pid after) :
      Advance s past (some c) (.signalled (.error cause))
        (s.failStop c.pid after (.signal c.pid cause)) past (some c)
  /-- The status has not come in time. -/
  | timesOut {c : Child} {w : Watcher} {after : AfterStop}
      (receiving : s.caller = .receiving c.pid after) (watcher : c.watcher = some w)
      (limited : s.options.hasTimeout = true) (empty : w.canReceive = false) :
      Advance s past (some c) .timedOut { s with caller := .killing c.pid after } past (some c)
  /-- The status is received, or no status can come any more. -/
  | receives {c : Child} {w : Watcher} {after : AfterStop}
      (receiving : s.caller = .receiving c.pid after ∨ s.caller = .receivingKilled c.pid after)
      (watcher : c.watcher = some w) (ready : w.canReceive = true) :
      Advance s past (some c) .received
        { s with
          children := past ++ [{ c with watcher := some ⟨w.stage, false⟩ }]
          caller := .joining c.pid after }
        past (some { c with watcher := some ⟨w.stage, false⟩ })
  /-- The watcher is joined, and the stop is over. -/
  | joins {c : Child} {w : Watcher} {after : AfterStop} (joining : s.caller = .joining c.pid after)
      (watcher : c.watcher = some w) (ended : w.stage = .ended) :
      Advance s past (some c) .joined (s.stopped after) (past ++ [c]) none
  /-- The engine cannot be launched. -/
  | failsToLaunch {e : SystemError} (launching : s.caller = .launching) :
      Advance s past none (.spawned (.error e))
        (s.finish (.failed (.launch s.options.engine e.message))) past none
  /-- The engine is launched. -/
  | launches (launching : s.caller = .launching) :
      Advance s past none (.spawned (.ok ()))
        { s with
          children := past ++ [⟨past.length, .running, none⟩]
          caller := .hiringWatcher past.length }
        past (some ⟨past.length, .running, none⟩)
  /-- The watcher's thread is made. -/
  | hires {c : Child} (hiring : s.caller = .hiringWatcher c.pid) :
      Advance s past (some c) (.threadStarted (.ok ()))
        { s with
          children := past ++ [{ c with watcher := some .new }]
          caller := .handingOver c.pid }
        past (some { c with watcher := some .new })
  /-- No thread can be made. -/
  | lacksThread {c : Child} {e : SystemError} (hiring : s.caller = .hiringWatcher c.pid) :
      Advance s past (some c) (.threadStarted (.error e))
        { s with caller := .discarding c.pid e.message } past (some c)
  /-- The engine is handed over, and the start is over. -/
  | handsOver {c : Child} (handing : s.caller = .handingOver c.pid) :
      Advance s past (some c) .handedOver
        { s with
          children := past ++ [{ c with watcher := some ⟨.entrusted, false⟩ }]
          handle := some c.pid
          caller := .idle
          answer := .started c.pid }
        past (some { c with watcher := some ⟨.entrusted, false⟩ })
  /-- The engine without a watcher is killed. -/
  | discards {c : Child} {cause : String} (discarding : s.caller = .discarding c.pid cause) :
      Advance s past (some c) (.signalled (.ok ()))
        { s.send c.pid .forced with caller := .reaping c.pid cause } past (some c)
  /-- The engine without a watcher cannot be killed. -/
  | cannotDiscard {c : Child} {cause refusal : String}
      (discarding : s.caller = .discarding c.pid cause) :
      Advance s past (some c) (.signalled (.error refusal))
        { s with caller := .reaping c.pid cause } past (some c)
  /-- The engine without a watcher is waited for, and the start has failed. -/
  | reaps {c : Child} {cause : String} {status : ExitStatus}
      (reaping : s.caller = .reaping c.pid cause) (exited : c.state = .exited status) :
      Advance s past (some c) .waited
        { s with
          children := past ++ [{ c with state := .reaped }]
          caller := .idle
          answer := .failed (.watcher cause) }
        (past ++ [{ c with state := .reaped }]) none

/-! ## Every event is one of them -/

/-- What a watcher does is a step of its process, and nothing else changes. -/
theorem move_of_watcherStep {s s' : Supervision} {c : Child} {known : Bool}
    (hstep : s.watcherStep c known = some s') :
    ∃ c' rs, c.Move (.watcher c.pid known) c' rs ∧
      ∀ past, s.children = past ++ [c] → (∀ d ∈ past, d.pid ≠ c.pid) →
        s' = { s with children := past ++ [c'], records := rs ++ s.records } := by
  obtain ⟨pid, state, watcher⟩ := c
  rcases watcher with _ | ⟨stage, unread⟩
  · cases hstep
  cases stage with
  | expecting => cases hstep
  | entrusted =>
      obtain rfl := Option.some.inj hstep
      exact ⟨_, _, .turns rfl .takes, fun _ hchildren hne =>
        modifyWatcher_of_last hchildren rfl hne rfl _⟩
  | waiting =>
      cases state with
      | running => cases hstep
      | reaped => cases hstep
      | exited status =>
          obtain rfl := Option.some.inj hstep
          refine ⟨_, _, .wakes rfl rfl, ?_⟩
          intro past hchildren hne
          rw [setProcess, modify_of_last hchildren rfl hne]
          exact modifyWatcher_of_last (c := ⟨pid, .reaped, some ⟨.waiting, unread⟩⟩) rfl rfl hne
            rfl _
  | woken status =>
      obtain rfl := Option.some.inj hstep
      exact ⟨_, _, .turns rfl .lowers, fun _ hchildren hne =>
        modifyWatcher_of_last hchildren rfl hne rfl _⟩
  | lowered status =>
      cases status with
      | none =>
          obtain rfl := Option.some.inj hstep
          exact ⟨_, _, .turns rfl .givesUp, fun _ hchildren hne =>
            modifyWatcher_of_last hchildren rfl hne rfl _⟩
      | some status =>
          obtain rfl := Option.some.inj hstep
          refine ⟨_, _, .turns rfl .records, ?_⟩
          intro past hchildren hne
          have hmoved := modifyWatcher_of_last hchildren rfl hne rfl
            fun w => { w with stage := .recorded }
          exact congrArg
            (fun t : Supervision => { t with records := ⟨pid, status.number⟩ :: s.records }) hmoved
  | recorded =>
      obtain rfl := Option.some.inj hstep
      exact ⟨_, _, .turns rfl .sends, fun _ hchildren hne =>
        modifyWatcher_of_last hchildren rfl hne rfl _⟩
  | sent =>
      obtain rfl := Option.some.inj hstep
      exact ⟨_, _, .turns rfl .ends, fun _ hchildren hne =>
        modifyWatcher_of_last hchildren rfl hne rfl _⟩
  | ended => cases hstep

namespace Orderly

variable {s s' : Supervision} {past : List Child} {present : Option Child}

/-- Only the present process can end. -/
theorem advance_exits (h : Orderly s past present) {pid : Pid} {status : ExitStatus}
    (hstep : s.step (.exits pid status) = some s') :
    ∃ past' present', Advance s past present (.exits pid status) s' past' present' := by
  simp only [step] at hstep
  split at hstep
  · rename_i hstate
    obtain ⟨c, hc, running⟩ := Option.map_eq_some_iff.1 hstate
    have move : c.Move (.exits c.pid status) { c with state := .exited status } [] :=
      .exits running
    obtain ⟨rfl, rfl⟩ := h.present_of_move hc move
    rw [setProcess, h.modify_present] at hstep
    obtain rfl := Option.some.inj hstep
    exact ⟨_, _, .background move⟩
  · cases hstep

/-- Only the watcher of the present process has steps left. -/
theorem advance_watcher (h : Orderly s past present) {pid : Pid} {known : Bool}
    (hstep : s.step (.watcher pid known) = some s') :
    ∃ past' present', Advance s past present (.watcher pid known) s' past' present' := by
  simp only [step] at hstep
  split at hstep
  · rename_i c hc
    obtain ⟨c', rs, move, hs'⟩ := move_of_watcherStep hstep
    obtain ⟨rfl, rfl⟩ := h.present_of_move hc move
    rw [hs' past h.children h.past_ne]
    exact ⟨_, _, .background move⟩
  · cases hstep

/-- A call begins with a stop, which without an engine is over at once. -/
theorem advance_call (h : Orderly s past present) {call : Call}
    (hstep : s.step (.call call) = some s') :
    ∃ past' present', Advance s past present (.call call) s' past' present' := by
  simp only [step] at hstep
  split at hstep
  · rename_i idle
    obtain rfl := Option.some.inj hstep
    rw [begin_eq]
    rcases h.custody.of_between (by rw [idle]; rfl) with ⟨free, rfl⟩ | ⟨c, w, held, rfl, _⟩
    · rw [beginStop_of_none free]
      exact ⟨_, _, .findsNone idle free⟩
    · rw [beginStop_of_handle held]
      exact ⟨_, _, .takesHandle idle held⟩
  · cases hstep

/-- The flag of the present process decides whether it is signalled. -/
theorem advance_readFlag (h : Orderly s past present) (hstep : s.step .readFlag = some s') :
    ∃ past' present', Advance s past present .readFlag s' past' present' := by
  simp only [step] at hstep
  split at hstep
  · rename_i pid after checking
    obtain ⟨_, c, w, rfl, rfl, attended, _⟩ := h.custody.of_stop (by rw [checking]; rfl)
    rw [h.watcher?_present, attended.watcher, Option.any_some] at hstep
    split at hstep
    · rename_i raised
      obtain rfl := Option.some.inj hstep
      exact ⟨_, _, .findsRunning checking attended.watcher raised⟩
    · rename_i lowered
      obtain rfl := Option.some.inj hstep
      exact ⟨_, _, .findsOver checking attended.watcher (Bool.eq_false_iff.2 lowered)⟩
  · cases hstep

/-- A stop that is refused a signal fails, and a launch that failed goes on with or without one. -/
theorem advance_signalled (h : Orderly s past present) {result : Except String Unit}
    (hstep : s.step (.signalled result) = some s') :
    ∃ past' present', Advance s past present (.signalled result) s' past' present' := by
  simp only [step] at hstep
  split at hstep
  · rename_i pid after terminating
    obtain ⟨_, c, w, rfl, rfl, _, _⟩ := h.custody.of_stop (by rw [terminating]; rfl)
    obtain rfl := Option.some.inj hstep
    exact ⟨_, _, .asks terminating⟩
  · rename_i pid after cause terminating
    obtain ⟨_, c, w, rfl, rfl, _, _⟩ := h.custody.of_stop (by rw [terminating]; rfl)
    obtain rfl := Option.some.inj hstep
    exact ⟨_, _, .isRefused (.inl terminating)⟩
  · rename_i pid after killing
    obtain ⟨_, c, w, rfl, rfl, _, _⟩ := h.custody.of_stop (by rw [killing]; rfl)
    obtain rfl := Option.some.inj hstep
    exact ⟨_, _, .kills killing⟩
  · rename_i pid after cause killing
    obtain ⟨_, c, w, rfl, rfl, _, _⟩ := h.custody.of_stop (by rw [killing]; rfl)
    obtain rfl := Option.some.inj hstep
    exact ⟨_, _, .isRefused (.inr killing)⟩
  · rename_i pid cause discarding
    obtain ⟨_, c, rfl, rfl, _, _⟩ := h.custody.of_unwatched (by rw [discarding]; rfl)
    obtain rfl := Option.some.inj hstep
    exact ⟨_, _, .discards discarding⟩
  · rename_i pid cause refusal discarding
    obtain ⟨_, c, rfl, rfl, _, _⟩ := h.custody.of_unwatched (by rw [discarding]; rfl)
    obtain rfl := Option.some.inj hstep
    exact ⟨_, _, .cannotDiscard discarding⟩
  · cases hstep

/-- A stop that has received the status goes on to join the watcher. -/
theorem advance_received (h : Orderly s past present) (hstep : s.step .received = some s') :
    ∃ past' present', Advance s past present .received s' past' present' := by
  -- Both ways of waiting for the status end in the same way.
  have hreceive {pid : Pid} {after : AfterStop}
      (receiving : s.caller = .receiving pid after ∨ s.caller = .receivingKilled pid after)
      (stop : s.caller.stop? = some (pid, after))
      (hready : (s.watcher? pid).any Watcher.canReceive = true)
      (hs' : s' = { s.receive pid with caller := .joining pid after }) :
      ∃ past' present', Advance s past present .received s' past' present' := by
    obtain ⟨_, c, w, rfl, rfl, attended, _⟩ := h.custody.of_stop stop
    rw [h.watcher?_present, attended.watcher, Option.any_some] at hready
    have hway : Advance s past _ _ _ _ _ := .receives receiving attended.watcher hready
    rw [hs', receive, modifyWatcher, h.modify_present, attended.watcher]
    exact ⟨_, _, hway⟩
  simp only [step] at hstep
  split at hstep
  · rename_i pid after receiving
    split at hstep
    · rename_i hready
      exact hreceive (.inl receiving) (by rw [receiving]; rfl) hready (Option.some.inj hstep).symm
    · cases hstep
  · rename_i pid after receiving
    split at hstep
    · rename_i hready
      exact hreceive (.inr receiving) (by rw [receiving]; rfl) hready (Option.some.inj hstep).symm
    · cases hstep
  · cases hstep

/-- A stop whose wait runs out goes on to the second signal. -/
theorem advance_timedOut (h : Orderly s past present) (hstep : s.step .timedOut = some s') :
    ∃ past' present', Advance s past present .timedOut s' past' present' := by
  simp only [step] at hstep
  split at hstep
  · rename_i pid after receiving
    obtain ⟨_, c, w, rfl, rfl, attended, _⟩ := h.custody.of_stop (by rw [receiving]; rfl)
    rw [h.watcher?_present, attended.watcher, Option.any_some] at hstep
    split at hstep
    · rename_i hlate
      obtain ⟨limited, empty⟩ := Bool.and_eq_true_iff.1 hlate
      obtain rfl := Option.some.inj hstep
      exact ⟨_, _, .timesOut receiving attended.watcher limited (by simpa using empty)⟩
    · cases hstep
  · cases hstep

/-- What waits for the watcher to end goes on when it has ended. -/
theorem advance_joined (h : Orderly s past present) (hstep : s.step .joined = some s') :
    ∃ past' present', Advance s past present .joined s' past' present' := by
  simp only [step] at hstep
  split at hstep
  · rename_i pid after joining
    obtain ⟨free, c, w, rfl, rfl, attended, _⟩ := h.custody.of_stop (by rw [joining]; rfl)
    rw [h.watcher?_present, attended.watcher, Option.any_some] at hstep
    split at hstep
    · rename_i hover
      rw [afterStop_of_none free] at hstep
      obtain rfl := Option.some.inj hstep
      exact ⟨_, _, .joins joining attended.watcher (by simpa using hover)⟩
    · cases hstep
  · rename_i pid cause dismissing
    have hcustody := h.custody
    rw [dismissing] at hcustody
    exact absurd hcustody Custody.not_dismissing
  · cases hstep

/-- A launch makes the present process, or it fails. -/
theorem advance_spawned (h : Orderly s past present) {result : Except SystemError Unit}
    (hstep : s.step (.spawned result) = some s') :
    ∃ past' present', Advance s past present (.spawned result) s' past' present' := by
  simp only [step] at hstep
  split at hstep
  · rename_i launching
    have hcustody := h.custody
    rw [launching] at hcustody
    obtain ⟨_, rfl⟩ := hcustody.of_launching
    have hchildren : s.children = past := by simpa using h.children
    obtain rfl := Option.some.inj hstep
    rw [spawn, hchildren]
    exact ⟨_, _, .launches launching⟩
  · rename_i e launching
    have hcustody := h.custody
    rw [launching] at hcustody
    obtain ⟨_, rfl⟩ := hcustody.of_launching
    obtain rfl := Option.some.inj hstep
    exact ⟨_, _, .failsToLaunch launching⟩
  · cases hstep

/-- The watcher is there to take the process over, or the process is given up. -/
theorem advance_threadStarted (h : Orderly s past present) {result : Except SystemError Unit}
    (hstep : s.step (.threadStarted result) = some s') :
    ∃ past' present', Advance s past present (.threadStarted result) s' past' present' := by
  simp only [step] at hstep
  split at hstep
  · rename_i pid hiring
    obtain ⟨_, c, rfl, rfl, _, _⟩ := h.custody.of_unwatched (by rw [hiring]; rfl)
    rw [h.modify_present] at hstep
    obtain rfl := Option.some.inj hstep
    exact ⟨_, _, .hires hiring⟩
  · rename_i pid e hiring
    obtain ⟨_, c, rfl, rfl, _, _⟩ := h.custody.of_unwatched (by rw [hiring]; rfl)
    obtain rfl := Option.some.inj hstep
    exact ⟨_, _, .lacksThread hiring⟩
  · cases hstep

/-- A watcher that still runs takes the process over; otherwise the process is given up. -/
theorem advance_handedOver (h : Orderly s past present) (hstep : s.step .handedOver = some s') :
    ∃ past' present', Advance s past present .handedOver s' past' present' := by
  simp only [step] at hstep
  split at hstep
  · rename_i pid handing
    have hcustody := h.custody
    rw [handing] at hcustody
    obtain ⟨_, c, rfl, rfl, watcher, _⟩ := hcustody.of_handingOver
    rw [h.watcher?_present, watcher, Option.any_some, if_neg (by decide), modifyWatcher,
      h.modify_present, watcher] at hstep
    obtain rfl := Option.some.inj hstep
    exact ⟨_, _, .handsOver handing⟩
  · cases hstep

/-- A process that was given up is waited for before the launch fails. -/
theorem advance_waited (h : Orderly s past present) (hstep : s.step .waited = some s') :
    ∃ past' present', Advance s past present .waited s' past' present' := by
  simp only [step] at hstep
  split at hstep
  · rename_i pid cause reaping
    obtain ⟨_, c, rfl, rfl, watcher, _⟩ := h.custody.of_unwatched (by rw [reaping]; rfl)
    rw [h.child?_present, Option.map_some] at hstep
    split at hstep
    · rename_i status exited
      -- The engine has no watcher whose end would have to be waited for.
      have hwatcher : (s.setProcess c.pid .reaped).watcher? c.pid = none := by
        rw [setProcess, h.modify_present, watcher?,
          child?_of_last (c := { c with state := .reaped }) rfl rfl h.past_ne]
        exact watcher
      rw [hwatcher, setProcess, h.modify_present] at hstep
      obtain rfl := Option.some.inj hstep
      exact ⟨_, _, .reaps reaping (Option.some.inj exited)⟩
    · cases hstep
  · cases hstep

/-- Every event of an orderly supervision is one of the ways on. -/
theorem advance (h : Orderly s past present) {e : Event} (hstep : s.step e = some s') :
    ∃ past' present', Advance s past present e s' past' present' := by
  cases e with
  | call c => exact h.advance_call hstep
  | readFlag => exact h.advance_readFlag hstep
  | signalled result => exact h.advance_signalled hstep
  | received => exact h.advance_received hstep
  | timedOut => exact h.advance_timedOut hstep
  | joined => exact h.advance_joined hstep
  | spawned result => exact h.advance_spawned hstep
  | threadStarted result => exact h.advance_threadStarted hstep
  | handedOver => exact h.advance_handedOver hstep
  | waited => exact h.advance_waited hstep
  | exits pid status => exact h.advance_exits hstep
  | watcher pid known => exact h.advance_watcher hstep

/-! ## The order is kept -/

/-- The order is kept if the present process stays. -/
theorem of_present (h : Orderly s past present) {c c' : Child} (hpresent : present = some c)
    (hpid : c'.pid = c.pid) (hchildren : s'.children = past ++ [c'])
    (custody : Custody s'.handle s'.caller (some c'))
    (answered : s'.caller.isBetween = true → s'.handle = s'.answer.engine?) :
    Orderly s' past (some c') where
  children := hchildren
  past_numbered := h.past_numbered
  present_numbered d hd := by
    obtain rfl := Option.some.inj hd
    rw [hpid, h.present_numbered c hpresent]
  settled := h.settled
  custody := custody
  answered := answered

/-- The order is kept if the present process is settled. -/
theorem of_settled (h : Orderly s past present) {c c' : Child} (hpresent : present = some c)
    (hpid : c'.pid = c.pid) (hchildren : s'.children = past ++ [c']) (settled : c'.Settled)
    (handle : s'.handle = none) (free : s'.caller.isBetween = true ∨ s'.caller = .launching)
    (answered : s'.caller.isBetween = true → s'.answer.engine? = none) :
    Orderly s' (past ++ [c']) none where
  children := by simpa using hchildren
  past_numbered := by
    simp [h.past_numbered, hpid, h.present_numbered c hpresent, List.range_succ]
  present_numbered := by simp
  settled d hd := by
    rcases List.mem_append.1 hd with hd | hd
    · exact h.settled d hd
    · rwa [List.mem_singleton.1 hd]
  custody := by rw [handle]; exact .nobody free
  answered between := by rw [handle, answered between]

/-- The order is kept if there is no process to change. -/
theorem of_none (h : Orderly s past none) (hchildren : s'.children = s.children)
    (handle : s'.handle = none) (free : s'.caller.isBetween = true ∨ s'.caller = .launching)
    (answered : s'.caller.isBetween = true → s'.answer.engine? = none) :
    Orderly s' past none where
  children := hchildren.trans h.children
  past_numbered := h.past_numbered
  present_numbered := by simp
  settled := h.settled
  custody := by rw [handle]; exact .nobody free
  answered between := by rw [handle, answered between]

end Orderly

/-- Each way on keeps the order. -/
theorem Advance.orderly {s s' : Supervision} {past past' : List Child}
    {present present' : Option Child} {e : Event}
    (way : Advance s past present e s' past' present') (h : Orderly s past present) :
    Orderly s' past' present' := by
  -- A step of a stop that keeps the process, before the watcher is joined.
  have hstop {c : Child} (hpresent : present = some c) {stage : Caller} {after : AfterStop}
      (stop : s.caller.stop? = some (c.pid, after)) (stop' : stage.stop? = some (c.pid, after))
      (hjoining : stage ≠ .joining c.pid after) {signals : List SentSignal} :
      Orderly { s with signals := signals, caller := stage } past (some c) := by
    obtain ⟨free, d, w, rfl, hpid, attended, _⟩ := h.custody.of_stop stop
    obtain rfl := Option.some.inj hpresent
    refine h.of_present rfl rfl h.children ?_ ?_
    · rw [free]
      exact .stopping stop' attended fun joining => absurd joining hjoining
    · intro between
      cases stage <;> cases between <;> cases stop'
  -- A step of a start that fails, before the engine without a watcher is waited for.
  have hunwatched {c : Child} (hpresent : present = some c) {stage : Caller}
      (launched : s.caller.unwatched? = some c.pid) (launched' : stage.unwatched? = some c.pid)
      {signals : List SentSignal} :
      Orderly { s with signals := signals, caller := stage } past (some c) := by
    obtain ⟨free, d, rfl, _, watcher, unreaped⟩ := h.custody.of_unwatched launched
    obtain rfl := Option.some.inj hpresent
    refine h.of_present rfl rfl h.children ?_ ?_
    · rw [free]
      exact .unwatched launched' watcher unreaped
    · intro between
      cases stage <;> cases between <;> cases launched'
  cases way with
  | background move => exact h.of_present rfl move.pid_eq rfl (h.custody.move move) h.answered
  | takesHandle idle held =>
      rcases h.custody.of_between (by rw [idle]; rfl) with
        ⟨_, hnone⟩ | ⟨c, w, _, hpresent, attended⟩
      · cases hnone
      · obtain rfl := Option.some.inj hpresent
        refine h.of_present rfl rfl h.children ?_ (by simp [Caller.isBetween])
        exact .stopping rfl attended (by simp)
  | findsNone idle free =>
      exact h.of_none (children_stopped s _) (by rw [handle_stopped, free]) (caller_stopped s _)
        fun between => by rw [answer_stopped between]; rfl
  | findsRunning checking _ _ => exact hstop rfl (by rw [checking]; rfl) rfl (by simp)
  | findsOver checking _ _ => exact hstop rfl (by rw [checking]; rfl) rfl (by simp)
  | asks terminating => exact hstop rfl (by rw [terminating]; rfl) rfl (by simp)
  | kills killing => exact hstop rfl (by rw [killing]; rfl) rfl (by simp)
  | timesOut receiving _ _ _ => exact hstop rfl (by rw [receiving]; rfl) rfl (by simp)
  | @isRefused c after cause signalling =>
      have stop : s.caller.stop? = some (c.pid, after) := by
        rcases signalling with h | h <;> rw [h] <;> rfl
      obtain ⟨_, d, w, hpresent, _, attended, _⟩ := h.custody.of_stop stop
      obtain rfl := Option.some.inj hpresent
      have between : (s.failStop c.pid after (.signal c.pid cause)).caller.isBetween = true := by
        simp only [failStop]
        split <;> rfl
      exact h.of_present rfl rfl h.children (.held between attended) fun _ => rfl
  | @receives c w after receiving watcher ready =>
      have stop : s.caller.stop? = some (c.pid, after) := by
        rcases receiving with h | h <;> rw [h] <;> rfl
      obtain ⟨free, d, v, hpresent, _, attended, _⟩ := h.custody.of_stop stop
      obtain rfl := Option.some.inj hpresent
      obtain rfl := Option.some.inj (watcher.symm.trans attended.watcher)
      refine h.of_present rfl rfl rfl ?_ (by simp [Caller.isBetween])
      rw [free]
      exact .stopping rfl attended.receive fun _ => attended.told ready
  | joins joining watcher ended =>
      obtain ⟨free, d, w, hpresent, _, attended, _⟩ := h.custody.of_stop (by rw [joining]; rfl)
      obtain rfl := Option.some.inj hpresent
      obtain rfl := Option.some.inj (watcher.symm.trans attended.watcher)
      refine h.of_settled rfl rfl ?_ (attended.settled ended) ?_ (caller_stopped s _) ?_
      · rw [children_stopped, h.children]
        rfl
      · rw [handle_stopped, free]
      · intro between
        rw [answer_stopped between]
        rfl
  | failsToLaunch launching =>
      have hcustody := h.custody
      rw [launching] at hcustody
      exact h.of_none rfl hcustody.of_launching.1 (.inl rfl) fun _ => rfl
  | launches launching =>
      have hcustody := h.custody
      rw [launching] at hcustody
      refine ⟨rfl, h.past_numbered, ?_, h.settled, ?_, ?_⟩
      · intro c hc
        rw [← Option.some.inj hc]
      · rw [hcustody.of_launching.1]
        exact .unwatched rfl rfl (by simp)
      · simp [Caller.isBetween]
  | @hires c hiring =>
      obtain ⟨free, d, hpresent, _, _, unreaped⟩ := h.custody.of_unwatched (by rw [hiring]; rfl)
      obtain rfl := Option.some.inj hpresent
      refine h.of_present rfl rfl rfl ?_ (by simp [Caller.isBetween])
      rw [free]
      exact .handing (c := { c with watcher := some .new }) rfl unreaped
  | lacksThread hiring => exact hunwatched rfl (by rw [hiring]; rfl) rfl
  | @handsOver c handing =>
      have hcustody := h.custody
      rw [handing] at hcustody
      obtain ⟨free, d, hpresent, _, _, unreaped⟩ := hcustody.of_handingOver
      obtain rfl := Option.some.inj hpresent
      have attended : Child.AttendedBy { c with watcher := some ⟨.entrusted, false⟩ }
          ⟨.entrusted, false⟩ :=
        ⟨rfl, by simp, by simpa [WatcherStage.isWaitOver] using unreaped, by simp⟩
      exact h.of_present rfl rfl rfl (.held rfl attended) fun _ => rfl
  | discards discarding => exact hunwatched rfl (by rw [discarding]; rfl) rfl
  | cannotDiscard discarding => exact hunwatched rfl (by rw [discarding]; rfl) rfl
  | reaps reaping exited =>
      obtain ⟨free, d, hpresent, _, watcher, _⟩ := h.custody.of_unwatched (by rw [reaping]; rfl)
      obtain rfl := Option.some.inj hpresent
      refine h.of_settled rfl rfl rfl ⟨rfl, ?_⟩ free (.inl rfl) fun _ => rfl
      intro w hw
      cases watcher.symm.trans hw

end Supervision
end ProxyControl
