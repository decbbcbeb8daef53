import ProxyControl.Proofs.Engine.Answers

/-!
# What a run has told of the processes

The events of a run say how the processes ended, and the answers say which engines were
started.  What the supervision keeps of both, in its processes and its records, is shown
here to agree with the run: the records are those of the engines whose watchers have
stored one, with the status that the run told.

Main results:

- Relation `Child.Change`: what an event does to the present process.
- Structure `Supervision.Chronicle`: a run and the supervision after it agree.
- Theorem `chronicle_run`: they do after every run whose waits keep the status.
-/

namespace ProxyControl

/-! ## How the processes ended -/

namespace Supervision

/-- How a process ends by an event, if it does. -/
def Event.endOf? (pid : Pid) : Event → Option ExitStatus
  | .exits other status => if other = pid then some status else none
  | _ => none

/-- How a process has ended along a run, if it has. -/
def endOf? (events : List Event) (pid : Pid) : Option ExitStatus :=
  events.findSome? fun e => e.endOf? pid

/-- The record of how a process has ended along a run. -/
def recordOf? (events : List Event) (pid : Pid) : Option ExitRecord :=
  (endOf? events pid).map fun status => ⟨pid, status.number⟩

/-- A process ends by its first end among the events. -/
theorem endOf?_snoc (events : List Event) (e : Event) (pid : Pid) :
    endOf? (events ++ [e]) pid = (endOf? events pid).or (e.endOf? pid) := by
  rw [endOf?, List.findSome?_append, List.findSome?_singleton]
  rfl

/-- An event that ends no process changes nothing about its end. -/
theorem endOf?_snoc_of_none {e : Event} {pid : Pid} (quiet : e.endOf? pid = none)
    (events : List Event) : endOf? (events ++ [e]) pid = endOf? events pid := by
  rw [endOf?_snoc, quiet, Option.or_none]

/-- An event that ends no process changes nothing about its record. -/
theorem recordOf?_snoc_of_none {e : Event} {pid : Pid} (quiet : e.endOf? pid = none)
    (events : List Event) : recordOf? (events ++ [e]) pid = recordOf? events pid := by
  rw [recordOf?, endOf?_snoc_of_none quiet, recordOf?]

end Supervision

open Supervision

namespace Child

/-! ## What an event does to the present process -/

/-- The process has been handed over to a watcher. -/
def isTaken (c : Child) : Bool :=
  c.watcher.any fun w => w.stage != .expecting

/-- The watcher of the process has stored its record, if its wait kept the status. -/
def isRecorded (c : Child) : Bool :=
  c.watcher.any fun w => w.stage == .recorded || w.stage == .sent || w.stage == .ended

theorem map_filter_singleton {α : Type} (c : Child) (p : Child → Bool) (f : Child → α) :
    ([c].filter p).map f = if p c then [f c] else [] := by
  cases h : p c <;> simp [h]

/-- What an event does to the present process when some processes are past, with the records
that it adds and the engine whose start it completes. -/
inductive Change (count : Nat) :
    Option Child → Event → Option Child → List ExitRecord → Option Pid → Prop
  /-- The process stays as it is, if there is one. -/
  | stays {present : Option Child} {e : Event} (quiet : ∀ pid, e.endOf? pid = none) :
      Change count present e present [] none
  /-- The process or its watcher makes a step. -/
  | moves {c c' : Child} {e : Event} {rs : List ExitRecord} (move : c.Move e c' rs) :
      Change count (some c) e (some c') rs none
  /-- Its status is received. -/
  | receives {c : Child} {w : Watcher} (watcher : c.watcher = some w) :
      Change count (some c) .received (some { c with watcher := some ⟨w.stage, false⟩ }) [] none
  /-- It is launched. -/
  | launches : Change count none (.spawned (.ok ())) (some ⟨count, .running, none⟩) [] none
  /-- It gets a watcher. -/
  | hires {c : Child} (watcher : c.watcher = none) :
      Change count (some c) (.threadStarted (.ok ())) (some { c with watcher := some .new }) [] none
  /-- The watcher gets it. -/
  | handsOver {c : Child} (watcher : c.watcher = some .new) :
      Change count (some c) .handedOver (some { c with watcher := some ⟨.entrusted, false⟩ }) []
        (some c.pid)
  /-- It is waited for without a watcher. -/
  | reaps {c : Child} (watcher : c.watcher = none) :
      Change count (some c) .waited (some { c with state := .reaped }) [] none

/-- What a run has told of a process is what its state and its watcher say. -/
structure Told (events : List Event) (c : Child) : Prop where
  running : c.state = .running → endOf? events c.pid = none
  exited : ∀ status, c.state = .exited status → endOf? events c.pid = some status
  /-- A watcher that has woken knows the status. -/
  known : ∀ w status, c.watcher = some w → w.stage = .woken status ∨ w.stage = .lowered status →
    status ≠ none ∧ endOf? events c.pid = status

/-- The run goes on to tell what a process shows by an event that does not end it, unless the
event is that its watcher wakes. -/
theorem Told.snoc {events : List Event} {e : Event} {c c' : Child} (h : c.Told events)
    (quiet : e.endOf? c.pid = none) (hpid : c'.pid = c.pid)
    (hstate : c'.state = c.state ∨ c'.state = .reaped)
    (hwatcher : ∀ w' status, c'.watcher = some w' →
      w'.stage = .woken status ∨ w'.stage = .lowered status →
        ∃ w, c.watcher = some w ∧ (w.stage = .woken status ∨ w.stage = .lowered status)) :
    c'.Told (events ++ [e]) := by
  have hends : endOf? (events ++ [e]) c'.pid = endOf? events c.pid := by
    rw [hpid, endOf?_snoc_of_none quiet]
  refine ⟨fun running => ?_, fun status exited => ?_, fun w' status watcher' stage' => ?_⟩
  · rw [running] at hstate
    rw [hends, h.running (hstate.resolve_right (by simp)).symm]
  · rw [exited] at hstate
    rw [hends, h.exited status (hstate.resolve_right (by simp)).symm]
  · obtain ⟨w, watcher, stage⟩ := hwatcher w' status watcher' stage'
    rw [hends]
    exact h.known w status watcher stage

end Child

namespace Child.Change

variable {count : Nat} {present latest : Option Child} {e : Event} {rs : List ExitRecord}
  {pid? : Option Pid}

/-- Only the present process ends. -/
theorem quiet (change : Change count present e latest rs pid?) {pid : Pid}
    (hne : ∀ c, present = some c → c.pid ≠ pid) : e.endOf? pid = none := by
  cases change with
  | stays quiet => exact quiet pid
  | moves move =>
      cases move with
      | exits _ => exact if_neg (hne _ rfl)
      | wakes _ _ => rfl
      | turns _ _ => rfl
  | receives _ => rfl
  | launches => rfl
  | hires _ => rfl
  | handsOver _ => rfl
  | reaps _ => rfl

/-- No process is lost. -/
theorem length_le (change : Change count present e latest rs pid?) :
    present.toList.length ≤ latest.toList.length := by
  cases change <;> simp

/-- A completed start adds its engine to those that were handed over. -/
theorem map_isTaken (change : Change count present e latest rs pid?) :
    (latest.toList.filter isTaken).map Child.pid =
      (present.toList.filter isTaken).map Child.pid ++ pid?.toList := by
  cases change with
  | stays _ => simp
  | moves move =>
      cases move with
      | exits _ =>
          simp only [Option.toList_some, map_filter_singleton, Option.toList_none, List.append_nil]
          rfl
      | wakes watcher _ => simp [map_filter_singleton, isTaken, watcher]
      | turns watcher turn => cases turn <;> simp [map_filter_singleton, isTaken, watcher]
  | receives watcher => simp [map_filter_singleton, isTaken, watcher]
  | launches => rfl
  | hires watcher => simp [isTaken, watcher, Watcher.new]
  | handsOver watcher => simp [map_filter_singleton, isTaken, watcher, Watcher.new]
  | reaps watcher => simp [isTaken, watcher]

/-- The run goes on to tell what the process shows, if no wait loses the status. -/
theorem told {events : List Event} (change : Change count present e latest rs pid?)
    (hwait : e.keepsStatus = true) (h : ∀ c, present = some c → c.Told events)
    (hcount : present = none → endOf? events count = none) :
    ∀ c, latest = some c → c.Told (events ++ [e]) := by
  intro c' hlatest
  cases change with
  | stays quiet =>
      exact (h c' hlatest).snoc (quiet _) rfl (.inl rfl) fun w _ watcher stage =>
        ⟨w, watcher, stage⟩
  | @moves c _ _ _ move =>
      obtain rfl := Option.some.inj hlatest
      have hc := h c rfl
      cases move with
      | @exits status running =>
          have hends : endOf? (events ++ [.exits c.pid status]) c.pid = some status := by
            rw [endOf?_snoc, hc.running running, Option.none_or]
            exact if_pos rfl
          refine ⟨by simp, fun other exited => ?_, fun w other watcher stage => ?_⟩
          · rw [hends, ProcessState.exited.inj exited]
          · -- The watcher of a running process has not woken.
            have hknown := hc.known w other watcher stage
            exact absurd (hknown.2.symm.trans (hc.running running)) hknown.1
      | @wakes unread known status watcher exited =>
          obtain rfl : known = true := hwait
          have hends : endOf? (events ++ [.watcher c.pid true]) c.pid = some status := by
            rw [endOf?_snoc_of_none rfl, hc.exited status exited]
          refine ⟨by simp, by simp, fun w other hw stage => ?_⟩
          obtain rfl := Option.some.inj hw
          obtain rfl : some status = other := by simpa using stage
          exact ⟨by simp, hends⟩
      | @turns w _ _ _ watcher turn =>
          refine hc.snoc rfl rfl (.inl rfl) fun w' status hw' stage => ⟨w, watcher, ?_⟩
          obtain rfl := Option.some.inj hw'
          cases turn with
          | lowers =>
              obtain rfl : _ = status := by simpa using stage
              exact .inl rfl
          | _ => simp at stage
  | @receives c w watcher =>
      obtain rfl := Option.some.inj hlatest
      refine (h c rfl).snoc rfl rfl (.inl rfl) fun w' _ hw' stage => ⟨w, watcher, ?_⟩
      obtain rfl := Option.some.inj hw'
      exact stage
  | launches =>
      obtain rfl := Option.some.inj hlatest
      exact ⟨fun _ => by rw [endOf?_snoc_of_none rfl, hcount rfl], by simp, by simp⟩
  | @hires c _ =>
      obtain rfl := Option.some.inj hlatest
      exact (h c rfl).snoc rfl rfl (.inl rfl) (by rintro w status ⟨⟩ (⟨⟨⟩⟩ | ⟨⟨⟩⟩))
  | @handsOver c _ =>
      obtain rfl := Option.some.inj hlatest
      exact (h c rfl).snoc rfl rfl (.inl rfl) (by rintro w status ⟨⟩ (⟨⟨⟩⟩ | ⟨⟨⟩⟩))
  | @reaps c watcher =>
      obtain rfl := Option.some.inj hlatest
      exact (h c rfl).snoc rfl rfl (.inr rfl) (by simp [watcher])

/-- A stored record says how the process ended. -/
theorem map_isRecorded {events : List Event} (change : Change count present e latest rs pid?)
    (h : ∀ c, present = some c → c.Told events)
    (hreaped : ∀ c, present = some c → c.isRecorded = true → c.state = .reaped) :
    (latest.toList.filter isRecorded).map (fun c => recordOf? (events ++ [e]) c.pid) =
      (present.toList.filter isRecorded).map (fun c => recordOf? events c.pid) ++
        rs.reverse.map some := by
  have hsame (quiet : ∀ pid, e.endOf? pid = none) (pid : Pid) :
      recordOf? (events ++ [e]) pid = recordOf? events pid :=
    recordOf?_snoc_of_none (quiet pid) events
  cases change with
  | stays quiet => simp [hsame quiet]
  | @moves c _ _ _ move =>
      cases move with
      | @exits status running =>
          have hnone : c.isRecorded = false := by
            refine Bool.eq_false_iff.2 fun recorded => ?_
            cases running.symm.trans (hreaped c rfl recorded)
          have hnone' : isRecorded { c with state := .exited status } = false := hnone
          simp [hnone, hnone']
      | wakes watcher _ => simp [isRecorded, watcher]
      | turns watcher turn =>
          have hknown (status : Option ExitStatus) := (h c rfl).known _ status watcher
          cases turn with
          | takes => simp [isRecorded, watcher]
          | lowers => simp [isRecorded, watcher]
          | @records unread status =>
              have hrecord : recordOf? events c.pid = some ⟨c.pid, status.number⟩ := by
                rw [recordOf?, (hknown _ (.inr rfl)).2, Option.map_some]
              simp [isRecorded, watcher, hsame fun _ => rfl, hrecord]
          | givesUp => exact absurd rfl (hknown _ (.inr rfl)).1
          | sends => simp [isRecorded, watcher, hsame fun _ => rfl]
          | ends => simp [isRecorded, watcher, hsame fun _ => rfl]
  | receives watcher => simp [map_filter_singleton, isRecorded, watcher, hsame fun _ => rfl]
  | launches => rfl
  | hires watcher => simp [isRecorded, watcher, Watcher.new]
  | handsOver watcher => simp [isRecorded, watcher, Watcher.new]
  | reaps watcher => simp [isRecorded, watcher]

end Child.Change

/-- A process whose record is stored has been waited for. -/
theorem Custody.reaped_of_isRecorded {handle : Option Pid} {caller : Caller} {c : Child}
    (h : Custody handle caller (some c)) (recorded : c.isRecorded = true) : c.state = .reaped := by
  have hattended {w : Watcher} (attended : c.AttendedBy w) : c.state = .reaped := by
    rw [attended.reaped]
    rw [Child.isRecorded, attended.watcher] at recorded
    cases hstage : w.stage <;> simp [hstage] at recorded <;> rfl
  cases h with
  | held _ attended => exact hattended attended
  | stopping _ attended _ => exact hattended attended
  | handing watcher _ => simp [Child.isRecorded, watcher, Watcher.new] at recorded
  | unwatched _ watcher _ => simp [Child.isRecorded, watcher] at recorded

namespace Supervision

/-! ## Every way on is such a change -/

/-- A call that is over without a start completes none. -/
theorem reply?_started? {e : Event} {s : Supervision}
    (h : s.caller.isBetween = true → s.answer.started? = none) :
    (reply? e s).bind CallAnswer.started? = none := by
  rw [reply?]
  split
  · rename_i hover
    exact h (Bool.and_eq_true_iff.1 hover).2
  · rfl

/-- What an event does to the processes and the records is a change of the present process. -/
theorem Advance.change {s s' : Supervision} {past past' : List Child}
    {present present' : Option Child} {e : Event}
    (way : Advance s past present e s' past' present') (h : Orderly s past present) :
    ∃ latest rs, Child.Change past.length present e latest rs
        ((reply? e s').bind CallAnswer.started?) ∧
      s'.children = past ++ latest.toList ∧ s'.records = rs ++ s.records := by
  -- Events of the caller that leave the processes alone.
  have hstays (quiet : ∀ pid, e.endOf? pid = none)
      (hanswer : s'.caller.isBetween = true → s'.answer.started? = none)
      (hchildren : s'.children = s.children) (hrecords : s'.records = s.records) :
      ∃ latest rs, Child.Change past.length present e latest rs
          ((reply? e s').bind CallAnswer.started?) ∧
        s'.children = past ++ latest.toList ∧ s'.records = rs ++ s.records := by
    rw [reply?_started? hanswer]
    exact ⟨present, [], .stays quiet, hchildren.trans h.children, hrecords⟩
  cases way with
  | @background c c' _ rs move =>
      rw [reply?, move.isBackground]
      exact ⟨some c', rs, .moves move, rfl, rfl⟩
  | takesHandle _ _ => exact hstays (fun _ => rfl) (by simp [Caller.isBetween]) rfl rfl
  | findsNone _ _ =>
      exact hstays (fun _ => rfl) (fun between => by rw [answer_stopped between]; rfl)
        (children_stopped s _) (records_stopped s _)
  | findsRunning _ _ _ => exact hstays (fun _ => rfl) (by simp [Caller.isBetween]) rfl rfl
  | findsOver _ _ _ => exact hstays (fun _ => rfl) (by simp [Caller.isBetween]) rfl rfl
  | asks _ => exact hstays (fun _ => rfl) (by simp [Caller.isBetween]) rfl rfl
  | kills _ => exact hstays (fun _ => rfl) (by simp [Caller.isBetween]) rfl rfl
  | isRefused _ => exact hstays (fun _ => rfl) (fun _ => rfl) rfl rfl
  | timesOut _ _ _ _ => exact hstays (fun _ => rfl) (by simp [Caller.isBetween]) rfl rfl
  | receives _ watcher _ => exact ⟨_, [], .receives watcher, rfl, rfl⟩
  | joins _ _ _ =>
      exact hstays (fun _ => rfl) (fun between => by rw [answer_stopped between]; rfl)
        (children_stopped s _) (records_stopped s _)
  | failsToLaunch _ => exact hstays (fun _ => rfl) (fun _ => rfl) rfl rfl
  | launches _ => exact ⟨_, [], .launches, rfl, rfl⟩
  | @hires c hiring =>
      obtain ⟨_, d, hd, _, watcher, _⟩ := h.custody.of_unwatched (by rw [hiring]; rfl)
      obtain rfl := Option.some.inj hd
      exact ⟨_, [], .hires watcher, rfl, rfl⟩
  | lacksThread _ => exact hstays (fun _ => rfl) (by simp [Caller.isBetween]) rfl rfl
  | @handsOver c handing =>
      have hcustody := h.custody
      rw [handing] at hcustody
      obtain ⟨_, d, hd, _, watcher, _⟩ := hcustody.of_handingOver
      obtain rfl := Option.some.inj hd
      exact ⟨_, [], .handsOver watcher, rfl, rfl⟩
  | discards _ => exact hstays (fun _ => rfl) (by simp [Caller.isBetween]) rfl rfl
  | cannotDiscard _ => exact hstays (fun _ => rfl) (by simp [Caller.isBetween]) rfl rfl
  | @reaps c cause status reaping _ =>
      obtain ⟨_, d, hd, _, watcher, _⟩ := h.custody.of_unwatched (by rw [reaping]; rfl)
      obtain rfl := Option.some.inj hd
      exact ⟨_, [], .reaps watcher, rfl, rfl⟩

/-! ## The run and the supervision agree -/

/-- The records and the processes after a run are what its events and its answers tell. -/
structure Chronicle (options : SupervisorOptions) (events : List Event) (s : Supervision) :
    Prop where
  /-- The engines that were started are those that were handed over. -/
  started_eq : (new options).started events = (s.children.filter Child.isTaken).map Child.pid
  /-- The records are those of the processes whose watchers have stored one. -/
  records_eq : s.records.reverse.map some =
    (s.children.filter Child.isRecorded).map fun c => recordOf? events c.pid
  told : ∀ c ∈ s.children, c.Told events
  unlaunched : ∀ pid, s.children.length ≤ pid → endOf? events pid = none

/-- A new supervisor has had no process. -/
theorem chronicle_nil (options : SupervisorOptions) : Chronicle options [] (new options) :=
  ⟨rfl, rfl, by simp [new], fun _ _ => rfl⟩

/-- An event keeps the agreement, if it is not a wait that loses the status. -/
theorem Chronicle.snoc {options : SupervisorOptions} {events : List Event} {s s' : Supervision}
    {past : List Child} {present : Option Child} (h : Chronicle options events s)
    (horder : Orderly s past present) (hrun : (new options).run events = some s) {e : Event}
    (hstep : s.step e = some s') (hwait : e.keepsStatus = true) :
    Chronicle options (events ++ [e]) s' := by
  obtain ⟨_, _, way⟩ := horder.advance hstep
  obtain ⟨latest, rs, change, hchildren, hrecords⟩ := way.change horder
  -- The event is not the end of a past process.
  have hquiet {d : Child} (hd : d ∈ past) : e.endOf? d.pid = none := by
    refine change.quiet fun c hc => ?_
    subst hc
    exact (horder.past_ne d hd).symm
  have hmem {d : Child} (hd : d ∈ past ∨ present = some d) : d ∈ s.children := by
    rw [horder.children]
    rcases hd with hd | rfl
    · exact List.mem_append_left _ hd
    · exact List.mem_append_right _ (by simp)
  refine ⟨?_, ?_, ?_, ?_⟩
  · rw [started_append hrun, h.started_eq, started_singleton hstep, hchildren, horder.children,
      List.filter_append, List.filter_append, List.map_append, List.map_append, change.map_isTaken,
      List.append_assoc]
  · have hpast : (past.filter Child.isRecorded).map (fun c => recordOf? (events ++ [e]) c.pid) =
        (past.filter Child.isRecorded).map fun c => recordOf? events c.pid :=
      List.map_congr_left fun d hd =>
        recordOf?_snoc_of_none (hquiet (List.mem_filter.1 hd).1) events
    have hold := h.records_eq
    rw [horder.children, List.filter_append, List.map_append] at hold
    have hpresent := change.map_isRecorded (fun c hc => h.told c (hmem (.inr hc)))
      fun c hc => (hc ▸ horder.custody).reaped_of_isRecorded
    rw [hrecords, hchildren, List.reverse_append, List.map_append, hold, List.filter_append,
      List.map_append, hpast, hpresent, List.append_assoc]
  · intro d hd
    rw [hchildren] at hd
    rcases List.mem_append.1 hd with hd | hd
    · exact (h.told d (hmem (.inl hd))).snoc (hquiet hd) rfl (.inl rfl)
        fun w _ watcher stage => ⟨w, watcher, stage⟩
    · refine change.told hwait (fun c hc => h.told c (hmem (.inr hc))) ?_ d (by simpa using hd)
      intro hnone
      exact h.unlaunched _ (by simp [horder.children, hnone])
  · intro pid hpid
    have hlength := change.length_le
    rw [hchildren, List.length_append] at hpid
    have hbefore : endOf? events pid = none :=
      h.unlaunched pid (by rw [horder.children, List.length_append]; omega)
    rw [endOf?_snoc, hbefore, Option.none_or]
    refine change.quiet fun c hc => ?_
    rw [hc, Option.toList_some, List.length_singleton] at hlength
    rw [horder.present_numbered c hc]
    exact Nat.ne_of_lt (by omega)

/-- A run whose waits keep the status agrees with the supervision after it. -/
theorem chronicle_run {options : SupervisorOptions} {events : List Event} {s : Supervision}
    (h : (new options).run events = some s) (hwaits : ∀ e ∈ events, e.keepsStatus = true) :
    Chronicle options events s := by
  have hchronicle : (∀ e ∈ events, e.keepsStatus = true) → Chronicle options events s := by
    refine run_induction (P := fun events s =>
      (∀ e ∈ events, e.keepsStatus = true) → Chronicle options events s)
      (fun _ => chronicle_nil options) ?_ h
    intro events t e t' hrun ih hstep hwaits
    obtain ⟨_, _, horder⟩ := orderly_run hrun
    exact (ih fun e he => hwaits e (List.mem_append_left _ he)).snoc horder hrun hstep
      (hwaits e (by simp))
  exact hchronicle hwaits

end Supervision
end ProxyControl
