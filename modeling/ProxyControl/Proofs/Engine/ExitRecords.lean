import ProxyControl.Proofs.Engine.Chronicle
import ProxyControl.Proofs.Engine.OneEngine

/-!
# The records of the exits

As long as no wait loses a status, the exits of the engines are recorded in the order in
which the engines were started, each exit once and with the status of its engine.  Only
the engine that is held, or that a stop is about, may be without its record.

Main results:

- Structure `ExitsOnRecord`: what the records show after a run.
- Theorem `run_exitsOnRecord`: they show it after every run whose waits keep the status.
-/

namespace ProxyControl

/-! ## Which processes have a record -/

/-- A process that has a record has been handed over. -/
theorem Child.isTaken_of_isRecorded {c : Child} (h : c.isRecorded = true) : c.isTaken = true := by
  obtain ⟨pid, state, watcher⟩ := c
  rcases watcher with _ | ⟨stage, unread⟩
  · cases h
  · cases stage <;> first | rfl | cases h

/-- A settled process that was handed over has a record. -/
theorem Child.Settled.isRecorded_eq {c : Child} (h : c.Settled) : c.isRecorded = c.isTaken := by
  rw [Child.isRecorded, Child.isTaken]
  cases hw : c.watcher with
  | none => rfl
  | some w => rw [Option.any_some, Option.any_some, h.ended w hw]; rfl

/-- A process that was handed over is held, or a stop is about it. -/
theorem Custody.of_isTaken {handle : Option Pid} {caller : Caller} {c : Child}
    (h : Custody handle caller (some c)) (taken : c.isTaken = true) :
    handle = some c.pid ∨ ∃ after, caller.stop? = some (c.pid, after) := by
  cases h with
  | held _ _ => exact .inl rfl
  | stopping stop _ _ => exact .inr ⟨_, stop⟩
  | handing watcher _ => simp [Child.isTaken, watcher, Watcher.new] at taken
  | unwatched _ watcher _ => simp [Child.isTaken, watcher] at taken

/-- A process that was handed over and is held has a watcher that has it. -/
theorem Child.AttendedBy.isTaken {c : Child} {w : Watcher} (h : c.AttendedBy w) :
    c.isTaken = true := by
  simp [Child.isTaken, h.watcher, h.begun]

namespace Supervision

theorem recordOf?_eq_some {events : List Event} {pid : Pid} {r : ExitRecord} :
    recordOf? events pid = some r ↔
      r.pid = pid ∧ ∃ status, endOf? events pid = some status ∧ r.status = status.number := by
  obtain ⟨pid', number⟩ := r
  rw [recordOf?, Option.map_eq_some_iff]
  constructor
  · rintro ⟨status, hends, hr⟩
    obtain ⟨rfl, rfl⟩ := ExitRecord.mk.inj hr
    exact ⟨rfl, status, hends, rfl⟩
  · rintro ⟨rfl, status, hends, rfl⟩
    exact ⟨status, hends, rfl⟩

/-- Records that are those of some processes are numbered like them. -/
theorem map_pid_of_recordOf? {events : List Event} {rs : List ExitRecord} {pids : List Pid}
    (h : rs.map some = pids.map (recordOf? events)) : rs.map ExitRecord.pid = pids := by
  induction rs generalizing pids with
  | nil => simpa using h.symm
  | cons r rs ih =>
      cases pids with
      | nil => cases h
      | cons pid pids =>
          obtain ⟨hr, hrest⟩ := List.cons.inj h
          rw [List.map_cons, ih hrest, (recordOf?_eq_some.1 hr.symm).1]

/-- The latest exit is the last of the recorded ones. -/
theorem lastExit_map_pid (s : Supervision) :
    s.lastExit.map ExitRecord.pid = (s.records.reverse.map ExitRecord.pid).getLast? := by
  simp [lastExit]

/-! ## The records by past and present processes -/

namespace Chronicle

variable {options : SupervisorOptions} {events : List Event} {s : Supervision}
  {past : List Child} {present : Option Child}

/-- The engines that were started are past ones, or the present one. -/
theorem started_split (h : Chronicle options events s) (horder : Orderly s past present) :
    (new options).started events = (past.filter Child.isTaken).map Child.pid ++
      (present.toList.filter Child.isTaken).map Child.pid := by
  rw [h.started_eq, horder.children, List.filter_append, List.map_append]

/-- The recorded engines are the past ones, and the present one if its exit is recorded. -/
theorem recorded_split (h : Chronicle options events s) (horder : Orderly s past present) :
    s.records.reverse.map ExitRecord.pid = (past.filter Child.isTaken).map Child.pid ++
      (present.toList.filter Child.isRecorded).map Child.pid := by
  have hpast : past.filter Child.isTaken = past.filter Child.isRecorded :=
    List.filter_congr fun c hc => (horder.settled c hc).isRecorded_eq.symm
  have hrecords : s.records.reverse.map some =
      ((past.filter Child.isTaken).map Child.pid ++
        (present.toList.filter Child.isRecorded).map Child.pid).map (recordOf? events) := by
    rw [h.records_eq, horder.children, hpast, List.filter_append, ← List.map_append, List.map_map]
    rfl
  exact map_pid_of_recordOf? hrecords

/-- Each record is that of the process that it names. -/
theorem recordOf?_of_mem (h : Chronicle options events s) {r : ExitRecord}
    (hr : r ∈ s.records) : recordOf? events r.pid = some r := by
  have hmem : some r ∈ s.records.reverse.map some :=
    List.mem_map_of_mem (List.mem_reverse.2 hr)
  rw [h.records_eq] at hmem
  obtain ⟨c, _, hc⟩ := List.mem_map.1 hmem
  rwa [(recordOf?_eq_some.1 hc).1]

/-- Engines are started in the order of their launches. -/
theorem started_pairwise (h : Chronicle options events s) (horder : Orderly s past present) :
    ((new options).started events).Pairwise (· < ·) := by
  have hsublist := List.filter_sublist (p := Child.isTaken) (l := s.children) |>.map Child.pid
  rw [horder.numbered] at hsublist
  rw [h.started_eq]
  exact List.pairwise_lt_range.sublist hsublist

/-- The recorded engines are the first of those that were started. -/
theorem recorded_prefix (h : Chronicle options events s) (horder : Orderly s past present) :
    s.records.reverse.map ExitRecord.pid <+: (new options).started events := by
  rw [h.recorded_split horder, h.started_split horder]
  cases present with
  | none => exact List.prefix_refl _
  | some c =>
      cases hrecorded : c.isRecorded with
      | false => simp [hrecorded]
      | true => simp [hrecorded, Child.isTaken_of_isRecorded hrecorded]

/-- Without a present process every engine that was started is recorded. -/
theorem recorded_eq (h : Chronicle options events s) (horder : Orderly s past none) :
    s.records.reverse.map ExitRecord.pid = (new options).started events := by
  rw [h.recorded_split horder, h.started_split horder]
  rfl

/-- Without a present process the latest exit is that of the engine that was started last. -/
theorem lastExit_of_none (h : Chronicle options events s) (horder : Orderly s past none) :
    s.lastExit.map ExitRecord.pid = ((new options).started events).getLast? := by
  rw [lastExit_map_pid, h.recorded_eq horder]

/-- Later records are those of later engines. -/
theorem records_pairwise (h : Chronicle options events s) (horder : Orderly s past present) :
    (s.records.map ExitRecord.pid).Pairwise (· > ·) := by
  have hsorted := (h.started_pairwise horder).sublist (h.recorded_prefix horder).sublist
  rwa [List.map_reverse, List.pairwise_reverse] at hsorted

/-- An engine that was started and has no record is held, or a stop is about it. -/
theorem mem_recorded (h : Chronicle options events s) (horder : Orderly s past present)
    {pid : Pid} (hpid : pid ∈ (new options).started events) (hheld : s.handle ≠ some pid)
    (hstop : ∀ after, s.caller.stop? ≠ some (pid, after)) :
    pid ∈ s.records.reverse.map ExitRecord.pid := by
  rw [h.started_split horder] at hpid
  rw [h.recorded_split horder]
  rcases List.mem_append.1 hpid with hpast | hpresent
  · exact List.mem_append_left _ hpast
  · obtain ⟨c, hc, rfl⟩ := List.mem_map.1 hpresent
    obtain ⟨hpresent', taken⟩ := List.mem_filter.1 hc
    obtain rfl : present = some c := by simpa using hpresent'
    rcases horder.custody.of_isTaken taken with held | ⟨after, stop⟩
    · exact absurd held hheld
    · exact absurd stop (hstop after)

/-- While a process has not been waited for, exactly the other engines are recorded. -/
theorem recorded_of_unreaped (h : Chronicle options events s) (horder : Orderly s past present)
    {c : Child} (hc : c ∈ s.unreaped) :
    s.records.reverse.map ExitRecord.pid =
      ((new options).started events).filter fun pid => pid ≠ c.pid := by
  rw [horder.unreaped_eq] at hc
  obtain ⟨hmem, hunreaped⟩ := List.mem_filter.1 hc
  obtain rfl : present = some c := by simpa using hmem
  have hnone : c.isRecorded = false := by
    refine Bool.eq_false_iff.2 fun recorded => ?_
    simp [horder.custody.reaped_of_isRecorded recorded] at hunreaped
  have hpast : ((past.filter Child.isTaken).map Child.pid).filter (fun pid => pid ≠ c.pid) =
      (past.filter Child.isTaken).map Child.pid := by
    refine List.filter_eq_self.2 fun pid hpid => ?_
    obtain ⟨d, hd, rfl⟩ := List.mem_map.1 hpid
    simpa using horder.past_ne d (List.mem_filter.1 hd).1
  have hpresent : (((some c).toList.filter Child.isTaken).map Child.pid).filter
      (fun pid => pid ≠ c.pid) = [] := by
    refine List.filter_eq_nil_iff.2 fun pid hpid => ?_
    obtain ⟨d, hd, rfl⟩ := List.mem_map.1 hpid
    obtain rfl : d = c := by simpa using (List.mem_filter.1 hd).1
    simp
  rw [h.recorded_split horder, h.started_split horder, List.filter_append, hpast, hpresent]
  simp [hnone]

/-- The engine that is held is the one that was started last. -/
theorem started_getLast? (h : Chronicle options events s) (horder : Orderly s past present)
    {pid : Pid} (held : s.handle = some pid) :
    ((new options).started events).getLast? = some pid := by
  have hcustody := horder.custody
  rw [held] at hcustody
  rw [h.started_split horder]
  cases hcustody with
  | held _ attended => simp [attended.isTaken]

/-- The latest exit is the one that the run told, if it is that of some engine. -/
theorem lastExit_eq (h : Chronicle options events s) {pid : Pid}
    (hpid : s.lastExit.map ExitRecord.pid = some pid) :
    ∃ status, endOf? events pid = some status ∧ s.lastExit = some ⟨pid, status.number⟩ := by
  obtain ⟨r, hr, rfl⟩ := Option.map_eq_some_iff.1 hpid
  obtain ⟨_, status, hends, hstatus⟩ := recordOf?_eq_some.1
    (h.recordOf?_of_mem (List.mem_of_head? hr))
  exact ⟨status, hends, hr.trans (by rw [← hstatus])⟩

/-- A later latest exit is not that of an older engine. -/
theorem lastExit_mono (h : Chronicle options events s) (horder : Orderly s past present)
    {t : Supervision} (hsuffix : t.records <:+ s.records) {r r' : ExitRecord}
    (hr : t.lastExit = some r) (hr' : s.lastExit = some r') : r.pid ≤ r'.pid := by
  have hsorted := h.records_pairwise horder
  obtain ⟨added, hadded⟩ := hsuffix
  obtain ⟨older, holder⟩ := List.head?_eq_some_iff.1 hr
  obtain ⟨rest, hrest⟩ := List.head?_eq_some_iff.1 hr'
  rw [hrest, holder] at hadded
  rw [hrest, List.map_cons, List.pairwise_cons] at hsorted
  cases added with
  | nil => exact Nat.le_of_eq (congrArg ExitRecord.pid (List.cons.inj hadded).1)
  | cons _ added =>
      have hmem : r ∈ rest := by rw [← (List.cons.inj hadded).2]; simp
      exact Nat.le_of_lt (hsorted.1 r.pid (List.mem_map_of_mem hmem))

end Chronicle

/-- When a stop has succeeded, the latest exit is that of the engine that was held. -/
theorem lastExit_of_stop {options : SupervisorOptions} {before during : List Event}
    {s t : Supervision} (hbefore : (new options).run before = some t) {pid : Pid}
    (held : t.handle = some pid) (hrun : t.run (.call .stop :: during) = some s)
    (hcalls : ∀ e ∈ during, e.isCall = false) (between : s.caller.isBetween = true)
    (done : s.answer = .done)
    (hwaits : ∀ e ∈ before ++ .call .stop :: during, e.keepsStatus = true) :
    ∃ status, endOf? (before ++ .call .stop :: during) pid = some status ∧
      s.lastExit = some ⟨pid, status.number⟩ := by
  have h : (new options).run (before ++ .call .stop :: during) = some s := by
    rw [run_append, hbefore, Option.bind_some, hrun]
  obtain ⟨_, _, horder⟩ := orderly_run hbefore
  obtain ⟨_, present, horders⟩ := orderly_run h
  have hchronicle := chronicle_run hbefore fun e he => hwaits e (List.mem_append_left _ he)
  -- Of this call comes no start, so the engine that was held is still the last one.
  have hlast : ((new options).started (before ++ .call .stop :: during)).getLast? = some pid := by
    rw [started_append hbefore, horder.started_of_call hcalls hrun between (by rw [done]; rfl),
      List.append_nil]
    exact hchronicle.started_getLast? horder held
  obtain rfl := horders.custody.eq_none between (by rw [horders.answered between, done]; rfl)
  have hchronicles := chronicle_run h hwaits
  exact hchronicles.lastExit_eq ((hchronicles.lastExit_of_none horders).trans hlast)

/-! ## Later records -/

/-- Records are only added. -/
theorem Orderly.records_run {s t : Supervision} {past : List Child} {present : Option Child}
    (h : Orderly s past present) {events : List Event} (hrun : s.run events = some t) :
    s.records <:+ t.records := by
  induction events generalizing s past present with
  | nil => exact Option.some.inj hrun ▸ List.suffix_refl _
  | cons e rest ih =>
      obtain ⟨s', hstep, hrest⟩ := run_cons_eq_some.1 hrun
      obtain ⟨_, _, way⟩ := h.advance hstep
      obtain ⟨_, rs, _, _, hrecords⟩ := way.change h
      have hadded : s.records <:+ s'.records := hrecords ▸ List.suffix_append rs s.records
      exact hadded.trans (ih (way.orderly h) hrest)

/-- A process without a watcher, for which none is about to be hired. -/
def Unwatched (pid : Pid) (s : Supervision) : Prop :=
  (∃ c ∈ s.children, c.pid = pid ∧ c.watcher = none) ∧ s.caller ≠ .hiringWatcher pid

/-- A watcher is hired for a process that has just been launched. -/
theorem Advance.hiring {s s' : Supervision} {past past' : List Child}
    {present present' : Option Child} {e : Event}
    (way : Advance s past present e s' past' present') {pid : Pid}
    (hiring : s'.caller = .hiringWatcher pid) :
    s.caller = .hiringWatcher pid ∨ present = none ∧ pid = past.length := by
  have hstopped {after : AfterStop} (hiring : (s.stopped after).caller = .hiringWatcher pid) :
      False := by
    rcases caller_stopped s after with between | launching
    · rw [hiring] at between
      cases between
    · cases hiring.symm.trans launching
  cases way with
  | background _ => exact .inl hiring
  | launches _ => exact .inr ⟨rfl, (Caller.hiringWatcher.inj hiring).symm⟩
  | findsNone _ _ => exact (hstopped hiring).elim
  | joins _ _ _ => exact (hstopped hiring).elim
  | isRefused _ =>
      simp only [failStop] at hiring
      split at hiring <;> cases hiring
  | _ => cases hiring

/-- A process that has missed its watcher never gets one. -/
theorem Advance.unwatched {s s' : Supervision} {past past' : List Child}
    {present present' : Option Child} {e : Event} (h : Orderly s past present)
    (way : Advance s past present e s' past' present') {pid : Pid} (hs : Unwatched pid s) :
    Unwatched pid s' := by
  obtain ⟨⟨c, hc, rfl, watcher⟩, hcaller⟩ := hs
  obtain ⟨latest, rs, change, hchildren, _⟩ := way.change h
  generalize (reply? e s').bind CallAnswer.started? = pid? at change
  rw [h.children] at hc
  refine ⟨?_, fun hiring => ?_⟩
  · rw [hchildren]
    rcases List.mem_append.1 hc with hpast | hpresent
    · exact ⟨c, List.mem_append_left _ hpast, rfl, watcher⟩
    · obtain rfl : present = some c := by simpa using hpresent
      have hlatest {c' : Child} (hpid : c'.pid = c.pid) (watcher' : c'.watcher = none) :
          ∃ d ∈ past ++ (some c').toList, d.pid = c.pid ∧ d.watcher = none :=
        ⟨c', by simp, hpid, watcher'⟩
      cases change with
      | stays _ => exact hlatest rfl watcher
      | moves move =>
          cases move with
          | exits _ => exact hlatest rfl watcher
          | wakes hwatcher _ => cases hwatcher.symm.trans watcher
          | turns hwatcher _ => cases hwatcher.symm.trans watcher
      | receives hwatcher => cases hwatcher.symm.trans watcher
      | hires _ =>
          cases way with
          | background move => cases move
          | hires hiring => exact absurd hiring hcaller
      | handsOver hwatcher => cases hwatcher.symm.trans watcher
      | reaps _ => exact hlatest rfl watcher
  · rcases way.hiring hiring with hiring | ⟨rfl, hpid⟩
    · exact hcaller hiring
    · -- The number of a new process is not that of a past one.
      have hmem : c.pid ∈ past.map Child.pid := List.mem_map_of_mem (by simpa using hc)
      rw [h.past_numbered, List.mem_range] at hmem
      exact absurd hpid (Nat.ne_of_lt hmem)

theorem Unwatched.run {s t : Supervision} {past : List Child} {present : Option Child}
    {pid : Pid} (hs : Unwatched pid s) (h : Orderly s past present) {events : List Event}
    (hrun : s.run events = some t) : Unwatched pid t := by
  induction events generalizing s past present with
  | nil => exact Option.some.inj hrun ▸ hs
  | cons e rest ih =>
      obtain ⟨s', hstep, hrest⟩ := run_cons_eq_some.1 hrun
      obtain ⟨_, _, way⟩ := h.advance hstep
      exact ih (way.unwatched h hs) (way.orderly h) hrest

/-- A process whose watcher cannot be made stays without one. -/
theorem Orderly.unwatched_of_refusal {s s' : Supervision} {past : List Child}
    {present : Option Child} (h : Orderly s past present) {pid : Pid} {error : SystemError}
    (hiring : s.caller = .hiringWatcher pid)
    (hstep : s.step (.threadStarted (.error error)) = some s') : Unwatched pid s' := by
  obtain ⟨_, c, rfl, rfl, watcher, _⟩ := h.custody.of_unwatched (by rw [hiring]; rfl)
  simp only [step, hiring] at hstep
  obtain rfl := Option.some.inj hstep
  exact ⟨⟨c, by simp [h.children], rfl, watcher⟩, by simp⟩

/-- A process without a watcher has no record. -/
theorem Chronicle.not_mem_of_unwatched {options : SupervisorOptions} {events : List Event}
    {s : Supervision} {past : List Child} {present : Option Child}
    (h : Chronicle options events s) (horder : Orderly s past present) {pid : Pid}
    (hs : Unwatched pid s) : pid ∉ s.records.map ExitRecord.pid := by
  obtain ⟨⟨c, hc, rfl, watcher⟩, _⟩ := hs
  intro hrecorded
  have hstarted : c.pid ∈ (new options).started events :=
    (h.recorded_prefix horder).subset (by simpa using hrecorded)
  rw [h.started_eq] at hstarted
  obtain ⟨d, hd, hpid⟩ := List.mem_map.1 hstarted
  obtain ⟨hmem, taken⟩ := List.mem_filter.1 hd
  obtain rfl := horder.eq_of_pid_eq hmem hc hpid
  simp [Child.isTaken, watcher] at taken

/-! ## What the records show -/

/-- What the records show after a run. -/
structure ExitsOnRecord (options : SupervisorOptions) (events : List Event) (s : Supervision) :
    Prop where
  /-- The engines that were started with success, in the order of their starts, are numbered
  in this order. -/
  started : ((new options).started events).Pairwise (· < ·)
  /-- The recorded engines, the oldest record first, are the first of them. -/
  ordered : s.records.reverse.map ExitRecord.pid <+: (new options).started events
  /-- A record gives the status with which its engine ended. -/
  truthful : ∀ r ∈ s.records, ∃ status,
    endOf? events r.pid = some status ∧ r.status = status.number
  /-- No engine is recorded twice. -/
  once : ∀ pid, (s.records.map ExitRecord.pid).count pid ≤ 1
  /-- An engine that was started has its record, unless it is held or a stop is about it. -/
  complete : ∀ pid ∈ (new options).started events, s.handle ≠ some pid →
    (∀ after, s.caller.stop? ≠ some (pid, after)) → (s.records.map ExitRecord.pid).count pid = 1
  /-- When a stop has ended an engine with success, the latest exit is that of this engine. -/
  stopped : ∀ before during t pid, events = before ++ .call .stop :: during →
    (new options).run before = some t → t.handle = some pid → (∀ e ∈ during, e.isCall = false) →
    s.caller = .idle → s.answer = .done →
      ∃ status, endOf? events pid = some status ∧ s.lastExit = some ⟨pid, status.number⟩
  /-- When an engine is about to be launched, and between two calls when none is held, the
  latest exit is that of the engine that was started last. -/
  free : s.caller = .launching ∨ s.caller.isBetween = true ∧ s.handle = none →
    s.lastExit.map ExitRecord.pid = ((new options).started events).getLast?
  /-- When a process has been launched, it stays so until that process has been waited for. -/
  launched : ∀ c ∈ s.unreaped, s.lastExit.map ExitRecord.pid =
    (((new options).started events).filter fun pid => pid ≠ c.pid).getLast?
  /-- Records are only added, and the latest exit is never that of an older engine. -/
  kept : ∀ before after t, events = before ++ after → (new options).run before = some t →
    t.records <:+ s.records ∧
      ∀ r r', t.lastExit = some r → s.lastExit = some r' → r.pid ≤ r'.pid
  /-- An engine whose watcher could not be made has no record. -/
  discarded : ∀ before after t pid error,
    events = before ++ .threadStarted (.error error) :: after →
    (new options).run before = some t → t.caller = .hiringWatcher pid →
      (s.records.map ExitRecord.pid).count pid = 0

/-- After every run whose waits keep the status the exits are on record. -/
theorem run_exitsOnRecord {options : SupervisorOptions} {events : List Event} {s : Supervision}
    (h : (new options).run events = some s) (hwaits : ∀ e ∈ events, e.keepsStatus = true) :
    ExitsOnRecord options events s := by
  obtain ⟨past, present, horder⟩ := orderly_run h
  have hchronicle := chronicle_run h hwaits
  have hnodup : (s.records.map ExitRecord.pid).Nodup :=
    (hchronicle.records_pairwise horder).imp fun hlt => (Nat.ne_of_lt hlt).symm
  refine
    { started := hchronicle.started_pairwise horder
      ordered := hchronicle.recorded_prefix horder
      truthful := fun r hr => (recordOf?_eq_some.1 (hchronicle.recordOf?_of_mem hr)).2
      once := fun pid => List.nodup_iff_count.1 hnodup pid
      complete := ?_
      stopped := ?_
      free := ?_
      launched := fun c hc => by
        rw [lastExit_map_pid, hchronicle.recorded_of_unreaped horder hc]
      kept := ?_
      discarded := ?_ }
  · intro pid hpid hheld hstop
    have hmem := hchronicle.mem_recorded horder hpid hheld hstop
    rw [List.map_reverse, List.mem_reverse] at hmem
    exact Nat.le_antisymm (List.nodup_iff_count.1 hnodup pid) (List.count_pos_iff.2 hmem)
  · rintro before during t pid rfl hbefore held hcalls idle done
    rw [run_append, hbefore, Option.bind_some] at h
    exact lastExit_of_stop hbefore held h hcalls (by rw [idle]; rfl) done hwaits
  · intro free
    obtain rfl : present = none := by
      have hcustody := horder.custody
      rcases free with launching | ⟨between, free⟩
      · rw [launching] at hcustody
        exact hcustody.of_launching.2
      · exact hcustody.eq_none between free
    exact hchronicle.lastExit_of_none horder
  · rintro before after t rfl hbefore
    rw [run_append, hbefore, Option.bind_some] at h
    obtain ⟨_, _, horder'⟩ := orderly_run hbefore
    have hsuffix := horder'.records_run h
    exact ⟨hsuffix, fun r r' => hchronicle.lastExit_mono horder hsuffix⟩
  · rintro before after t pid error rfl hbefore hiring
    rw [run_append, hbefore, Option.bind_some] at h
    obtain ⟨t', hstep, hafter⟩ := run_cons_eq_some.1 h
    obtain ⟨_, _, horder'⟩ := orderly_run hbefore
    obtain ⟨_, _, way⟩ := horder'.advance hstep
    have hunwatched := (horder'.unwatched_of_refusal hiring hstep).run (way.orderly horder') hafter
    exact List.count_eq_zero.2 (hchronicle.not_mem_of_unwatched horder hunwatched)

/-- After the mishaps and a stop both engines that were started are on record, and the one
that was launched between them is not. -/
theorem run_exitsOnRecord_mishaps :
    ∃ s, (new impatient).run (mishaps ++ .call .stop :: farewell) = some s ∧
      (∀ e ∈ mishaps ++ .call .stop :: farewell, e.keepsStatus = true) ∧
      (new impatient).started (mishaps ++ .call .stop :: farewell) = [0, 2] ∧
      s.records = [⟨2, 143⟩, ⟨0, 3⟩] ∧
      (∃ status, endOf? (mishaps ++ .call .stop :: farewell) 2 = some status ∧
        s.lastExit = some ⟨2, status.number⟩) ∧
      (s.records.map ExitRecord.pid).count 1 = 0 := by
  have hs : (new impatient).run (mishaps ++ .call .stop :: farewell) = some _ := rfl
  have hrecord := run_exitsOnRecord hs (by decide)
  have hstopped := hrecord.stopped mishaps farewell _ 2 rfl rfl rfl (by decide) rfl rfl
  have hdiscarded := hrecord.discarded (mishaps.take 22)
    (mishaps.drop 23 ++ .call .stop :: farewell) _ 1 .tryAgain rfl rfl rfl
  exact ⟨_, hs, by decide, rfl, rfl, hstopped, hdiscarded⟩

end Supervision
end ProxyControl
