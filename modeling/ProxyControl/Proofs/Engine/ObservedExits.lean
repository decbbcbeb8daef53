import ProxyControl.Proofs.Engine.ExitRecords

/-!
# Exits that are seen before they are recorded

A watcher lowers the running flag of its engine before it stores the record of the exit.
Between these two steps the supervisor shows an engine that does not run and has no record
yet.  With the next step of the watcher the record is there.

Main results:

- Theorem `run_lastExit_of_lowered`: an engine that is seen not to run has its record, or its
  watcher is between these two steps.
- Theorem `not_lastExit_of_lowered`: it may be there.
-/

namespace ProxyControl
namespace Supervision

namespace Chronicle

variable {options : SupervisorOptions} {events : List Event} {s : Supervision}
  {past : List Child} {c : Child}

/-- The record of the present process is the latest one, once it is stored. -/
theorem lastExit_of_isRecorded (h : Chronicle options events s) (horder : Orderly s past (some c))
    (recorded : c.isRecorded = true) :
    ∃ status, endOf? events c.pid = some status ∧ s.lastExit = some ⟨c.pid, status.number⟩ := by
  have hlast : s.lastExit.map ExitRecord.pid = some c.pid := by
    rw [lastExit_map_pid, h.recorded_split horder]
    simp [recorded]
  exact h.lastExit_eq hlast

/-- The present process has its record if one is stored in its name. -/
theorem isRecorded_of_mem (h : Chronicle options events s) (horder : Orderly s past (some c))
    (hmem : c.pid ∈ s.records.map ExitRecord.pid) : c.isRecorded = true := by
  have hpids : c.pid ∈ s.records.reverse.map ExitRecord.pid := by simpa using hmem
  rw [h.recorded_split horder] at hpids
  rcases List.mem_append.1 hpids with hpast | hpresent
  · obtain ⟨d, hd, hpid⟩ := List.mem_map.1 hpast
    exact absurd hpid (horder.past_ne d (List.mem_filter.1 hd).1)
  · obtain ⟨d, hd, _⟩ := List.mem_map.1 hpresent
    obtain ⟨hdc, recorded⟩ := List.mem_filter.1 hd
    obtain rfl : d = c := by simpa using hdc
    exact recorded

/-- A watcher that has lowered the flag has stored the record, or knows the status and is
about to store it. -/
theorem recorded_or_lowered (h : Chronicle options events s) (horder : Orderly s past (some c))
    {w : Watcher} (attended : c.AttendedBy w) (down : w.flag = false) :
    c.isRecorded = true ∨
      ∃ status, endOf? events c.pid = some status ∧ w.stage = .lowered (some status) := by
  cases hstage : w.stage with
  | expecting => exact absurd hstage attended.begun
  | entrusted => simp [Watcher.flag, hstage] at down
  | waiting => simp [Watcher.flag, hstage] at down
  | woken status => simp [Watcher.flag, hstage] at down
  | lowered status =>
      have htold := h.told c (by simp [horder.children])
      obtain ⟨hknown, hends⟩ := htold.known w status attended.watcher (.inr hstage)
      obtain ⟨status, rfl⟩ := Option.ne_none_iff_exists'.1 hknown
      exact .inr ⟨status, hends, rfl⟩
  | recorded => exact .inl (by simp [Child.isRecorded, attended.watcher, hstage])
  | sent => exact .inl (by simp [Child.isRecorded, attended.watcher, hstage])
  | ended => exact .inl (by simp [Child.isRecorded, attended.watcher, hstage])

end Chronicle

/-- After a watcher has lowered the flag, the next event in the background is that it stores
the record. -/
theorem Orderly.records_of_lowered {s s' : Supervision} {past : List Child} {c : Child}
    {w : Watcher} {status : ExitStatus} (h : Orderly s past (some c)) (attended : c.AttendedBy w)
    (lowered : w.stage = .lowered (some status)) {e : Event} (background : e.isBackground = true)
    (hstep : s.step e = some s') : s'.records = ⟨c.pid, status.number⟩ :: s.records := by
  have hreaped : c.state = .reaped := attended.reaped.2 (by rw [lowered]; rfl)
  obtain ⟨_, _, way⟩ := h.advance hstep
  cases way with
  | background move =>
      cases move with
      | exits running => cases hreaped.symm.trans running
      | wakes _ exited => cases hreaped.symm.trans exited
      | turns watcher turn =>
          obtain rfl := Option.some.inj (watcher.symm.trans attended.watcher)
          cases turn <;> cases lowered
          rfl
  | _ => cases background

/-- Once the engine that is held is seen not to run, the latest exit is its own, with the
status with which it ended.  The only exception is a watcher that has lowered the flag, has
not stored the record and has made no step since. -/
theorem run_lastExit_of_lowered {options : SupervisorOptions} {events after : List Event}
    {s t : Supervision} (h : (new options).run events = some s) (idle : s.caller = .idle)
    {pid : Pid} (held : s.pid? = some pid) (down : s.isRunning = false)
    (hrun : s.run after = some t) (hcalls : ∀ e ∈ after, e.isCall = false)
    (hwaits : ∀ e ∈ events ++ after, e.keepsStatus = true) :
    ∃ status, endOf? (events ++ after) pid = some status ∧
      (t.lastExit = some ⟨pid, status.number⟩ ∨
        t.watcher? pid = some ⟨.lowered (some status), false⟩ ∧
          ∀ known, .watcher pid known ∉ after) := by
  obtain ⟨past, present, horder⟩ := orderly_run h
  have between : s.caller.isBetween = true := by rw [idle]; rfl
  obtain ⟨c, w, hheld, rfl, attended⟩ : ∃ c w, s.handle = some c.pid ∧ present = some c ∧
      c.AttendedBy w := by
    rcases horder.custody.of_between between with ⟨free, _⟩ | held
    · cases free.symm.trans held
    · exact held
  obtain rfl := Option.some.inj (held.symm.trans hheld)
  have ht : (new options).run (events ++ after) = some t := by
    rw [run_append, h, Option.bind_some, hrun]
  have hlowered : w.flag = false := by
    rw [isRunning, hheld, Option.bind_some, horder.watcher?_present, attended.watcher,
      Option.any_some] at down
    exact down
  -- Once there is a record of the engine, it stays the latest one.
  have hrecord (hmem : c.pid ∈ t.records.map ExitRecord.pid) : ∃ status,
      endOf? (events ++ after) c.pid = some status ∧
        t.lastExit = some ⟨c.pid, status.number⟩ := by
    obtain ⟨_, hcaller, _, hhandle⟩ := horder.answers_of_between between hcalls hrun
    obtain ⟨_, _, hordert⟩ := horder.run hrun
    have hchronicle := chronicle_run ht hwaits
    rcases hordert.custody.of_between (hcaller ▸ between) with ⟨free, _⟩ | ⟨d, _, heldt, rfl, _⟩
    · cases free.symm.trans (hhandle.trans hheld)
    · have hpid : d.pid = c.pid := Option.some.inj (heldt.symm.trans (hhandle.trans hheld))
      rw [← hpid] at hmem ⊢
      exact hchronicle.lastExit_of_isRecorded hordert (hchronicle.isRecorded_of_mem hordert hmem)
  have hkept {u : Supervision} {past' : List Child} {present' : Option Child} {rest : List Event}
      (horder' : Orderly u past' present') (hrest : u.run rest = some t)
      (hmem : c.pid ∈ u.records.map ExitRecord.pid) : c.pid ∈ t.records.map ExitRecord.pid :=
    ((horder'.records_run hrest).map ExitRecord.pid).subset hmem
  have hchronicle := chronicle_run h fun e he => hwaits e (List.mem_append_left _ he)
  rcases hchronicle.recorded_or_lowered horder attended hlowered with
    recorded | ⟨status, hends, hstage⟩
  · obtain ⟨_, _, hlast⟩ := hchronicle.lastExit_of_isRecorded horder recorded
    have hmem : c.pid ∈ s.records.map ExitRecord.pid :=
      List.mem_map.2 ⟨_, List.mem_of_head? hlast, rfl⟩
    obtain ⟨status, hends, hlast⟩ := hrecord (hkept horder hrun hmem)
    exact ⟨status, hends, .inl hlast⟩
  · cases after with
    | nil =>
        obtain rfl := Option.some.inj hrun
        obtain ⟨stage, unread⟩ := w
        obtain rfl : stage = _ := hstage
        obtain rfl : unread = false := by simpa using attended.unread
        refine ⟨status, by rwa [List.append_nil], .inr ⟨?_, by simp⟩⟩
        rw [horder.watcher?_present, attended.watcher]
    | cons e rest =>
        obtain ⟨s', hstep, hrest⟩ := run_cons_eq_some.1 hrun
        have background :=
          horder.isBackground_of_between hstep between (hcalls e List.mem_cons_self)
        obtain ⟨_, _, way⟩ := horder.advance hstep
        have hrecords := horder.records_of_lowered attended hstage background hstep
        obtain ⟨status, hends, hlast⟩ :=
          hrecord (hkept (way.orderly horder) hrest (by simp [hrecords]))
        exact ⟨status, hends, .inl hlast⟩

/-- The engine has ended, and its watcher has lowered the flag. -/
def unrecorded : List Event :=
  [.call .start, .spawned (.ok ()), .threadStarted (.ok ()), .handedOver, .watcher 0 true,
    .exits 0 (.code 3), .watcher 0 true, .watcher 0 true]

/-- With the next step of the watcher its engine is on record. -/
theorem run_lastExit_of_lowered_unrecorded :
    ∃ s t, (new impatient).run unrecorded = some s ∧ s.caller = .idle ∧ s.pid? = some 0 ∧
      s.isRunning = false ∧ s.run [.watcher 0 true] = some t ∧
      (∀ e ∈ unrecorded ++ [.watcher 0 true], e.keepsStatus = true) ∧
      ∃ status, endOf? (unrecorded ++ [.watcher 0 true]) 0 = some status ∧
        t.lastExit = some ⟨0, status.number⟩ := by
  have hs : (new impatient).run unrecorded = some _ := rfl
  have ht : (new impatient).run (unrecorded ++ [.watcher 0 true]) = some _ := rfl
  rw [run_append, hs, Option.bind_some] at ht
  obtain ⟨status, hends, hlast⟩ :=
    run_lastExit_of_lowered hs rfl (show _ = some 0 from rfl) rfl ht (by decide) (by decide)
  refine ⟨_, _, hs, rfl, rfl, rfl, ht, by decide, status, hends, ?_⟩
  exact hlast.resolve_right fun ⟨_, hno⟩ => hno true (by simp)

/-- An engine that is seen not to run need not be on record. -/
theorem not_lastExit_of_lowered :
    ¬ ∀ (options : SupervisorOptions) (events : List Event) (s : Supervision) (pid : Pid),
      (new options).run events = some s → (∀ e ∈ events, e.keepsStatus = true) →
      s.caller = .idle → s.pid? = some pid → s.isRunning = false →
        ∃ r, s.lastExit = some r ∧ r.pid = pid := by
  intro hall
  obtain ⟨r, hr, _⟩ := hall impatient unrecorded _ 0 rfl (by decide) rfl rfl rfl
  cases hr

end Supervision
end ProxyControl
