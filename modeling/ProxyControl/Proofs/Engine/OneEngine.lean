import ProxyControl.Proofs.Engine.Runs

/-!
# At most one engine

Whatever fails and whenever the engines end, at most one process of a supervision has not
been waited for.  Between two calls it is the one that the supervisor holds.

Main results:

- Theorem `Orderly.unreaped_eq`: only the present process may not have been waited for.
- Theorem `run_atMostOne`: at most one engine after every run, and the handle names it.
-/

namespace ProxyControl
namespace Supervision

/-- Only the present process may not have been waited for. -/
theorem Orderly.unreaped_eq {s : Supervision} {past : List Child} {present : Option Child}
    (h : Orderly s past present) :
    s.unreaped = present.toList.filter fun c => c.state ≠ .reaped := by
  have hpast : past.filter (fun c => decide (c.state ≠ .reaped)) = [] := by
    rw [List.filter_eq_nil_iff]
    intro c hc
    simp [(h.settled c hc).reaped]
  rw [unreaped, h.children, List.filter_append, hpast, List.nil_append]

/-- After every run at most one process has not been waited for.  Between two calls it is
the one that the supervisor holds, so that there is none if no engine is held.  When the
supervisor has been given up there is none, unless a signal was refused meanwhile. -/
theorem run_atMostOne {options : SupervisorOptions} {events : List Event} {s : Supervision}
    (h : (new options).run events = some s) :
    s.unreaped.length ≤ 1 ∧
      (s.caller = .idle → ∀ c ∈ s.unreaped, s.pid? = some c.pid) ∧
      (s.caller = .idle → s.pid? = none → s.unreaped = []) ∧
      (s.caller = .gone → ∀ before during, events = before ++ .call .drop :: during →
        (∀ e ∈ during, e.isRefusal = false) → s.unreaped = []) := by
  obtain ⟨past, present, horder⟩ := orderly_run h
  have hnone (hhandle : s.handle = none) (between : s.caller.isBetween = true) :
      s.unreaped = [] := by
    obtain rfl := horder.custody.eq_none between hhandle
    rw [horder.unreaped_eq]
    rfl
  refine ⟨?_, ?_, ?_, ?_⟩
  · rw [horder.unreaped_eq]
    exact Nat.le_trans (List.length_filter_le _ _) (by cases present <;> simp)
  · intro idle c hc
    rw [horder.unreaped_eq] at hc
    have hpresent : present = some c := by simpa using (List.mem_filter.1 hc).1
    rcases horder.custody.of_between (by rw [idle]; rfl) with ⟨_, hfree⟩ | ⟨d, w, hheld, hd, _⟩
    · cases hpresent.symm.trans hfree
    · rw [pid?, hheld, Option.some.inj (hpresent.symm.trans hd)]
  · intro idle hhandle
    exact hnone hhandle (by rw [idle]; rfl)
  · intro gone before during hevents hrefusals
    rw [hevents, run_append] at h
    obtain ⟨t, hbefore, hduring⟩ := Option.bind_eq_some_iff.1 h
    obtain ⟨_, _, horder'⟩ := orderly_run hbefore
    have between : s.caller.isBetween = true := by rw [gone]; rfl
    have hdone := horder'.done_of_stop (.inr rfl) hduring (by simp) hrefusals between
    exact hnone hdone.2 between

/-- A supervisor that kills engines which do not end in time. -/
def impatient : SupervisorOptions :=
  ⟨.ofText "engine", true⟩

/-- An engine is started, and the stop that follows may not kill it.  It ends in time for a
restart, but there is no thread to watch the next one.  Then another is started. -/
def mishaps : List Event :=
  [.call .start, .spawned (.ok ()), .threadStarted (.ok ()), .handedOver, .watcher 0 true,
    .call .stop, .readFlag, .signalled (.ok ()), .timedOut, .signalled (.error "not permitted"),
    .call .restart, .readFlag, .exits 0 (.code 3), .signalled (.ok ()), .watcher 0 true,
    .watcher 0 true, .watcher 0 true, .watcher 0 true, .received, .watcher 0 true, .joined,
    .spawned (.ok ()), .threadStarted (.error .tryAgain), .signalled (.ok ()),
    .exits 1 Program.killed, .waited,
    .call .start, .spawned (.ok ()), .threadStarted (.ok ()), .handedOver]

/-- The supervisor is given up, and its engine does what it is asked to. -/
def farewell : List Event :=
  [.readFlag, .signalled (.ok ()), .exits 2 Program.terminated, .watcher 2 true, .watcher 2 true,
    .watcher 2 true, .watcher 2 true, .watcher 2 true, .received, .watcher 2 true, .joined]

/-- After the mishaps one engine is left, and the supervisor holds it; when the supervisor
has been given up there is none. -/
theorem run_atMostOne_mishaps :
    ∃ s t, (new impatient).run mishaps = some s ∧ s.caller = .idle ∧
      s.unreaped = [⟨2, .running, some ⟨.entrusted, false⟩⟩] ∧ s.pid? = some 2 ∧
      (new impatient).run (mishaps ++ .call .drop :: farewell) = some t ∧ t.caller = .gone ∧
      t.unreaped = [] := by
  have hs : (new impatient).run mishaps = some _ := rfl
  have ht : (new impatient).run (mishaps ++ .call .drop :: farewell) = some _ := rfl
  have hleft := (run_atMostOne hs).2.1 rfl ⟨2, .running, some ⟨.entrusted, false⟩⟩ (by decide)
  have hgone := (run_atMostOne ht).2.2.2 rfl mishaps farewell rfl (by decide)
  exact ⟨_, _, hs, rfl, rfl, hleft, ht, rfl, hgone⟩

end Supervision
end ProxyControl
