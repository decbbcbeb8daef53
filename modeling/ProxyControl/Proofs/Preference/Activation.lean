import ProxyControl.Proofs.Preference.History

/-!
# Commits that become active

A run that cannot make its batch active ends with an error, but the batch stays committed.
The next run compares the stored dictionaries only.  If it finds nothing to write it
reports success without a commit and without making the earlier batch active.  So a run
that succeeds means that all committed changes are active if the run has committed itself;
otherwise it depends on the runs before it.

Main results:

- Theorem `MemoryPreferences.RunEnd.counts`: which ends of a run commit and apply.
- Theorem `Clients.commits_leadsTo_applies_iff`: when every commit is made active.
- Theorem `Clients.run_ok_leadsTo`: what a successful run says about the commits so far.
- Theorem `Clients.not_run_ok_leadsTo`: it does not say that all of them are active.
-/

namespace ProxyControl

/-! ## Counts of a run -/

namespace MemoryPreferences

/-- A run applies exactly if it reports a commit, and commits exactly if it applies or fails
to apply. -/
theorem RunEnd.counts {m m' : MemoryPreferences} {port : UInt16}
    {result : Except SyncError SyncReport} (h : RunEnd m port result m') :
    (m.applies < m'.applies ↔ ∃ report, result = .ok report ∧ report.committed = true) ∧
      (m.commits < m'.commits ↔
        m.applies < m'.applies ∨ ∃ cause, result = .error (.apply cause)) := by
  cases h with
  | denied _ => simp [logAll]
  | refused _ _ => simp [visited, logAll]
  | upToDate _ _ _ => simp [visited, logAll]
  | commitFailed _ _ _ _ => simp [visited, logAll]
  | applyFailed _ _ _ _ _ => simp [visited, logAll, committed]
  | applied _ _ _ _ _ => simp [visited, logAll, committed]

end MemoryPreferences

namespace Clients

/-! ## Kinds of steps -/

/-- The step is counted as a successful commit. -/
def Commits (c : Clients) (action : Action) : Prop :=
  c.prefs.commits < (c.step action).state.prefs.commits

/-- The step is counted as a successful apply.  In a run it comes after the commit. -/
def Applies (c : Clients) (action : Action) : Prop :=
  c.prefs.applies < (c.step action).state.prefs.applies

/-- The step is a run that committed and could not make its batch active. -/
def FailsToApply (c : Clients) (action : Action) : Prop :=
  ∃ cause, (c.step action).answer = .syncFailed (.apply cause)

/-- The step is a run that reports a commit. -/
def ReportsCommit (c : Clients) (action : Action) : Prop :=
  ∃ report, (c.step action).answer = .report report ∧ report.committed = true

instance decidableCommits (c : Clients) (action : Action) : Decidable (Commits c action) :=
  inferInstanceAs (Decidable (_ < _))

instance decidableApplies (c : Clients) (action : Action) : Decidable (Applies c action) :=
  inferInstanceAs (Decidable (_ < _))

/-- The action adds a service, injects or clears failures, or is a run. -/
def Unattended (action : Action) : Prop :=
  action.addsService = true ∨ action.setsFailures = true ∨ action.isRun = true

instance decidableUnattended (action : Action) : Decidable (Unattended action) :=
  inferInstanceAs (Decidable (_ ∨ _))

/-- The counts of such a step tell the runs that report a commit from those that could not
make it active. -/
theorem counts_step (c : Clients) {action : Action} (h : Unattended action) :
    (Applies c action ↔ ReportsCommit c action) ∧
      (Commits c action ↔ Applies c action ∨ FailsToApply c action) := by
  unfold Applies Commits ReportsCommit FailsToApply
  rcases h with hadds | hfailures | hrun
  · obtain ⟨id, hardware, proxies, rfl⟩ := Action.exists_of_addsService hadds
    simp [step, MemoryPreferences.addService]
  · obtain ⟨hanswer, failures, hstate⟩ := c.step_of_setsFailures hfailures
    rw [hstate, hanswer]
    simp
  · obtain ⟨port, rfl⟩ := Action.exists_of_isRun hrun
    have hcounts := (MemoryPreferences.run_end c.prefs port).counts
    rw [state_run]
    cases hresult : (Synchronizer.run MemoryPreferences.backend port c.prefs).result with
    | ok report =>
        rw [answer_of_ok hresult]
        simpa [hresult] using hcounts
    | error error =>
        rw [answer_of_error hresult]
        simpa [hresult] using hcounts

/-! ## Successful runs -/

/-- Every commit is followed by an apply exactly if every run that could not make its batch
active is followed by one that reports a commit. -/
theorem commits_leadsTo_applies_iff (c : Clients) {history : List Action}
    (h : ∀ action ∈ history, Unattended action) :
    LeadsTo Commits Applies c history ↔ LeadsTo FailsToApply ReportsCommit c history :=
  leadsTo_congr (fun c _ haction => (counts_step c haction).1)
    (fun c _ haction => (counts_step c haction).2) h

/-- What a successful run says about the history of fresh preferences.  If it has committed,
every successful commit so far is followed by a successful apply.  In any case this is so
exactly if every run that ended with an apply error is followed by one that has committed. -/
theorem run_ok_leadsTo {history : List Action} (h : ∀ action ∈ history, Unattended action)
    {port : UInt16} {report : SyncReport}
    (ok : ((({} : Clients).after history).step (.run port)).answer = .report report) :
    (report.committed = true → LeadsTo Commits Applies {} (history ++ [.run port])) ∧
      (LeadsTo Commits Applies {} (history ++ [.run port]) ↔
        LeadsTo FailsToApply ReportsCommit {} (history ++ [.run port])) := by
  have hlast : Unattended (.run port) := .inr (.inr rfl)
  constructor
  · intro hcommitted
    apply leadsTo_last
    exact (counts_step _ hlast).1.2 ⟨report, ok, hcommitted⟩
  · apply commits_leadsTo_applies_iff
    intro action haction
    rcases List.mem_append.1 haction with haction | haction
    · exact h action haction
    · rw [List.mem_singleton.1 haction]
      exact hlast

/-- A wired service is pointed at a port, but this cannot be made active. -/
def lostApply : List Action :=
  [.addService "ETH" (some "Ethernet") none, .failApply, .run 3128, .clearFailures]

/-- A later run for another port commits, and makes both batches active. -/
theorem run_ok_leadsTo_otherPort :
    (∀ action ∈ lostApply, Unattended action) ∧
      (((({} : Clients).after lostApply).step (.run 8080)).answer =
        .report ⟨8080, [⟨"ETH", true, none⟩], true⟩) ∧
      LeadsTo Commits Applies {} (lostApply ++ [.run 8080]) ∧
      LeadsTo FailsToApply ReportsCommit {} (lostApply ++ [.run 8080]) := by
  have hunattended : ∀ action ∈ lostApply, Unattended action := by decide
  have hanswer : ((({} : Clients).after lostApply).step (.run 8080)).answer =
      .report ⟨8080, [⟨"ETH", true, none⟩], true⟩ := rfl
  have hrun := run_ok_leadsTo hunattended hanswer
  exact ⟨hunattended, hanswer, hrun.1 rfl, hrun.2.1 (hrun.1 rfl)⟩

/-- A later run for the same port finds nothing to write and reports success, although the
earlier commit was never made active. -/
theorem not_run_ok_leadsTo :
    ¬ ∀ (history : List Action) (port : UInt16) (report : SyncReport),
      (∀ action ∈ history, Unattended action) →
      ((({} : Clients).after history).step (.run port)).answer = .report report →
      LeadsTo Commits Applies {} (history ++ [.run port]) := by
  intro h
  have hunattended : ∀ action ∈ lostApply, Unattended action := by decide
  have hanswer : ((({} : Clients).after lostApply).step (.run 3128)).answer =
      .report ⟨3128, [⟨"ETH", false, none⟩], false⟩ := rfl
  have hnot : ¬ LeadsTo Commits Applies {} (lostApply ++ [.run 3128]) := by decide +kernel
  exact hnot (h lostApply 3128 _ hunattended hanswer)

end Clients
end ProxyControl
