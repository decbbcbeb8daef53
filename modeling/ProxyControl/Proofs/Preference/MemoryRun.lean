import ProxyControl.Preference.Memory
import ProxyControl.Proofs.Preference.ServicePass

/-!
# Runs over the preferences in memory

What a run does to the preferences in memory depends on the failures that were injected
and on whether a service is stale.  There are six ways for it to end, and each leaves a
state that can be written down.

Main results:

- Theorem `MemoryPreferences.writeStale_eq`: the outcomes and the staged writes of a pass.
- Theorem `MemoryPreferences.foldl_publish`: what a batch of writes changes.
- Relation `MemoryPreferences.RunEnd`: the ways for a run to end.
- Theorem `MemoryPreferences.run_end`: every run ends in one of them.
-/

namespace ProxyControl

namespace MemoryPreferences

/-! ## The services found -/

/-- The services as a run reads them. -/
def networkServices (m : MemoryPreferences) : List NetworkService :=
  m.services.map .ofEntry

/-- An empty tree reads as no services, like a missing one. -/
@[simp]
theorem ofSnapshot_value (m : MemoryPreferences) :
    NetworkService.ofSnapshot (value networkServicesKey m) = m.networkServices := by
  unfold value networkServices
  by_cases h : m.services = []
  · simp [h]
  · simp [h]

/-! ## Staged writes -/

/-- The answer to a write to a service's proxies. -/
def writeAnswer (failures : InjectedFailures) (service : NetworkService) :
    Except PreferencesError Unit :=
  checkPath failures service.proxiesPath (PrefPath.components service.proxiesPath)

/-- The outcome of a service in a pass. -/
def passOutcome (failures : InjectedFailures) (wanted : ProxyDict) (service : NetworkService) :
    ServiceOutcome :=
  if ProxyDict.needsWrite service.current wanted then
    .ofAnswer service (writeAnswer failures service)
  else .upToDate service

/-- The writes to some services that are accepted. -/
def acceptedWrites (failures : InjectedFailures) (wanted : ProxyDict)
    (services : List NetworkService) : StagedWrites :=
  (services.filter fun service => (writeAnswer failures service).isOk).map fun service =>
    (PrefPath.components service.proxiesPath, wanted)

/-- The preferences with more calls in the log. -/
def logAll (m : MemoryPreferences) (calls : List MemoryCall) : MemoryPreferences :=
  { m with calls := m.calls ++ calls }

/-- Logging leaves the failures. -/
@[simp]
theorem failures_logAll (m : MemoryPreferences) (calls : List MemoryCall) :
    (m.logAll calls).failures = m.failures :=
  rfl

@[simp]
theorem logAll_nil (m : MemoryPreferences) : m.logAll [] = m := by
  simp [logAll]

/-- Calls that are logged in two parts are logged in order. -/
@[simp]
theorem logAll_logAll (m : MemoryPreferences) (first second : List MemoryCall) :
    (m.logAll first).logAll second = m.logAll (first ++ second) := by
  simp [logAll]

/-- To log a call is to log a list of one. -/
theorem log_eq_logAll (m : MemoryPreferences) (c : MemoryCall) : m.log c = m.logAll [c] :=
  rfl

/-- A write to a service's proxies is logged, and staged if it is accepted. -/
theorem setPath_proxiesPath (service : NetworkService) (wanted : ProxyDict)
    (staged : StagedWrites) (m : MemoryPreferences) :
    session.setPath service.proxiesPath wanted (staged, m) =
      (writeAnswer m.failures service,
        (staged ++ acceptedWrites m.failures wanted [service], m.logAll [.setPath])) := by
  simp only [session, setPath, acceptedWrites, log_eq_logAll, failures_logAll]
  cases h : writeAnswer m.failures service with
  | error e =>
      rw [writeAnswer] at h
      simp [h, writeAnswer, Except.isOk, Except.toBool]
  | ok _ =>
      rw [writeAnswer] at h
      simp [h, writeAnswer, Except.isOk, Except.toBool]

/-- The accepted writes are decided one service at a time. -/
theorem acceptedWrites_cons (failures : InjectedFailures) (wanted : ProxyDict)
    (service : NetworkService) (rest : List NetworkService) :
    acceptedWrites failures wanted (service :: rest) =
      acceptedWrites failures wanted [service] ++ acceptedWrites failures wanted rest := by
  simp only [acceptedWrites]
  rw [← List.map_append, ← List.filter_append, List.singleton_append]

/-- A pass gives every service its outcome, stages the accepted writes, and changes nothing
but the log. -/
theorem writeStale_eq (wanted : ProxyDict) (services : List NetworkService)
    (staged : StagedWrites) (m : MemoryPreferences) :
    session.writeStale wanted services (staged, m) =
      let stale := services.filter fun service => ProxyDict.needsWrite service.current wanted
      (services.map (passOutcome m.failures wanted),
        (staged ++ acceptedWrites m.failures wanted stale,
          m.logAll (List.replicate stale.length .setPath))) := by
  induction services generalizing staged m with
  | nil => simp [acceptedWrites]
  | cons service rest ih =>
      cases h : ProxyDict.needsWrite service.current wanted with
      | true =>
          rw [Session.writeStale_cons_of_needsWrite session h, setPath_proxiesPath]
          simp only [ih, h, failures_logAll, logAll_logAll, List.map_cons, passOutcome, if_true,
            List.filter_cons_of_pos, List.length_cons, List.replicate_succ, List.singleton_append]
          rw [acceptedWrites_cons m.failures wanted service (rest.filter _), List.append_assoc]
      | false =>
          rw [Session.writeStale_cons_of_upToDate session h]
          simp [ih, h, passOutcome]

/-! ## Published writes -/

/-- The tree after a list of writes. -/
def replay (tree : PrefDict) (writes : StagedWrites) : PrefDict :=
  writes.foldl (fun tree write => tree.setPath (write.1.drop 1) write.2) tree

/-- Writes in two parts are replayed in order. -/
theorem replay_append (tree : PrefDict) (writes others : StagedWrites) :
    replay tree (writes ++ others) = replay (replay tree writes) others :=
  List.foldl_append

/-- A write as it stands in the log of writes. -/
def logEntry (write : StagedWrite) : String × ProxyDict :=
  (PrefPath.write write.1, write.2)

/-- Publishing a batch replays it on the tree and logs it, and changes nothing else. -/
theorem foldl_publish (writes : StagedWrites) (m : MemoryPreferences) :
    writes.foldl publish m =
      { m with
        services := replay m.services writes
        writes := m.writes ++ writes.map logEntry } := by
  induction writes generalizing m with
  | nil => simp [replay]
  | cons write rest ih =>
      rw [List.foldl_cons, ih]
      simp [publish, replay, logEntry]

/-! ## The end of a run -/

/-- The services that a run for a port writes. -/
def staleFor (m : MemoryPreferences) (port : UInt16) : List NetworkService :=
  NetworkService.stale (ProxyDict.desired port) m.networkServices

/-- The writes of a run for a port that are accepted. -/
def acceptedFor (m : MemoryPreferences) (port : UInt16) : StagedWrites :=
  acceptedWrites m.failures (ProxyDict.desired port) (m.staleFor port)

/-- The outcomes of a run for a port. -/
def outcomesFor (m : MemoryPreferences) (port : UInt16) : List ServiceOutcome :=
  (NetworkService.eligible m.networkServices).map
    (passOutcome m.failures (ProxyDict.desired port))

/-- The preferences after some calls under a credential that was given back. -/
def visited (m : MemoryPreferences) (calls : List MemoryCall) : MemoryPreferences :=
  { m.logAll calls with
    lastFlags := some .sync
    acquired := m.acquired + 1
    released := m.released + 1 }

/-- The preferences after a batch was committed. -/
def committed (m : MemoryPreferences) (writes : StagedWrites) : MemoryPreferences :=
  { m with
    services := replay m.services writes
    writes := m.writes ++ writes.map logEntry
    commits := m.commits + 1 }

/-- The calls of a run up to its last write. -/
def passCalls (m : MemoryPreferences) (port : UInt16) : List MemoryCall :=
  [.authorize, .openSession] ++ List.replicate (m.staleFor port).length .setPath

/-- The ways for a run to end, with the result and the state it leaves. -/
inductive RunEnd (m : MemoryPreferences) (port : UInt16) :
    Except SyncError SyncReport → MemoryPreferences → Prop where
  /-- The credential was denied. -/
  | denied {status} (authorization : m.failures.authorization = some status) :
      RunEnd m port (.error (.authorization status))
        { m.logAll [.authorize] with lastFlags := some .sync }
  /-- No session could be opened. -/
  | refused {message} (authorization : m.failures.authorization = none)
      (session : m.failures.session = some message) :
      RunEnd m port (.error (.session ⟨message⟩))
        (m.visited [.authorize, .openSession, .release])
  /-- No service had to be written. -/
  | upToDate (authorization : m.failures.authorization = none)
      (session : m.failures.session = none) (fresh : m.staleFor port = []) :
      RunEnd m port
        (.ok ⟨port, (NetworkService.eligible m.networkServices).map .upToDate, false⟩)
        (m.visited [.authorize, .openSession, .release])
  /-- The staged writes could not be committed. -/
  | commitFailed (authorization : m.failures.authorization = none)
      (session : m.failures.session = none) (work : m.staleFor port ≠ [])
      (commit : m.failures.commit = true) :
      RunEnd m port (.error (.commit ⟨"commit failed"⟩))
        (m.visited (m.passCalls port ++ [.commit, .release]))
  /-- The accepted writes were committed and could not be made active. -/
  | applyFailed (authorization : m.failures.authorization = none)
      (session : m.failures.session = none) (work : m.staleFor port ≠ [])
      (commit : m.failures.commit = false) (apply : m.failures.apply = true) :
      RunEnd m port (.error (.apply ⟨"apply failed"⟩))
        ((m.committed (m.acceptedFor port)).visited
          (m.passCalls port ++ [.commit, .apply, .release]))
  /-- The accepted writes were committed and made active. -/
  | applied (authorization : m.failures.authorization = none)
      (session : m.failures.session = none) (work : m.staleFor port ≠ [])
      (commit : m.failures.commit = false) (apply : m.failures.apply = false) :
      RunEnd m port (.ok ⟨port, m.outcomesFor port, true⟩)
        { (m.committed (m.acceptedFor port)).visited
            (m.passCalls port ++ [.commit, .apply, .synchronize, .release]) with
          applies := m.applies + 1
          synchronizes := m.synchronizes + 1 }

section Run

variable {m : MemoryPreferences}

/-- What concludes a run over the preferences in memory. -/
theorem conclude_eq (port : UInt16) (outcomes : List ServiceOutcome) (staged : StagedWrites)
    (m : MemoryPreferences) :
    Synchronizer.conclude session port outcomes (staged, m) =
      if m.failures.commit then
        (.error (.commit ⟨"commit failed"⟩), (staged, m.logAll [.commit]))
      else if m.failures.apply then
        (.error (.apply ⟨"apply failed"⟩), ([], (m.committed staged).logAll [.commit, .apply]))
      else
        (.ok ⟨port, outcomes, true⟩,
          ([], { (m.committed staged).logAll [.commit, .apply, .synchronize] with
            applies := m.applies + 1
            synchronizes := m.synchronizes + 1 })) := by
  by_cases hcommit : m.failures.commit = true
  · simp [Synchronizer.conclude, session, commit, log_eq_logAll, hcommit]
  · by_cases happly : m.failures.apply = true
    · simp [Synchronizer.conclude, session, commit, apply, log, logAll, foldl_publish, committed,
        hcommit, happly]
    · simp [Synchronizer.conclude, session, commit, apply, synchronize, log, logAll,
        foldl_publish, committed, hcommit, happly]

/-- A run without a stale service leaves the state as it is. -/
theorem runSession_of_noWork (port : UInt16) (hfresh : m.staleFor port = []) :
    (Synchronizer.runSession session port ([], m)).result =
        .ok ⟨port, (NetworkService.eligible m.networkServices).map .upToDate, false⟩ ∧
      (Synchronizer.runSession session port ([], m)).state = ([], m) := by
  have hread : session.value networkServicesKey ([], m) =
      (value networkServicesKey m, ([], m)) := rfl
  have hservices := ofSnapshot_value m
  have hstale : NetworkService.stale (ProxyDict.desired port)
      (NetworkService.ofSnapshot (value networkServicesKey m)) = [] := by
    rw [hservices]
    exact hfresh
  have hend := Synchronizer.runSession_of_fresh session hread hstale
  rw [hservices] at hend
  exact hend

/-- A run with a stale service concludes over the state that its pass left. -/
theorem runSession_of_work (port : UInt16) (hwork : m.staleFor port ≠ []) :
    let x : StagedWrites × MemoryPreferences :=
      (m.acceptedFor port, m.logAll (List.replicate (m.staleFor port).length .setPath))
    (Synchronizer.runSession session port ([], m)).result =
        (Synchronizer.conclude session port (m.outcomesFor port) x).1 ∧
      (Synchronizer.runSession session port ([], m)).state =
        (Synchronizer.conclude session port (m.outcomesFor port) x).2 := by
  have hread : session.value networkServicesKey ([], m) =
      (value networkServicesKey m, ([], m)) := rfl
  have hservices := ofSnapshot_value m
  have hwritten := writeStale_eq (ProxyDict.desired port)
    (NetworkService.eligible m.networkServices) [] m
  simp only [← NetworkService.stale_eq_filter_eligible, List.nil_append] at hwritten
  rw [← hservices] at hwritten
  have hstale : NetworkService.stale (ProxyDict.desired port)
      (NetworkService.ofSnapshot (value networkServicesKey m)) ≠ [] := by
    rw [hservices]
    exact hwork
  have hend := Synchronizer.runSession_of_stale session hread hwritten hstale
  rw [hservices] at hend
  exact hend

/-- The preferences with a credential granted. -/
def granted (m : MemoryPreferences) : MemoryPreferences :=
  { m.logAll [.authorize] with lastFlags := some .sync, acquired := m.acquired + 1 }

/-- Without a failure in its way an authorization is granted. -/
theorem authorize_eq_granted (hauthorization : m.failures.authorization = none) :
    backend.authorize .sync m = (.ok (), m.granted) := by
  simp [backend, authorize, granted, log, logAll, hauthorization]

/-- A session that is to fail is logged and refused. -/
theorem openSession_of_failure {message : String} (name : String)
    (hsession : m.failures.session = some message) :
    backend.openSession name () m = (.error ⟨message⟩, m.logAll [.openSession]) := by
  simp [backend, openSession, log, logAll, hsession]

/-- Otherwise a session opens with nothing staged. -/
theorem openSession_of_noFailure (name : String) (hsession : m.failures.session = none) :
    backend.openSession name () m = (.ok [], m.logAll [.openSession]) := by
  simp [backend, openSession, log, logAll, hsession]

/-- A run that is refused a session gives the credential back. -/
theorem run_of_noSession (port : UInt16) (hauthorization : m.failures.authorization = none)
    {message : String} (hsession : m.failures.session = some message) :
    (Synchronizer.run backend port m).result = .error (.session ⟨message⟩) ∧
      (Synchronizer.run backend port m).state =
        m.visited [.authorize, .openSession, .release] := by
  have hopen := openSession_of_failure (m := m.granted) Synchronizer.sessionName hsession
  have hend := Synchronizer.run_of_refused port (authorize_eq_granted hauthorization) hopen
  simpa [backend, release, granted, visited, log, logAll] using hend

/-- A run with a session ends as its part inside the session, and gives the credential
back. -/
theorem run_of_session (port : UInt16) (hauthorization : m.failures.authorization = none)
    (hsession : m.failures.session = none) :
    let x : StagedWrites × MemoryPreferences := ([], m.granted.logAll [.openSession])
    (Synchronizer.run backend port m).result = (Synchronizer.runSession session port x).result ∧
      (Synchronizer.run backend port m).state =
        (Synchronizer.runSession session port x).state.2.release := by
  have hopen := openSession_of_noFailure (m := m.granted) Synchronizer.sessionName hsession
  exact Synchronizer.run_of_opened port (authorize_eq_granted hauthorization) hopen

/-- What is left of a run once the accepted writes are staged. -/
theorem runEnd_of_work (port : UInt16) (hauthorization : m.failures.authorization = none)
    (hsession : m.failures.session = none) (hwork : m.staleFor port ≠ []) :
    let x : StagedWrites × MemoryPreferences := (m.acceptedFor port,
      m.granted.logAll ([.openSession] ++ List.replicate (m.staleFor port).length .setPath))
    let ended := Synchronizer.conclude session port (m.outcomesFor port) x
    RunEnd m port ended.1 ended.2.2.release := by
  intro x ended
  have hended := conclude_eq port (m.outcomesFor port) x.1 x.2
  have hfailures : x.2.failures = m.failures := rfl
  rw [hfailures] at hended
  by_cases hcommit : m.failures.commit = true
  · rw [if_pos hcommit] at hended
    have hstate : ended.2.2.release =
        m.visited (m.passCalls port ++ [.commit, .release]) := by
      simp [ended, x, hended, release, granted, visited, passCalls, log, logAll]
    have hresult : ended.1 = .error (.commit ⟨"commit failed"⟩) := congrArg Prod.fst hended
    rw [hresult, hstate]
    exact .commitFailed hauthorization hsession hwork hcommit
  · rw [if_neg hcommit] at hended
    rw [Bool.not_eq_true] at hcommit
    by_cases happly : m.failures.apply = true
    · rw [if_pos happly] at hended
      have hstate : ended.2.2.release = (m.committed (m.acceptedFor port)).visited
          (m.passCalls port ++ [.commit, .apply, .release]) := by
        simp [ended, x, hended, release, granted, visited, committed, passCalls, log, logAll]
      have hresult : ended.1 = .error (.apply ⟨"apply failed"⟩) := congrArg Prod.fst hended
      rw [hresult, hstate]
      exact .applyFailed hauthorization hsession hwork hcommit happly
    · rw [if_neg happly] at hended
      rw [Bool.not_eq_true] at happly
      have hstate : ended.2.2.release =
          { (m.committed (m.acceptedFor port)).visited
              (m.passCalls port ++ [.commit, .apply, .synchronize, .release]) with
            applies := m.applies + 1
            synchronizes := m.synchronizes + 1 } := by
        simp [ended, x, hended, release, granted, visited, committed, passCalls, log, logAll]
      have hresult : ended.1 = .ok ⟨port, m.outcomesFor port, true⟩ := congrArg Prod.fst hended
      rw [hresult, hstate]
      exact .applied hauthorization hsession hwork hcommit happly

end Run

/-- Every run ends in one of these ways. -/
theorem run_end (m : MemoryPreferences) (port : UInt16) :
    RunEnd m port (Synchronizer.run backend port m).result
      (Synchronizer.run backend port m).state := by
  cases hauthorization : m.failures.authorization with
  | some status =>
      have hauthorize : backend.authorize .sync m =
          (.error status, { m.logAll [.authorize] with lastFlags := some .sync }) := by
        simp [backend, authorize, log, logAll, hauthorization]
      obtain ⟨hresult, hstate⟩ := Synchronizer.run_of_denied port hauthorize
      rw [hresult, hstate]
      exact .denied hauthorization
  | none =>
  cases hsession : m.failures.session with
  | some message =>
      obtain ⟨hresult, hstate⟩ := run_of_noSession port hauthorization hsession
      rw [hresult, hstate]
      exact .refused hauthorization hsession
  | none =>
  obtain ⟨hresult, hstate⟩ := run_of_session port hauthorization hsession
  -- Reading the services does not look at the log, so the session finds those of `m`.
  by_cases hwork : m.staleFor port = []
  · obtain ⟨hresult', hstate'⟩ :=
      runSession_of_noWork (m := m.granted.logAll [.openSession]) port hwork
    have hvisited : (m.granted.logAll [.openSession]).release =
        m.visited [.authorize, .openSession, .release] := by
      simp [release, granted, visited, log, logAll]
    rw [hresult, hstate, hresult', hstate', hvisited]
    exact .upToDate hauthorization hsession hwork
  · obtain ⟨hresult', hstate'⟩ :=
      runSession_of_work (m := m.granted.logAll [.openSession]) port hwork
    rw [hresult, hstate, hresult', hstate', logAll_logAll]
    exact runEnd_of_work port hauthorization hsession hwork

end MemoryPreferences
end ProxyControl
