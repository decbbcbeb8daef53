import ProxyControl.Preference.Backend
import ProxyControl.Proofs.Dictionaries
import ProxyControl.Proofs.Preference.ServicePass

/-!
# The calls of a run

A run over a recorded backend goes as over the backend itself, and the record shows every
call that it made.  Which calls these are depends on the answers alone.  They are described
by two relations, one for the services of an open session and one for the whole run, with
one constructor for each way to end.

Main results:

- Relation `Synchronizer.BatchCourse`: the calls that write and commit the services.
- Relation `Synchronizer.Course`: the calls of a run and its result.
- Theorem `Synchronizer.writeStale_recorded`: a pass records one write for each stale
  service and nothing else.
- Theorem `Synchronizer.run_course`: every run takes such a course.
- Theorem `Synchronizer.BatchCourse.map_serviceId`: the services of a report.
-/

namespace ProxyControl

variable {σ α ς : Type}

/-! ## Recorded calls of a session -/

namespace Recorded

/-- The state of a session over a recorded backend. -/
def beside (x : ς × σ) (calls : List BackendCall) : ς × Recorded σ :=
  (x.1, ⟨x.2, calls⟩)

end Recorded

namespace SystemPreferences

variable (p : SystemPreferences σ α ς) (x : ς × σ) (st : σ) (calls : List BackendCall)

@[simp]
theorem recorded_authorize (flags : AuthorizationFlags) :
    p.recorded.authorize flags ⟨st, calls⟩ =
      ((p.authorize flags st).1, ⟨(p.authorize flags st).2, calls ++ [.authorize flags]⟩) :=
  rfl

@[simp]
theorem recorded_openSession (name : String) (credential : α) :
    p.recorded.openSession name credential ⟨st, calls⟩ =
      ((p.openSession name credential st).1,
        ⟨(p.openSession name credential st).2, calls ++ [.openSession name]⟩) :=
  rfl

@[simp]
theorem recorded_value (key : String) :
    p.recorded.session.value key (Recorded.beside x calls) =
      ((p.session.value key x).1,
        Recorded.beside (p.session.value key x).2 (calls ++ [.value key])) :=
  rfl

@[simp]
theorem recorded_setPath (path : String) (dict : ProxyDict) :
    p.recorded.session.setPath path dict (Recorded.beside x calls) =
      ((p.session.setPath path dict x).1,
        Recorded.beside (p.session.setPath path dict x).2 (calls ++ [.setPath path dict])) :=
  rfl

@[simp]
theorem recorded_commit :
    p.recorded.session.commit (Recorded.beside x calls) =
      ((p.session.commit x).1, Recorded.beside (p.session.commit x).2 (calls ++ [.commit])) :=
  rfl

@[simp]
theorem recorded_apply :
    p.recorded.session.apply (Recorded.beside x calls) =
      ((p.session.apply x).1, Recorded.beside (p.session.apply x).2 (calls ++ [.apply])) :=
  rfl

@[simp]
theorem recorded_synchronize :
    p.recorded.session.synchronize (Recorded.beside x calls) =
      Recorded.beside (p.session.synchronize x) (calls ++ [.synchronize]) :=
  rfl

@[simp]
theorem recorded_close (session : ς) :
    p.recorded.close session ⟨st, calls⟩ = ⟨p.close session st, calls ++ [.close]⟩ :=
  rfl

@[simp]
theorem recorded_release (credential : α) :
    p.recorded.release credential ⟨st, calls⟩ = ⟨p.release credential st, calls ++ [.release]⟩ :=
  rfl

end SystemPreferences

namespace NetworkService

/-- The call that writes the wanted dictionary of a service. -/
def writeCall (wanted : ProxyDict) (service : NetworkService) : BackendCall :=
  .setPath service.proxiesPath wanted

/-- The services of a snapshot in key order ascend in the order of the bytes of their
identifiers. -/
theorem ofSnapshot_byteOrder {snapshot : Option PrefValue}
    (h : ∀ entries, snapshot = some (.dict entries) → Dict.Ordered entries) :
    (ofSnapshot snapshot).Pairwise fun a b =>
      Text.Utf8.encode a.id < Text.Utf8.encode b.id := by
  unfold ofSnapshot records
  split
  · rename_i entries
    have hd : Dict.Ordered entries := h entries rfl
    simpa [List.pairwise_map, ofEntry] using hd.byteOrder
  · exact List.Pairwise.nil

end NetworkService

namespace Synchronizer

/-- A pass over a recorded session gives the outcomes of the session itself and records
one write for each service that lacks the wanted dictionary. -/
theorem writeStale_recorded (p : SystemPreferences σ α ς) (wanted : ProxyDict)
    (services : List NetworkService) (x : ς × σ) (calls : List BackendCall) :
    p.recorded.session.writeStale wanted services (Recorded.beside x calls) =
      let written := p.session.writeStale wanted services x
      let stale := services.filter fun service => ProxyDict.needsWrite service.current wanted
      (written.1, Recorded.beside written.2 (calls ++ stale.map (·.writeCall wanted))) := by
  induction services generalizing x calls with
  | nil => simp
  | cons service rest ih =>
      cases h : ProxyDict.needsWrite service.current wanted with
      | false =>
          rw [Session.writeStale_cons_of_upToDate _ h, Session.writeStale_cons_of_upToDate _ h]
          simp [ih, h]
      | true =>
          rw [Session.writeStale_cons_of_needsWrite _ h, Session.writeStale_cons_of_needsWrite _ h]
          simp [ih, h, NetworkService.writeCall]

/-! ## Courses -/

/-- The calls by which the services found in a session are written and made active, and
the result.  The state is the one in which the services have been read. -/
inductive BatchCourse (s : Session (ς × σ)) (port : UInt16) (services : List NetworkService)
    (x : ς × σ) : List BackendCall → Except SyncError SyncReport → Prop where
  /-- No service had to be written, so nothing is called. -/
  | upToDate
      (fresh : NetworkService.stale (ProxyDict.desired port) services = []) :
      BatchCourse s port services x []
        (.ok ⟨port, (NetworkService.eligible services).map .upToDate, false⟩)
  /-- The stale services were written, and the commit failed. -/
  | commitFailed {outcomes y cause z}
      (work : NetworkService.stale (ProxyDict.desired port) services ≠ [])
      (written : s.writeStale (ProxyDict.desired port) (NetworkService.eligible services) x =
        (outcomes, y))
      (commit : s.commit y = (.error cause, z)) :
      BatchCourse s port services x
        ((NetworkService.stale (ProxyDict.desired port) services).map
            (·.writeCall (ProxyDict.desired port)) ++ [.commit])
        (.error (.commit cause))
  /-- The stale services were written and committed, and could not be made active. -/
  | applyFailed {outcomes y z cause w}
      (work : NetworkService.stale (ProxyDict.desired port) services ≠ [])
      (written : s.writeStale (ProxyDict.desired port) (NetworkService.eligible services) x =
        (outcomes, y))
      (commit : s.commit y = (.ok (), z)) (apply : s.apply z = (.error cause, w)) :
      BatchCourse s port services x
        ((NetworkService.stale (ProxyDict.desired port) services).map
            (·.writeCall (ProxyDict.desired port)) ++ [.commit, .apply])
        (.error (.apply cause))
  /-- The stale services were written, committed and made active. -/
  | applied {outcomes y z w}
      (work : NetworkService.stale (ProxyDict.desired port) services ≠ [])
      (written : s.writeStale (ProxyDict.desired port) (NetworkService.eligible services) x =
        (outcomes, y))
      (commit : s.commit y = (.ok (), z)) (apply : s.apply z = (.ok (), w)) :
      BatchCourse s port services x
        ((NetworkService.stale (ProxyDict.desired port) services).map
            (·.writeCall (ProxyDict.desired port)) ++ [.commit, .apply, .synchronize])
        (.ok ⟨port, outcomes, true⟩)

/-- A report has one outcome for each eligible service found, in order. -/
theorem BatchCourse.map_serviceId {s : Session (ς × σ)} {port : UInt16}
    {services : List NetworkService} {x : ς × σ} {calls : List BackendCall} {report : SyncReport}
    (h : BatchCourse s port services x calls (.ok report)) :
    report.outcomes.map ServiceOutcome.serviceId =
      (NetworkService.eligible services).map NetworkService.id := by
  cases h with
  | upToDate _ =>
      rw [List.map_map]
      rfl
  | applied _ written _ _ =>
      have hids := s.map_serviceId_writeStale (ProxyDict.desired port)
        (NetworkService.eligible services) x
      rw [written] at hids
      exact hids

/-- The calls of a whole run and its result. -/
inductive Course (p : SystemPreferences σ α ς) (port : UInt16) (st : σ) :
    List BackendCall → Except SyncError SyncReport → Prop where
  /-- The credential was denied. -/
  | denied {status st₁} (authorize : p.authorize .sync st = (.error status, st₁)) :
      Course p port st [.authorize .sync] (.error (.authorization status))
  /-- No session could be opened; the credential is given back. -/
  | refused {credential st₁ cause st₂}
      (authorize : p.authorize .sync st = (.ok credential, st₁))
      (opening : p.openSession sessionName credential st₁ = (.error cause, st₂)) :
      Course p port st [.authorize .sync, .openSession sessionName, .release]
        (.error (.session cause))
  /-- A session was opened and the services were read.  Whatever came of them, the session
  is closed and then the credential given back. -/
  | opened {credential st₁ session st₂ snapshot x batch result}
      (authorize : p.authorize .sync st = (.ok credential, st₁))
      (opening : p.openSession sessionName credential st₁ = (.ok session, st₂))
      (read : p.session.value networkServicesKey (session, st₂) = (snapshot, x))
      (ascending : (NetworkService.stale (ProxyDict.desired port)
          (NetworkService.ofSnapshot snapshot)).Pairwise fun a b =>
        Text.Utf8.encode a.id < Text.Utf8.encode b.id)
      (course : BatchCourse p.session port (NetworkService.ofSnapshot snapshot) x batch result) :
      Course p port st
        ([.authorize .sync, .openSession sessionName, .value networkServicesKey] ++ batch ++
          [.close, .release])
        result

/-! ## Runs take these courses -/

/-- The end of a pass over a recorded session: the calls that it adds complete a course of
the services. -/
theorem conclude_recorded (p : SystemPreferences σ α ς) {port : UInt16}
    {services : List NetworkService} {x y : ς × σ} {outcomes : List ServiceOutcome}
    (work : NetworkService.stale (ProxyDict.desired port) services ≠ [])
    (written : p.session.writeStale (ProxyDict.desired port) (NetworkService.eligible services) x =
      (outcomes, y))
    (calls : List BackendCall) :
    ∃ tail, conclude p.recorded.session port outcomes (Recorded.beside y calls) =
        ((conclude p.session port outcomes y).1,
          Recorded.beside (conclude p.session port outcomes y).2 (calls ++ tail)) ∧
      BatchCourse p.session port services x
        ((NetworkService.stale (ProxyDict.desired port) services).map
          (·.writeCall (ProxyDict.desired port)) ++ tail)
        (conclude p.session port outcomes y).1 := by
  simp only [conclude, SystemPreferences.recorded_commit]
  rcases hc : p.session.commit y with ⟨cause | _, z⟩
  · exact ⟨[.commit], rfl, .commitFailed work written hc⟩
  · simp only [SystemPreferences.recorded_apply]
    rcases ha : p.session.apply z with ⟨cause | _, w⟩
    · exact ⟨[.commit, .apply], by simp, .applyFailed work written hc ha⟩
    · exact ⟨[.commit, .apply, .synchronize], by simp, .applied work written hc ha⟩

/-- In a session over a recorded backend a run does what it does over the backend itself,
and the calls it adds are the reading of the services and a course of the services found. -/
theorem runSession_course (p : SystemPreferences σ α ς) (port : UInt16) {x y : ς × σ}
    {snapshot : Option PrefValue}
    (read : p.session.value networkServicesKey x = (snapshot, y)) (calls : List BackendCall) :
    ∃ batch, (runSession p.recorded.session port (Recorded.beside x calls)).result =
        (runSession p.session port x).result ∧
      (runSession p.recorded.session port (Recorded.beside x calls)).state =
        Recorded.beside (runSession p.session port x).state
          (calls ++ .value networkServicesKey :: batch) ∧
      BatchCourse p.session port (NetworkService.ofSnapshot snapshot) y batch
        (runSession p.session port x).result := by
  have hread : p.recorded.session.value networkServicesKey (Recorded.beside x calls) =
      (snapshot, Recorded.beside y (calls ++ [.value networkServicesKey])) := by
    rw [SystemPreferences.recorded_value, read]
  by_cases hstale : NetworkService.stale (ProxyDict.desired port)
      (NetworkService.ofSnapshot snapshot) = []
  · obtain ⟨hresult, hstate⟩ := runSession_of_fresh p.session read hstale
    obtain ⟨hresult', hstate'⟩ := runSession_of_fresh p.recorded.session hread hstale
    exact ⟨[], by rw [hresult', hresult], by rw [hstate', hstate], hresult ▸ .upToDate hstale⟩
  · rcases hwritten : p.session.writeStale (ProxyDict.desired port)
      (NetworkService.eligible (NetworkService.ofSnapshot snapshot)) y with ⟨outcomes, z⟩
    have hrecorded := writeStale_recorded p (ProxyDict.desired port)
      (NetworkService.eligible (NetworkService.ofSnapshot snapshot)) y
      (calls ++ [.value networkServicesKey])
    rw [hwritten, ← NetworkService.stale_eq_filter_eligible] at hrecorded
    obtain ⟨tail, hconclude, hcourse⟩ := conclude_recorded p hstale hwritten
      (calls ++ [.value networkServicesKey] ++
        (NetworkService.stale (ProxyDict.desired port) (NetworkService.ofSnapshot snapshot)).map
          (·.writeCall (ProxyDict.desired port)))
    obtain ⟨hresult, hstate⟩ := runSession_of_stale p.session read hwritten hstale
    obtain ⟨hresult', hstate'⟩ := runSession_of_stale p.recorded.session hread hrecorded hstale
    rw [hconclude] at hresult' hstate'
    refine ⟨_, hresult'.trans hresult.symm, ?_, hresult ▸ hcourse⟩
    rw [hstate', hstate]
    simp

/-- A run over a recorded backend ends as over the backend itself and leaves the same
state, and the record is the course of the run. -/
theorem run_course (p : SystemPreferences σ α ς) (port : UInt16) (st : σ)
    (ordered : ∀ x entries, (p.session.value networkServicesKey x).1 = some (.dict entries) →
      Dict.Ordered entries) :
    (run p.recorded port ⟨st, []⟩).result = (run p port st).result ∧
      (run p.recorded port ⟨st, []⟩).state.state = (run p port st).state ∧
      Course p port st (run p.recorded port ⟨st, []⟩).state.calls (run p port st).result := by
  rcases hauth : p.authorize .sync st with ⟨status | credential, st₁⟩
  · have hauth' : p.recorded.authorize .sync ⟨st, []⟩ =
        (.error status, ⟨st₁, [.authorize .sync]⟩) := by simp [hauth]
    obtain ⟨hresult, hstate⟩ := run_of_denied port hauth
    obtain ⟨hresult', hstate'⟩ := run_of_denied port hauth'
    rw [hresult', hstate', hresult, hstate]
    exact ⟨rfl, rfl, .denied hauth⟩
  have hauth' : p.recorded.authorize .sync ⟨st, []⟩ =
      (.ok credential, ⟨st₁, [.authorize .sync]⟩) := by simp [hauth]
  rcases hopen : p.openSession sessionName credential st₁ with ⟨cause | session, st₂⟩
  · have hopen' : p.recorded.openSession sessionName credential ⟨st₁, [.authorize .sync]⟩ =
        (.error cause, ⟨st₂, [.authorize .sync, .openSession sessionName]⟩) := by simp [hopen]
    obtain ⟨hresult, hstate⟩ := run_of_refused port hauth hopen
    obtain ⟨hresult', hstate'⟩ := run_of_refused port hauth' hopen'
    rw [hresult', hstate', hresult, hstate]
    exact ⟨rfl, rfl, .refused hauth hopen⟩
  have hopen' : p.recorded.openSession sessionName credential ⟨st₁, [.authorize .sync]⟩ =
      (.ok session, ⟨st₂, [.authorize .sync, .openSession sessionName]⟩) := by simp [hopen]
  rcases hread : p.session.value networkServicesKey (session, st₂) with ⟨snapshot, y⟩
  obtain ⟨hresult, hstate⟩ := run_of_opened port hauth hopen
  obtain ⟨hresult', hstate'⟩ := run_of_opened port hauth' hopen'
  obtain ⟨batch, hbatchResult, hbatchState, hcourse⟩ := runSession_course p port hread
    [.authorize .sync, .openSession sessionName]
  have hsnapshot : ∀ entries, snapshot = some (.dict entries) → Dict.Ordered entries := by
    intro entries h
    exact ordered (session, st₂) entries (by rw [hread]; exact h)
  have hascending := (NetworkService.ofSnapshot_byteOrder hsnapshot).filter
    (NetworkService.isStale (ProxyDict.desired port))
  rw [Recorded.beside] at hbatchResult hbatchState
  rw [hbatchResult] at hresult'
  rw [hbatchState] at hstate'
  rw [hresult', hstate', hresult, hstate]
  refine ⟨rfl, rfl, ?_⟩
  have hopened := Course.opened hauth hopen hread hascending hcourse
  simpa [Recorded.beside] using hopened

/-- Two services without proxies, the second of which cannot be written. -/
def deniedWritePlan : BackendPlan where
  snapshot := some (.dict
    [("A", .dict [(interfaceKey, .dict [(hardwareKey, .str "AirPort")])]),
      ("B", .dict [(interfaceKey, .dict [(hardwareKey, .str "Ethernet")])])])
  setFailures := [("/NetworkServices/B/Proxies", "permission denied")]

/-- The run over this plan takes such a course, although one of its writes fails: both services are
written to at their own paths, and the rest is committed. -/
theorem run_course_of_deniedWrite :
    let p := SystemPreferences.planned deniedWritePlan
    (∀ x entries, (p.session.value networkServicesKey x).1 = some (.dict entries) →
        Dict.Ordered entries) ∧
      (run p.recorded 3128 ⟨(), []⟩).result = (run p 3128 ()).result ∧
      (run p.recorded 3128 ⟨(), []⟩).state.state = (run p 3128 ()).state ∧
      Course p 3128 () (run p.recorded 3128 ⟨(), []⟩).state.calls (run p 3128 ()).result ∧
      (run p.recorded 3128 ⟨(), []⟩).state.calls =
        [.authorize .sync, .openSession "Proxydetox", .value "NetworkServices",
          .setPath "/NetworkServices/A/Proxies" (.desired 3128),
          .setPath "/NetworkServices/B/Proxies" (.desired 3128),
          .commit, .apply, .synchronize, .close, .release] ∧
      (run p 3128 ()).result = .ok ⟨3128, [⟨"A", true, none⟩,
        ⟨"B", false, some ⟨"B", ⟨"permission denied"⟩⟩⟩], true⟩ := by
  intro p
  have ordered : ∀ x entries, (p.session.value networkServicesKey x).1 = some (.dict entries) →
      Dict.Ordered entries := by
    intro x entries h
    simp only [p, SystemPreferences.planned, networkServicesKey, deniedWritePlan, if_true,
      Option.some.injEq, PrefValue.dict.injEq] at h
    subst h
    decide +kernel
  obtain ⟨hresult, hstate, hcourse⟩ := run_course p 3128 () ordered
  exact ⟨ordered, hresult, hstate, hcourse, rfl, rfl⟩

end Synchronizer
end ProxyControl
