import ProxyControl.Proofs.Preference.RunTrace
import ProxyControl.Proofs.Preference.Witness

/-!
# The phases of a run

A run reports each phase that it enters and the phase in which it fails.  These reports come
between reports of other kinds, and the last of them is made after the session is closed.  Taken
together they are a path through the phases, which depends on the result of the run and on whether
a write was attempted.

Main results:

- Definitions `SyncNotice.legs` and `SyncNotice.failures`: the transitions and the failures that
  are reported.
- Theorem `Synchronizer.phaseNotices_runSession`: the phases of a run inside a session.
- Relation `SyncPhase.Trace`: the path and the failures of each kind of run.
- Theorem `Synchronizer.run_traced`: every run leaves such a trace.
- Theorem `Synchronizer.run_phases`: the path, the result and the failure of a run.
-/

namespace ProxyControl

/-! ## Reports about phases -/

/-- The call writes a dictionary. -/
def BackendCall.isWrite : BackendCall → Bool
  | setPath _ _ => true
  | _ => false

namespace SyncNotice

/-- The notice is about the phases of a run. -/
def ofPhase : SyncNotice → Bool
  | transition _ _ => true
  | aborted _ _ => true
  | _ => false

/-- The phases that a transition leads from and to. -/
def leg? : SyncNotice → Option (SyncPhase × SyncPhase)
  | transition old new => some (old, new)
  | _ => none

/-- The phase and the error of a failure. -/
def failure? : SyncNotice → Option (SyncPhase × SyncError)
  | aborted phase error => some (phase, error)
  | _ => none

/-- The notices about phases, in order. -/
def phaseNotices (notices : List SyncNotice) : List SyncNotice :=
  notices.filter ofPhase

/-- The transitions, in order. -/
def legs (notices : List SyncNotice) : List (SyncPhase × SyncPhase) :=
  notices.filterMap leg?

/-- The failures, in order. -/
def failures (notices : List SyncNotice) : List (SyncPhase × SyncError) :=
  notices.filterMap failure?

/-- The notices about phases of two lists are those of the first and then those of the second. -/
@[simp]
theorem phaseNotices_append (first rest : List SyncNotice) :
    phaseNotices (first ++ rest) = phaseNotices first ++ phaseNotices rest :=
  List.filter_append ..

/-- What is read off the notices about phases is read off all notices. -/
theorem filterMap_phaseNotices {β : Type} {f : SyncNotice → Option β}
    (h : ∀ notice, notice.ofPhase = false → f notice = none) (notices : List SyncNotice) :
    (phaseNotices notices).filterMap f = notices.filterMap f := by
  rw [phaseNotices, List.filterMap_filter]
  apply List.filterMap_congr
  intro notice _
  by_cases hphase : notice.ofPhase = true
  · rw [if_pos hphase]
  · rw [if_neg hphase, h notice (Bool.eq_false_iff.2 hphase)]

/-- The transitions can be read off the notices about phases alone. -/
theorem legs_phaseNotices (notices : List SyncNotice) :
    legs (phaseNotices notices) = legs notices := by
  apply filterMap_phaseNotices
  intro notice h
  cases notice with
  | transition old new => cases h
  | _ => rfl

/-- So can the failures. -/
theorem failures_phaseNotices (notices : List SyncNotice) :
    failures (phaseNotices notices) = failures notices := by
  apply filterMap_phaseNotices
  intro notice h
  cases notice with
  | aborted phase error => cases h
  | _ => rfl

end SyncNotice

open SyncNotice

/-! ## Transactions report no phases -/

namespace Transaction

variable {τ : Type}

/-- A note that is not about phases leaves them as they were reported. -/
theorem phaseNotices_note (t : Transaction) {notice : SyncNotice} (h : notice.ofPhase = false) :
    phaseNotices (t.note notice).notices = phaseNotices t.notices := by
  simp [note, phaseNotices, h]

/-- To record what came of a write reports no phase. -/
theorem phaseNotices_recordStage (t : Transaction) (service : NetworkService)
    (answer : Except PreferencesError Unit) :
    phaseNotices (t.recordStage service answer).notices = phaseNotices t.notices := by
  cases answer <;> simp [recordStage, phaseNotices, ofPhase]

/-- Neither do a commit, an application and a synchronization. -/
theorem phaseNotices_finish (s : Session τ) (t : Transaction) (x : τ) :
    phaseNotices (t.finish s x).notices = phaseNotices t.notices := by
  unfold finish
  split
  · rfl
  · rcases s.commit x with ⟨cause | _, y⟩
    · simp [phaseNotices, ofPhase]
    · dsimp only
      rcases s.apply y with ⟨cause | _, z⟩
      · simp [phaseNotices, ofPhase]
      · simp [phaseNotices, ofPhase]

end Transaction

namespace Synchronizer

variable {σ α ς τ : Type}

/-- A pass over the services enters no phase. -/
theorem phaseNotices_stageAll (s : Session τ) (wanted : ProxyDict)
    (services : List NetworkService) (t : Transaction) (x : τ) :
    phaseNotices (stageAll s wanted services t x).1.notices = phaseNotices t.notices := by
  induction services generalizing t x with
  | nil => rfl
  | cons service rest ih =>
      rw [stageAll]
      split
      · rw [ih, Transaction.phaseNotices_note _ rfl]
      · split
        · rw [Transaction.stage]
          dsimp only
          rw [ih, Transaction.phaseNotices_recordStage]
        · rw [ih]
          exact Transaction.phaseNotices_note t rfl

/-- The warnings of the enumeration are not about phases. -/
theorem phaseNotices_enumerate (s : Session τ) (x : τ) :
    phaseNotices (enumerate s x).2.1 = [] := by
  unfold enumerate
  rcases s.value networkServicesKey x with ⟨snapshot, y⟩
  dsimp only
  cases NetworkService.records snapshot with
  | none => rfl
  | some services => rfl

/-- The phase that a run reaches inside a session. -/
def reached (stale : List NetworkService) : SyncPhase :=
  if stale.isEmpty then .diffing else .committing

/-- The transitions that lead there. -/
def progress (stale : List NetworkService) : List SyncNotice :=
  [.transition .authorizing .sessionOpen, .transition .sessionOpen .enumerating,
    .transition .enumerating .diffing] ++
  if stale.isEmpty then [] else [.transition .diffing .committing]

/-- A run inside a session goes through the phases up to the comparison, and on to the commit if a
service is stale. -/
theorem phaseNotices_runSession (s : Session τ) (port : UInt16) (x : τ) :
    let stale := NetworkService.stale (ProxyDict.desired port)
      (NetworkService.ofSnapshot (s.value networkServicesKey x).1)
    (runSession s port x).phase = reached stale ∧
      phaseNotices (runSession s port x).notices = progress stale := by
  intro stale
  have hservices := (enumerate_eq s x).1
  have hwarnings := phaseNotices_enumerate s x
  rcases hfound : enumerate s x with ⟨found, warnings, w⟩
  rw [hfound] at hservices hwarnings
  have hfresh : stale = NetworkService.stale (ProxyDict.desired port) found := by
    rw [show found = _ from hservices]
  let begun : Transaction :=
    { notices := [SyncNotice.transition .authorizing .sessionOpen,
        .transition .sessionOpen .enumerating] ++ warnings ++
        [.found found.length, .transition .enumerating .diffing] }
  have hbegun : phaseNotices begun.notices = [.transition .authorizing .sessionOpen,
      .transition .sessionOpen .enumerating, .transition .enumerating .diffing] := by
    simp only [begun, phaseNotices_append, hwarnings]
    rfl
  have hdirty := (stageAll_eq s (ProxyDict.desired port) found begun w).2.1
  have hpass := phaseNotices_stageAll s (ProxyDict.desired port) found begun w
  rw [NetworkService.any_isStale, ← hfresh] at hdirty
  rw [hbegun] at hpass
  simp only [runSession, hfound]
  generalize stageAll s (ProxyDict.desired port) found begun w = pass at hdirty hpass ⊢
  obtain ⟨t, z⟩ := pass
  simp only [Transaction.phaseNotices_finish, reached, progress]
  cases hstale : stale.isEmpty with
  | true =>
      have hclean : t.dirty = false := by simpa [begun, hstale] using hdirty
      simp [hclean, hpass]
  | false =>
      have hwork : t.dirty = true := by simpa [begun, hstale] using hdirty
      simp only [hwork, if_true, Transaction.note, phaseNotices_append, hpass]
      exact ⟨rfl, rfl⟩

/-! ## Whole runs -/

section Run

variable {p : SystemPreferences σ α ς} {st st₁ st₂ : σ} (port : UInt16)

/-- A run that is denied the authorization fails while it asks for it. -/
theorem phaseNotices_run_of_denied {status : AuthorizationStatus}
    (hauthorize : p.authorize .sync st = (.error status, st₁)) :
    phaseNotices (run p port st).notices =
      [.transition .idle .authorizing, .aborted .authorizing (.authorization status),
        .transition .authorizing .failed] := by
  simp only [run, runPhases, hauthorize]
  rfl

/-- A session that is not opened ends the run in the same phase. -/
theorem phaseNotices_run_of_refused {credential : α} {cause : PreferencesError}
    (hauthorize : p.authorize .sync st = (.ok credential, st₁))
    (hopen : p.openSession sessionName credential st₁ = (.error cause, st₂)) :
    phaseNotices (run p port st).notices =
      [.transition .idle .authorizing, .aborted .authorizing (.session cause),
        .transition .authorizing .failed] := by
  simp only [run, runPhases, hauthorize, hopen]
  rfl

/-- With an open session the run reports the request, the phases of the session and how it closes.
-/
theorem phaseNotices_run_of_opened {credential : α} {session : ς}
    (hauthorize : p.authorize .sync st = (.ok credential, st₁))
    (hopen : p.openSession sessionName credential st₁ = (.ok session, st₂)) :
    phaseNotices (run p port st).notices =
      .transition .idle .authorizing ::
        (phaseNotices (runSession p.session port (session, st₂)).notices ++
          phaseNotices (closing (runSession p.session port (session, st₂)).phase
            (runSession p.session port (session, st₂)).result)) := by
  simp only [run, runPhases, hauthorize, hopen, phaseNotices_append]
  rfl

end Run

end Synchronizer

/-! ## Paths through the phases -/

namespace SyncPhase

/-- The phases of a run that reads the services. -/
def opened : List SyncPhase :=
  [.idle, .authorizing, .sessionOpen, .enumerating, .diffing]

/-- The paths through the phases that a run can take. -/
def paths : List (List SyncPhase) :=
  [[.idle, .authorizing, .failed], opened ++ [.done], opened ++ [.committing, .done],
    opened ++ [.committing, .failed]]

/-- The path of a run and the failures that it reports, by its result and by whether it attempted
a write. -/
inductive Trace : Bool → Except SyncError SyncReport → List SyncPhase →
    List (SyncPhase × SyncError) → Prop
  | denied (status : AuthorizationStatus) :
      Trace false (.error (.authorization status)) [.idle, .authorizing, .failed]
        [(.authorizing, .authorization status)]
  | refused (cause : PreferencesError) :
      Trace false (.error (.session cause)) [.idle, .authorizing, .failed]
        [(.authorizing, .session cause)]
  | upToDate (report : SyncReport) : Trace false (.ok report) (opened ++ [.done]) []
  | applied (report : SyncReport) : Trace true (.ok report) (opened ++ [.committing, .done]) []
  | commitFailed (cause : PreferencesError) :
      Trace true (.error (.commit cause)) (opened ++ [.committing, .failed])
        [(.committing, .commit cause)]
  | applyFailed (cause : PreferencesError) :
      Trace true (.error (.apply cause)) (opened ++ [.committing, .failed])
        [(.committing, .apply cause)]

end SyncPhase

/-- The phase in which an error ends a run. -/
inductive SyncError.FailsIn : SyncError → SyncPhase → Prop
  | authorization (status : AuthorizationStatus) : FailsIn (.authorization status) .authorizing
  | session (cause : PreferencesError) : FailsIn (.session cause) .authorizing
  | commit (cause : PreferencesError) : FailsIn (.commit cause) .committing
  | apply (cause : PreferencesError) : FailsIn (.apply cause) .committing

namespace SyncPhase.Trace

variable {attempted : Bool} {result : Except SyncError SyncReport} {path : List SyncPhase}
  {fails : List (SyncPhase × SyncError)}

/-- There are only four paths. -/
theorem mem_paths (h : Trace attempted result path fails) : path ∈ paths := by
  cases h <;> simp [paths]

/-- The path ends in the phase of success just if there is a report. -/
theorem getLast?_eq_done_iff (h : Trace attempted result path fails) :
    path.getLast? = some .done ↔ ∃ report, result = .ok report := by
  cases h <;> simp [opened]

/-- The path ends in the phase of failure just if there is an error. -/
theorem getLast?_eq_failed_iff (h : Trace attempted result path fails) :
    path.getLast? = some .failed ↔ ∃ error, result = .error error := by
  cases h <;> simp [opened]

/-- The commit is reached just if a write was attempted. -/
theorem committing_mem_iff (h : Trace attempted result path fails) :
    .committing ∈ path ↔ attempted = true := by
  cases h <;> simp [opened]

/-- A run that ends well reports no failure. -/
theorem fails_of_ok {report : SyncReport} (h : Trace attempted (.ok report) path fails) :
    fails = [] := by
  cases h <;> rfl

/-- A run that fails reports its error in the phase that it belongs to, and ends there. -/
theorem fails_of_error {error : SyncError} (h : Trace attempted (.error error) path fails) :
    ∃ phase, error.FailsIn phase ∧ fails = [(phase, error)] ∧ [phase, .failed] <:+ path := by
  cases h with
  | denied status => exact ⟨.authorizing, .authorization status, rfl, [.idle], rfl⟩
  | refused cause => exact ⟨.authorizing, .session cause, rfl, [.idle], rfl⟩
  | commitFailed cause => exact ⟨.committing, .commit cause, rfl, opened, rfl⟩
  | applyFailed cause => exact ⟨.committing, .apply cause, rfl, opened, rfl⟩

end SyncPhase.Trace

namespace Synchronizer

variable {σ α ς : Type}

/-- A session in which the services have been read writes just if one is stale. -/
theorem BatchCourse.any_isWrite {s : Session (ς × σ)} {port : UInt16}
    {services : List NetworkService} {x : ς × σ} {calls : List BackendCall}
    {result : Except SyncError SyncReport} (h : BatchCourse s port services x calls result) :
    calls.any BackendCall.isWrite =
      !(NetworkService.stale (ProxyDict.desired port) services).isEmpty := by
  have hwrites : ∀ stale : List NetworkService, stale ≠ [] →
      (stale.map (·.writeCall (ProxyDict.desired port))).any BackendCall.isWrite = true := by
    intro stale hstale
    obtain ⟨service, rest, rfl⟩ := List.exists_cons_of_ne_nil hstale
    rfl
  cases h with
  | upToDate fresh => simp [fresh]
  | commitFailed work _ _ => simp [hwrites _ work, work]
  | applyFailed work _ _ _ => simp [hwrites _ work, work]
  | applied work _ _ _ => simp [hwrites _ work, work]

/-- The calls and the notices of a run with a result are a trace. -/
def Traced (calls : List BackendCall) (result : Except SyncError SyncReport)
    (notices : List SyncNotice) : Prop :=
  ∃ path, SyncPhase.Trace (calls.any BackendCall.isWrite) result path (failures notices) ∧
    legs notices = path.zip path.tail

/-- Only the notices about phases matter to a trace. -/
theorem Traced.of_phaseNotices {calls : List BackendCall} {result : Except SyncError SyncReport}
    {notices : List SyncNotice} (h : Traced calls result (phaseNotices notices)) :
    Traced calls result notices := by
  rw [Traced, legs_phaseNotices, failures_phaseNotices] at h
  exact h

/-- A run that reads the services goes as far as they require, and its result settles the rest. -/
theorem BatchCourse.traced {s : Session (ς × σ)} {port : UInt16}
    {services : List NetworkService} {x : ς × σ} {calls batch : List BackendCall}
    {result : Except SyncError SyncReport} (h : BatchCourse s port services x batch result)
    (hcalls : calls.any BackendCall.isWrite = batch.any BackendCall.isWrite) :
    Traced calls result (.transition .idle .authorizing ::
      (progress (NetworkService.stale (ProxyDict.desired port) services) ++
        phaseNotices (closing
          (reached (NetworkService.stale (ProxyDict.desired port) services)) result))) := by
  rw [Traced, hcalls, h.any_isWrite]
  cases h with
  | upToDate fresh =>
      rw [fresh]
      exact ⟨_, .upToDate _, rfl⟩
  | commitFailed work _ _ =>
      obtain ⟨service, rest, hstale⟩ := List.exists_cons_of_ne_nil work
      rw [hstale]
      exact ⟨_, .commitFailed _, rfl⟩
  | applyFailed work _ _ _ =>
      obtain ⟨service, rest, hstale⟩ := List.exists_cons_of_ne_nil work
      rw [hstale]
      exact ⟨_, .applyFailed _, rfl⟩
  | applied work _ _ _ =>
      obtain ⟨service, rest, hstale⟩ := List.exists_cons_of_ne_nil work
      rw [hstale]
      exact ⟨_, .applied _, rfl⟩

/-- A session over a recorded backend answers as the session itself. -/
theorem follows_recorded (p : SystemPreferences σ α ς) :
    p.session.Follows p.recorded.session fun x x' => ∃ calls, x' = Recorded.beside x calls where
  value := by
    rintro key x _ ⟨calls, rfl⟩
    exact ⟨rfl, _, rfl⟩
  setPath := by
    rintro path dict x _ ⟨calls, rfl⟩
    exact ⟨rfl, _, rfl⟩
  commit := by
    rintro x _ ⟨calls, rfl⟩
    exact ⟨rfl, _, rfl⟩
  apply := by
    rintro x _ ⟨calls, rfl⟩
    exact ⟨rfl, _, rfl⟩
  synchronize := by
    rintro x _ ⟨calls, rfl⟩
    exact ⟨_, rfl⟩

/-- Every run leaves a trace. -/
theorem run_traced (p : SystemPreferences σ α ς) (port : UInt16) (st : σ) :
    Traced (run p.recorded port ⟨st, []⟩).state.calls (run p port st).result
      (run p port st).notices := by
  apply Traced.of_phaseNotices
  rcases hauth : p.authorize .sync st with ⟨status | credential, st₁⟩
  · have hauth' : p.recorded.authorize .sync ⟨st, []⟩ =
        (.error status, ⟨st₁, [.authorize .sync]⟩) := by simp [hauth]
    rw [(run_of_denied port hauth).1, (run_of_denied port hauth').2,
      phaseNotices_run_of_denied port hauth]
    exact ⟨_, .denied status, rfl⟩
  have hauth' : p.recorded.authorize .sync ⟨st, []⟩ =
      (.ok credential, ⟨st₁, [.authorize .sync]⟩) := by simp [hauth]
  rcases hopen : p.openSession sessionName credential st₁ with ⟨cause | session, st₂⟩
  · have hopen' : p.recorded.openSession sessionName credential ⟨st₁, [.authorize .sync]⟩ =
        (.error cause, ⟨st₂, [.authorize .sync, .openSession sessionName]⟩) := by simp [hopen]
    rw [(run_of_refused port hauth hopen).1, (run_of_refused port hauth' hopen').2,
      phaseNotices_run_of_refused port hauth hopen]
    exact ⟨_, .refused cause, rfl⟩
  have hopen' : p.recorded.openSession sessionName credential ⟨st₁, [.authorize .sync]⟩ =
      (.ok session, ⟨st₂, [.authorize .sync, .openSession sessionName]⟩) := by simp [hopen]
  rcases hread : p.session.value networkServicesKey (session, st₂) with ⟨snapshot, y⟩
  obtain ⟨batch, -, hbatch, hcourse⟩ := runSession_course p port hread
    [.authorize .sync, .openSession sessionName]
  obtain ⟨hphase, hphases⟩ := phaseNotices_runSession p.session port (session, st₂)
  rw [hread] at hphase hphases
  have hstate := (run_of_opened port hauth' hopen').2
  rw [Recorded.beside] at hbatch
  rw [hbatch] at hstate
  rw [(run_of_opened port hauth hopen).1, phaseNotices_run_of_opened port hauth hopen, hphase,
    hphases, hstate]
  refine hcourse.traced ?_
  simp [Recorded.beside, BackendCall.isWrite]

/-- A run over a recorded backend ends in the same way and reports the same. -/
theorem run_recorded (p : SystemPreferences σ α ς) (port : UInt16) (st : σ) :
    (run p.recorded port ⟨st, []⟩).result = (run p port st).result ∧
      (run p.recorded port ⟨st, []⟩).notices = (run p port st).notices := by
  rcases hauth : p.authorize .sync st with ⟨status | credential, st₁⟩
  · simp only [run, runPhases, SystemPreferences.recorded_authorize, hauth]
    exact ⟨trivial, trivial⟩
  rcases hopen : p.openSession sessionName credential st₁ with ⟨cause | session, st₂⟩
  · simp only [run, runPhases, SystemPreferences.recorded_authorize, hauth,
      SystemPreferences.recorded_openSession, hopen]
    exact ⟨trivial, trivial⟩
  have hopened : ∃ calls, (session, ⟨st₂, [.authorize .sync, .openSession sessionName]⟩) =
      Recorded.beside (session, st₂) calls := ⟨_, rfl⟩
  obtain ⟨hresult, hnotices, -⟩ := (follows_recorded p).runSession port hopened
  have hphase : (runSession p.recorded.session port
      (session, ⟨st₂, [.authorize .sync, .openSession sessionName]⟩)).phase =
      (runSession p.session port (session, st₂)).phase := by
    rw [(phaseNotices_runSession _ port _).1, (phaseNotices_runSession _ port _).1,
      ((follows_recorded p).value networkServicesKey _ _ hopened).1]
  simp only [run, runPhases, SystemPreferences.recorded_authorize, hauth,
    SystemPreferences.recorded_openSession, hopen, List.nil_append, List.singleton_append]
  rw [hphase, hresult, hnotices]
  exact ⟨rfl, rfl⟩

/-- The phases of a run, for every backend and every failure.  The phases that it reports are, leg
by leg, one of the four paths; whether that path ends well is the result, and whether it enters the
commit is whether a write was attempted.  A failure is reported once, in the phase that the error
belongs to, and the path ends there. -/
theorem run_phases (p : SystemPreferences σ α ς) (port : UInt16) (st : σ) :
    let run := Synchronizer.run p port st
    let recorded := Synchronizer.run p.recorded port ⟨st, []⟩
    (recorded.result = run.result ∧ recorded.notices = run.notices) ∧
      ∃ path ∈ SyncPhase.paths,
        legs run.notices = path.zip path.tail ∧
        (path.getLast? = some .done ↔ ∃ report, run.result = .ok report) ∧
        (path.getLast? = some .failed ↔ ∃ error, run.result = .error error) ∧
        (.committing ∈ path ↔ ∃ call ∈ recorded.state.calls, call.isWrite = true) ∧
        (∀ report, run.result = .ok report → failures run.notices = []) ∧
        ∀ error, run.result = .error error →
          ∃ phase, error.FailsIn phase ∧ failures run.notices = [(phase, error)] ∧
            [phase, .failed] <:+ path := by
  intro run recorded
  obtain ⟨path, htrace, hlegs⟩ := run_traced p port st
  refine ⟨run_recorded p port st, path, htrace.mem_paths, hlegs, htrace.getLast?_eq_done_iff,
    htrace.getLast?_eq_failed_iff, ?_, ?_, ?_⟩
  · rw [htrace.committing_mem_iff, List.any_eq_true]
  · intro report hresult
    rw [hresult] at htrace
    exact htrace.fails_of_ok
  · intro error hresult
    rw [hresult] at htrace
    exact htrace.fails_of_error

end Synchronizer
end ProxyControl
