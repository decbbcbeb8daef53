import ProxyControl.Preference.Transaction

/-!
# Synchronizing the system proxy

A run points every wireless and wired service at a port of this host, or switches its
proxies off for port 0.  It asks for a credential, opens a session, reads the services,
stages the dictionaries that differ and commits them as one batch.  The session is
closed and the credential given back on every way out.

Main results:

- Definition `Synchronizer.stageAll`: the pass over the services.
- Definition `Synchronizer.run`: a whole run with its result and its notices.
-/

namespace ProxyControl

/-- The summary of a run that ended well. -/
structure SyncReport where
  port : UInt16
  /-- One outcome for each eligible service. -/
  outcomes : List ServiceOutcome
  /-- The changes were committed and made active. -/
  committed : Bool
  deriving DecidableEq, Repr

namespace SyncReport

/-- The number of services that were written. -/
def written (r : SyncReport) : Nat :=
  r.outcomes.countP ServiceOutcome.written

/-- The number of services that could not be written. -/
def failed (r : SyncReport) : Nat :=
  r.outcomes.countP fun o => o.error.isSome

/-- The JSON value of the outcome of one service. -/
def outcomeJson (o : ServiceOutcome) : Json :=
  .obj [("service_id", .str o.serviceId), ("written", .bool o.written),
    ("error", (o.error.map fun e => Json.str e.message).getD .null)]

/-- The JSON value of the summary. -/
def toJson (r : SyncReport) : Json :=
  .obj [("port", .int r.port.toNat), ("outcomes", .arr (r.outcomes.map outcomeJson)),
    ("committed", .bool r.committed)]

end SyncReport

namespace Synchronizer

variable {σ α ς τ : Type}

/-- The name that sessions are opened under. -/
def sessionName : String := "Proxydetox"

/-- The pass over the services: ineligible ones are skipped, those that differ from the
wanted dictionary are staged. -/
def stageAll (s : Session τ) (wanted : ProxyDict) :
    List NetworkService → Transaction → τ → Transaction × τ
  | [], t, x => (t, x)
  | service :: rest, t, x =>
    if !service.hardware.isEligible then
      stageAll s wanted rest (t.note (.skipped service.id service.hardware)) x
    else if ProxyDict.needsWrite service.current wanted then
      let (_, t, x) := t.stage s service wanted x
      stageAll s wanted rest t x
    else
      stageAll s wanted rest ((t.note (.upToDate service.id)).unchanged service) x

/-- How a run, or the part of it inside the session, ended: the phase that it reached,
its result, its notices and the state it left. -/
structure Ended (τ : Type) where
  phase : SyncPhase
  result : Except SyncError SyncReport
  notices : List SyncNotice
  state : τ

/-- The services found in a session, none if there is no dictionary of them, and the
notices of reading them. -/
def enumerate (s : Session τ) (x : τ) : List NetworkService × List SyncNotice × τ :=
  let (snapshot, x) := s.value networkServicesKey x
  match NetworkService.records snapshot with
  | some services => (services, [], x)
  | none => ([], [.noServices], x)

/-- The part of a run inside an open session. -/
def runSession (s : Session τ) (port : UInt16) (x : τ) : Ended τ :=
  let (services, warnings, x) := enumerate s x
  let begun := [SyncNotice.transition .authorizing .sessionOpen,
    .transition .sessionOpen .enumerating] ++ warnings ++
    [.found services.length, .transition .enumerating .diffing]
  let (t, x) := stageAll s (ProxyDict.desired port) services { notices := begun } x
  let phase := if t.dirty then SyncPhase.committing else .diffing
  let t := if t.dirty then t.note (.transition .diffing .committing) else t
  let finished := t.finish s x
  ⟨phase, finished.result.map fun (outcomes, committed) => ⟨port, outcomes, committed⟩,
    finished.notices, finished.state⟩

/-- A whole run up to its last phase. -/
def runPhases (p : SystemPreferences σ α ς) (port : UInt16) (st : σ) : Ended σ :=
  let begun := [SyncNotice.transition .idle .authorizing, .requesting .sync]
  match p.authorize .sync st with
  | (.error status, st) =>
    ⟨.authorizing, .error (.authorization status), begun ++ [.denied status], st⟩
  | (.ok credential, st) =>
    match p.openSession sessionName credential st with
    | (.error cause, st) =>
      ⟨.authorizing, .error (.session cause), begun, p.release credential st⟩
    | (.ok session, st) =>
      let ended := runSession p.session port (session, st)
      let (session, st) := ended.state
      ⟨ended.phase, ended.result, begun ++ ended.notices,
        p.release credential (p.close session st)⟩

/-- What is reported at the end of a run that reached a phase. -/
def closing (phase : SyncPhase) : Except SyncError SyncReport → List SyncNotice
  | .ok report =>
    [.transition phase .done,
      .finished report.port report.written report.failed report.committed]
  | .error error => [.aborted phase error, .transition phase .failed]

/-- How a run ended. -/
structure Run (σ : Type) where
  result : Except SyncError SyncReport
  notices : List SyncNotice
  state : σ

/-- A run for a port. -/
def run (p : SystemPreferences σ α ς) (port : UInt16) (st : σ) : Run σ :=
  let ended := runPhases p port st
  ⟨ended.result, ended.notices ++ closing ended.phase ended.result, ended.state⟩

/-- Asks for a credential and reports the request and a denial. -/
def acquire (p : SystemPreferences σ α ς) (flags : AuthorizationFlags) (st : σ) :
    Except AuthorizationStatus α × List SyncNotice × σ :=
  match p.authorize flags st with
  | (.error status, st) => (.error status, [.requesting flags, .denied status], st)
  | (.ok credential, st) => (.ok credential, [.requesting flags], st)

end Synchronizer
end ProxyControl
