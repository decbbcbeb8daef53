import ProxyControl.Preference.Synchronizer

/-!
# The pass over the services

A run looks at each service in turn and also keeps track of outcomes, notices and the
need to commit.  This module separates the part that reaches the session: the dictionary
of each stale service is written, one after the other, and what the session answers
decides the outcome.

Main results:

- Definition `Session.writeStale`: the writes of a pass with their outcomes.
- Definition `Synchronizer.conclude`: the end of a pass that attempted a write.
- Theorem `Synchronizer.stageAll_eq`: the pass of a run makes these writes.
- Theorem `Synchronizer.runSession_eq`: what a run does in an open session, with
  `runSession_of_fresh` and `runSession_of_stale` for its two cases.
- Theorems `Synchronizer.run_of_denied`, `run_of_refused` and `run_of_opened`: the ways a
  run begins.
-/

namespace ProxyControl

/-! ## Services to be written -/

namespace NetworkService

/-- The services of a snapshot, none if it holds no dictionary of them. -/
def ofSnapshot (snapshot : Option PrefValue) : List NetworkService :=
  (records snapshot).getD []

/-- The services whose kind is written at all. -/
def eligible (services : List NetworkService) : List NetworkService :=
  services.filter fun service => service.hardware.isEligible

/-- Whether a service is of an eligible kind without having the wanted dictionary. -/
def isStale (wanted : ProxyDict) (service : NetworkService) : Bool :=
  service.hardware.isEligible && ProxyDict.needsWrite service.current wanted

/-- The services that a pass writes. -/
def stale (wanted : ProxyDict) (services : List NetworkService) : List NetworkService :=
  services.filter (isStale wanted)

@[simp]
theorem ofSnapshot_dict (entries : List (String × PrefValue)) :
    ofSnapshot (some (.dict entries)) = entries.map ofEntry :=
  rfl

@[simp]
theorem ofSnapshot_none : ofSnapshot none = [] :=
  rfl

/-- Among eligible services the stale ones are those without the wanted dictionary. -/
theorem stale_eq_filter_eligible (wanted : ProxyDict) (services : List NetworkService) :
    stale wanted services =
      (eligible services).filter fun service => ProxyDict.needsWrite service.current wanted := by
  simp only [stale, eligible, List.filter_filter]
  congr 1
  funext service
  exact Bool.and_comm _ _

theorem any_isStale (wanted : ProxyDict) (services : List NetworkService) :
    services.any (isStale wanted) = !(stale wanted services).isEmpty := by
  induction services with
  | nil => rfl
  | cons service rest ih =>
      by_cases h : isStale wanted service = true
      · simp [stale, h]
      · simpa [stale, h] using ih

end NetworkService

/-! ## Outcomes -/

namespace ServiceOutcome

/-- The outcome of a service that already has the wanted dictionary. -/
def upToDate (service : NetworkService) : ServiceOutcome :=
  ⟨service.id, false, none⟩

/-- The outcome of a service whose write got an answer. -/
def ofAnswer (service : NetworkService) : Except PreferencesError Unit → ServiceOutcome
  | .ok () => ⟨service.id, true, none⟩
  | .error cause => ⟨service.id, false, some ⟨service.id, cause⟩⟩

@[simp]
theorem serviceId_upToDate (service : NetworkService) :
    (upToDate service).serviceId = service.id :=
  rfl

@[simp]
theorem serviceId_ofAnswer (service : NetworkService) (answer : Except PreferencesError Unit) :
    (ofAnswer service answer).serviceId = service.id := by
  cases answer <;> rfl

end ServiceOutcome

/-! ## The writes of a pass -/

namespace Session

variable {τ : Type}

/-- Writes the wanted dictionary to each of the services that lacks it, one after the
other, and gives the outcome of every service. -/
def writeStale (s : Session τ) (wanted : ProxyDict) :
    List NetworkService → τ → List ServiceOutcome × τ
  | [], x => ([], x)
  | service :: rest, x =>
    if ProxyDict.needsWrite service.current wanted then
      let answered := s.setPath service.proxiesPath wanted x
      let others := writeStale s wanted rest answered.2
      (.ofAnswer service answered.1 :: others.1, others.2)
    else
      let others := writeStale s wanted rest x
      (.upToDate service :: others.1, others.2)

@[simp]
theorem writeStale_nil (s : Session τ) (wanted : ProxyDict) (x : τ) :
    s.writeStale wanted [] x = ([], x) :=
  rfl

theorem writeStale_cons_of_needsWrite (s : Session τ) {wanted : ProxyDict}
    {service : NetworkService} (h : ProxyDict.needsWrite service.current wanted = true)
    (rest : List NetworkService) (x : τ) :
    s.writeStale wanted (service :: rest) x =
      let answered := s.setPath service.proxiesPath wanted x
      let others := s.writeStale wanted rest answered.2
      (.ofAnswer service answered.1 :: others.1, others.2) := by
  rw [writeStale, if_pos h]

theorem writeStale_cons_of_upToDate (s : Session τ) {wanted : ProxyDict}
    {service : NetworkService} (h : ProxyDict.needsWrite service.current wanted = false)
    (rest : List NetworkService) (x : τ) :
    s.writeStale wanted (service :: rest) x =
      let others := s.writeStale wanted rest x
      (.upToDate service :: others.1, others.2) := by
  rw [writeStale, if_neg (by simp [h])]

/-- There is one outcome for each service, in order. -/
theorem map_serviceId_writeStale (s : Session τ) (wanted : ProxyDict)
    (services : List NetworkService) (x : τ) :
    (s.writeStale wanted services x).1.map ServiceOutcome.serviceId =
      services.map NetworkService.id := by
  induction services generalizing x with
  | nil => rfl
  | cons service rest ih =>
      cases h : ProxyDict.needsWrite service.current wanted with
      | true =>
          rw [writeStale_cons_of_needsWrite s h]
          simp only [List.map_cons, ServiceOutcome.serviceId_ofAnswer, ih]
      | false =>
          rw [writeStale_cons_of_upToDate s h]
          simp only [List.map_cons, ServiceOutcome.serviceId_upToDate, ih]

/-- Where every service has the wanted dictionary nothing is written. -/
theorem writeStale_of_filter_eq_nil (s : Session τ) {wanted : ProxyDict}
    {services : List NetworkService}
    (h : services.filter (fun service => ProxyDict.needsWrite service.current wanted) = [])
    (x : τ) :
    s.writeStale wanted services x = (services.map .upToDate, x) := by
  induction services with
  | nil => rfl
  | cons service rest ih =>
      have hall := List.filter_eq_nil_iff.1 h
      have hfirst := Bool.eq_false_iff.2 (hall service List.mem_cons_self)
      have hrest := List.filter_eq_nil_iff.2 fun other hother =>
        hall other (List.mem_cons_of_mem _ hother)
      rw [writeStale_cons_of_upToDate s hfirst]
      simp only [ih hrest, List.map_cons]

end Session

/-! ## The part of a run inside a session -/

namespace Synchronizer

variable {τ : Type}

/-- Commits the writes of a pass, makes them active and synchronizes, each only after
the step before succeeded. -/
def conclude (s : Session τ) (port : UInt16) (outcomes : List ServiceOutcome) (x : τ) :
    Except SyncError SyncReport × τ :=
  match s.commit x with
  | (.error cause, x) => (.error (.commit cause), x)
  | (.ok (), x) =>
    match s.apply x with
    | (.error cause, x) => (.error (.apply cause), x)
    | (.ok (), x) => (.ok ⟨port, outcomes, true⟩, s.synchronize x)

/-- The pass of a run writes the stale services in their order, adds one outcome for each
eligible service, and is dirty exactly if there was a stale one. -/
theorem stageAll_eq (s : Session τ) (wanted : ProxyDict) (services : List NetworkService)
    (t : Transaction) (x : τ) :
    (stageAll s wanted services t x).1.outcomes =
        t.outcomes ++ (s.writeStale wanted (NetworkService.eligible services) x).1 ∧
      (stageAll s wanted services t x).1.dirty =
        (t.dirty || services.any (NetworkService.isStale wanted)) ∧
      (stageAll s wanted services t x).2 =
        (s.writeStale wanted (NetworkService.eligible services) x).2 := by
  induction services generalizing t x with
  | nil => simp [stageAll, NetworkService.eligible]
  | cons service rest ih =>
      cases he : service.hardware.isEligible with
      | false =>
          have := ih (t.note (.skipped service.id service.hardware)) x
          simpa [stageAll, NetworkService.eligible, NetworkService.isStale, he, Transaction.note]
            using this
      | true =>
          have hel : NetworkService.eligible (service :: rest) =
              service :: NetworkService.eligible rest := by
            simp [NetworkService.eligible, he]
          cases hw : ProxyDict.needsWrite service.current wanted with
          | false =>
              have := ih ((t.note (.upToDate service.id)).unchanged service) x
              rw [hel, Session.writeStale_cons_of_upToDate s hw]
              simpa [stageAll, NetworkService.isStale, he, hw, Transaction.note,
                Transaction.unchanged, ServiceOutcome.upToDate] using this
          | true =>
              rw [hel, Session.writeStale_cons_of_needsWrite s hw]
              rcases hset : s.setPath service.proxiesPath wanted x with ⟨answer, y⟩
              have := ih (t.recordStage service answer) y
              cases answer with
              | ok _ =>
                  simpa [stageAll, NetworkService.isStale, he, hw, Transaction.stage, hset,
                    Transaction.recordStage, ServiceOutcome.ofAnswer] using this
              | error cause =>
                  simpa [stageAll, NetworkService.isStale, he, hw, Transaction.stage, hset,
                    Transaction.recordStage, ServiceOutcome.ofAnswer] using this

/-- A transaction in which no write was attempted ends without a call, and any other one
as a pass does; the notice of the last phase makes no difference. -/
theorem finish_eq (s : Session τ) (port : UInt16) (t : Transaction) (notice : SyncNotice)
    (x : τ) :
    let finished := (if t.dirty then t.note notice else t).finish s x
    (finished.result.map fun (outcomes, committed) =>
        (⟨port, outcomes, committed⟩ : SyncReport), finished.state) =
      if t.dirty then conclude s port t.outcomes x else (.ok ⟨port, t.outcomes, false⟩, x) := by
  cases hdirty : t.dirty with
  | false => simp [Transaction.finish, hdirty, Except.map]
  | true =>
      simp only [if_true, Transaction.finish, Transaction.note, hdirty, Bool.not_true,
        Bool.false_eq_true, if_false]
      unfold conclude
      rcases s.commit x with ⟨_ | _, y⟩
      · rfl
      · dsimp only
        rcases s.apply y with ⟨_ | _, z⟩ <;> rfl

/-- Reading the services asks for the snapshot once. -/
theorem enumerate_eq (s : Session τ) (x : τ) :
    (enumerate s x).1 = NetworkService.ofSnapshot (s.value networkServicesKey x).1 ∧
      (enumerate s x).2.2 = (s.value networkServicesKey x).2 := by
  unfold enumerate NetworkService.ofSnapshot
  rcases s.value networkServicesKey x with ⟨snapshot, y⟩
  dsimp only
  cases NetworkService.records snapshot with
  | none => exact ⟨rfl, rfl⟩
  | some services => exact ⟨rfl, rfl⟩

/-- What a run does in an open session: it reads the services, writes the stale ones, and
concludes if there was one. -/
theorem runSession_eq (s : Session τ) (port : UInt16) {x y z : τ} {snapshot : Option PrefValue}
    {outcomes : List ServiceOutcome} (hread : s.value networkServicesKey x = (snapshot, y))
    (hwritten : s.writeStale (ProxyDict.desired port)
      (NetworkService.eligible (NetworkService.ofSnapshot snapshot)) y = (outcomes, z)) :
    ((runSession s port x).result, (runSession s port x).state) =
      if NetworkService.stale (ProxyDict.desired port) (NetworkService.ofSnapshot snapshot) = []
      then (.ok ⟨port, outcomes, false⟩, z)
      else conclude s port outcomes z := by
  obtain ⟨hservices, hstate⟩ := enumerate_eq s x
  have hpass := stageAll_eq s (ProxyDict.desired port) (NetworkService.ofSnapshot snapshot)
  rcases hfound : enumerate s x with ⟨found, warnings, w⟩
  rw [hfound, hread] at hservices hstate
  obtain rfl : found = NetworkService.ofSnapshot snapshot := hservices
  obtain rfl : w = y := hstate
  have houtcomes := fun t => (hpass t w).1
  have hdirty := fun t => (hpass t w).2.1
  have hend := fun t => (hpass t w).2.2
  simp only [hwritten] at houtcomes hend
  simp only [runSession, hfound]
  rw [finish_eq]
  simp only [houtcomes, hdirty, hend, NetworkService.any_isStale]
  cases NetworkService.stale (ProxyDict.desired port) (NetworkService.ofSnapshot snapshot) with
  | nil => simp
  | cons service rest => simp

/-- Without a stale service nothing is called after the services have been read. -/
theorem runSession_of_fresh (s : Session τ) {port : UInt16} {x y : τ}
    {snapshot : Option PrefValue} (hread : s.value networkServicesKey x = (snapshot, y))
    (hstale : NetworkService.stale (ProxyDict.desired port)
      (NetworkService.ofSnapshot snapshot) = []) :
    (runSession s port x).result =
        .ok ⟨port, (NetworkService.eligible (NetworkService.ofSnapshot snapshot)).map .upToDate,
          false⟩ ∧
      (runSession s port x).state = y := by
  have hwritten := s.writeStale_of_filter_eq_nil
    ((NetworkService.stale_eq_filter_eligible _ _).symm.trans hstale) y
  have heq := runSession_eq s port hread hwritten
  rw [if_pos hstale] at heq
  exact Prod.mk.inj heq

/-- With a stale service the pass is concluded. -/
theorem runSession_of_stale (s : Session τ) {port : UInt16} {x y z : τ}
    {snapshot : Option PrefValue} {outcomes : List ServiceOutcome}
    (hread : s.value networkServicesKey x = (snapshot, y))
    (hwritten : s.writeStale (ProxyDict.desired port)
      (NetworkService.eligible (NetworkService.ofSnapshot snapshot)) y = (outcomes, z))
    (hstale : NetworkService.stale (ProxyDict.desired port)
      (NetworkService.ofSnapshot snapshot) ≠ []) :
    (runSession s port x).result = (conclude s port outcomes z).1 ∧
      (runSession s port x).state = (conclude s port outcomes z).2 := by
  have heq := runSession_eq s port hread hwritten
  rw [if_neg hstale] at heq
  exact ⟨congrArg Prod.fst heq, congrArg Prod.snd heq⟩

/-! ## Whole runs -/

section Run

variable {σ α ς : Type} {p : SystemPreferences σ α ς} {st st₁ st₂ : σ} (port : UInt16)

/-- A run whose credential is denied ends there. -/
theorem run_of_denied {status : AuthorizationStatus}
    (hauthorize : p.authorize .sync st = (.error status, st₁)) :
    (run p port st).result = .error (.authorization status) ∧ (run p port st).state = st₁ := by
  simp [run, runPhases, hauthorize]

/-- A run that cannot open a session gives the credential back. -/
theorem run_of_refused {credential : α} {cause : PreferencesError}
    (hauthorize : p.authorize .sync st = (.ok credential, st₁))
    (hopen : p.openSession sessionName credential st₁ = (.error cause, st₂)) :
    (run p port st).result = .error (.session cause) ∧
      (run p port st).state = p.release credential st₂ := by
  simp [run, runPhases, hauthorize, hopen]

/-- A run with an open session ends as its part inside the session, closes the session and
gives the credential back. -/
theorem run_of_opened {credential : α} {session : ς}
    (hauthorize : p.authorize .sync st = (.ok credential, st₁))
    (hopen : p.openSession sessionName credential st₁ = (.ok session, st₂)) :
    (run p port st).result = (runSession p.session port (session, st₂)).result ∧
      (run p port st).state =
        p.release credential (p.close (runSession p.session port (session, st₂)).state.1
          (runSession p.session port (session, st₂)).state.2) := by
  simp [run, runPhases, hauthorize, hopen]

end Run

end Synchronizer
end ProxyControl
