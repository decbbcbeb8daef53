import ProxyControl.Proofs.Preference.History
import ProxyControl.Proofs.Preference.Sameness

/-!
# Convergence of runs

A successful run without a failed service leaves no stale service, whatever was there
before: a service is either the same as wanted already, or its write was accepted and
published.  From then on a run for the same port has nothing to write, so failures of
writes, commits and applies cannot reach it.

Main results:

- Theorem `MemoryPreferences.RunEnd.settles`: no service is stale after such a run.
- Theorem `MemoryPreferences.run_of_fresh`: a run without a stale service.
- Theorem `Clients.run_settles`: runs converge to the wanted dictionaries, and a second run
  changes nothing.
-/

namespace ProxyControl

open NetworkService

namespace SyncReport

/-- In a report of services that are up to date none was written and none failed. -/
theorem counts_upToDate (port : UInt16) (services : List NetworkService) :
    (⟨port, services.map .upToDate, false⟩ : SyncReport).written = 0 ∧
      (⟨port, services.map .upToDate, false⟩ : SyncReport).failed = 0 := by
  rw [written, failed, List.countP_map, List.countP_map]
  constructor
  · exact List.countP_eq_zero.2 fun _ _ => Bool.false_ne_true
  · exact List.countP_eq_zero.2 fun _ _ => Bool.false_ne_true

end SyncReport

namespace MemoryPreferences

variable {m m' : MemoryPreferences} {port : UInt16} {report : SyncReport}

/-! ## Stale services -/

theorem staleFor_eq_nil_iff :
    m.staleFor port = [] ↔
      ∀ entry ∈ m.services, isStale (ProxyDict.desired port) (ofEntry entry) = false := by
  rw [staleFor, stale, List.filter_eq_nil_iff, networkServices]
  simp only [List.forall_mem_map, Bool.not_eq_true]

/-- Where no service is stale, the eligible ones have the wanted dictionary. -/
theorem sameEntries_of_fresh (h : m.staleFor port = []) {id : String} {entry : PrefValue}
    (hfind : m.services.find? id = some entry)
    (heligible : (ofEntry (id, entry)).hardware.isEligible = true) :
    ∃ dict, m.serviceProxies id = some dict ∧
      PrefValue.sameEntries dict (ProxyDict.desired port) = true := by
  have hfresh := staleFor_eq_nil_iff.1 h (id, entry) (Dict.mem_of_find?_eq_some hfind)
  rw [isStale, heligible, Bool.true_and] at hfresh
  obtain ⟨dict, hdict, hsame⟩ := ProxyDict.needsWrite_eq_false_iff.1 hfresh
  refine ⟨dict, ?_, hsame⟩
  rw [serviceProxies, hfind]
  exact hdict

/-- Rewritten services are no longer stale. -/
theorem isStale_rewritten (m : MemoryPreferences) {entry : String × PrefValue}
    (h : isStale (ProxyDict.desired port) (ofEntry entry) = true →
      m.rewrites port entry.1 entry.2 = true) :
    isStale (ProxyDict.desired port)
      (ofEntry (entry.1, if m.rewrites port entry.1 entry.2 then
        withProxies (ProxyDict.desired port) entry.2 else entry.2)) = false := by
  by_cases hrewrites : m.rewrites port entry.1 entry.2 = true
  · rw [if_pos hrewrites, ofEntry_withProxies]
    simp [isStale]
  · rw [if_neg hrewrites]
    exact Bool.eq_false_iff.2 fun hstale => hrewrites (h hstale)

/-! ## Reports without a failure -/

/-- In a run without a failed service every stale service is rewritten. -/
theorem RunEnd.rewrites_of_stale (tidy : m.Tidy) (h : RunEnd m port (.ok report) m')
    (hfailed : report.failed = 0) {entry : String × PrefValue} (hmem : entry ∈ m.services)
    (hstale : isStale (ProxyDict.desired port) (ofEntry entry) = true) :
    m.rewrites port entry.1 entry.2 = true := by
  cases h with
  | upToDate _ _ fresh =>
      have hfresh := staleFor_eq_nil_iff.1 fresh entry hmem
      rw [hfresh] at hstale
      cases hstale
  | applied _ _ _ _ _ =>
      obtain ⟨heligible, hneeds⟩ := Bool.and_eq_true_iff.1 hstale
      have hplain : PrefPath.IsPlain (ofEntry entry).id :=
        tidy.plain _ (List.mem_map_of_mem hmem)
      have hservice : ofEntry entry ∈ eligible m.networkServices :=
        List.mem_filter.2 ⟨List.mem_map_of_mem hmem, heligible⟩
      have hnone := List.countP_eq_zero.1 hfailed _ (List.mem_map_of_mem hservice)
      rw [passOutcome, if_pos hneeds, writeAnswer_of_plain hplain] at hnone
      have hset : m.failures.sets.contains (ofEntry entry).id = false := by
        apply Bool.eq_false_iff.2
        intro hset
        rw [if_pos hset] at hnone
        exact hnone rfl
      rw [rewrites, hstale, Bool.true_and]
      exact congrArg (! ·) hset

/-- After a successful run without a failed service no service is stale. -/
theorem RunEnd.settles (tidy : m.Tidy) (h : RunEnd m port (.ok report) m')
    (hfailed : report.failed = 0) : m'.staleFor port = [] := by
  have hservices := (h.published tidy (.inl ⟨report, rfl⟩)).1
  rw [staleFor_eq_nil_iff, hservices, rewritten, Dict.mapValues]
  intro entry hentry
  obtain ⟨old, hold, rfl⟩ := List.mem_map.1 hentry
  exact m.isStale_rewritten (h.rewrites_of_stale tidy hfailed hold)

/-! ## The services of a report -/

/-- The identifiers of the services of an eligible kind. -/
def eligibleIds (m : MemoryPreferences) : List String :=
  (eligible m.networkServices).map NetworkService.id

theorem eligibleIds_eq (m : MemoryPreferences) :
    m.eligibleIds =
      (m.services.filter fun entry => (ofEntry entry).hardware.isEligible).map Prod.fst := by
  simp only [eligibleIds, eligible, networkServices, List.filter_map, List.map_map]
  rfl

/-- A run leaves the eligible services eligible. -/
theorem RunEnd.eligibleIds_eq (tidy : m.Tidy) {result : Except SyncError SyncReport}
    (h : RunEnd m port result m') : m'.eligibleIds = m.eligibleIds := by
  rw [MemoryPreferences.eligibleIds_eq, MemoryPreferences.eligibleIds_eq]
  rcases h.services_eq tidy with hservices | hservices
  · rw [hservices]
  · rw [hservices, rewritten, Dict.mapValues, List.filter_map, List.map_map]
    have hsame : m.services.filter ((fun entry => (ofEntry entry).hardware.isEligible) ∘
        fun entry => (entry.1, if m.rewrites port entry.1 entry.2 then
          withProxies (ProxyDict.desired port) entry.2 else entry.2)) =
        m.services.filter fun entry => (ofEntry entry).hardware.isEligible := by
      apply List.filter_congr
      intro entry _
      simp only [Function.comp_apply]
      split
      · rw [ofEntry_withProxies]
      · rfl
    rw [hsame]
    rfl

theorem serviceId_passOutcome (failures : InjectedFailures) (wanted : ProxyDict)
    (service : NetworkService) : (passOutcome failures wanted service).serviceId = service.id := by
  unfold passOutcome
  split
  · exact ServiceOutcome.serviceId_ofAnswer service _
  · rfl

/-- A report has the eligible services, in order. -/
theorem RunEnd.ids_eq (h : RunEnd m port (.ok report) m') :
    report.outcomes.map ServiceOutcome.serviceId = m.eligibleIds := by
  cases h with
  | upToDate _ _ _ =>
      rw [List.map_map]
      rfl
  | applied _ _ _ _ _ =>
      rw [outcomesFor, List.map_map]
      apply List.map_congr_left
      intro service _
      exact serviceId_passOutcome _ _ service

/-! ## Runs without a stale service -/

/-- A run that may open a session and finds no stale service reports the eligible services
without a write, and only asks for a credential and opens a session. -/
theorem run_of_fresh (hauthorization : m.failures.authorization = none)
    (hsession : m.failures.session = none) (hfresh : m.staleFor port = []) :
    (∃ again, (Synchronizer.run backend port m).result = .ok again ∧
        again.outcomes.map ServiceOutcome.serviceId = m.eligibleIds ∧
        again.written = 0 ∧ again.failed = 0 ∧ again.committed = false) ∧
      (Synchronizer.run backend port m).state =
        m.visited [.authorize, .openSession, .release] := by
  have hend := run_end m port
  generalize (Synchronizer.run backend port m).result = result at hend ⊢
  generalize (Synchronizer.run backend port m).state = state at hend ⊢
  cases hend with
  | denied authorization =>
      rw [hauthorization] at authorization
      cases authorization
  | refused _ session =>
      rw [hsession] at session
      cases session
  | upToDate authorization session fresh =>
      have hids := (RunEnd.upToDate authorization session fresh).ids_eq
      obtain ⟨hwritten, hfailed⟩ := SyncReport.counts_upToDate port (eligible m.networkServices)
      exact ⟨⟨_, rfl, hids, hwritten, hfailed, rfl⟩, rfl⟩
  | commitFailed _ _ work _ => exact absurd hfresh work
  | applyFailed _ _ work _ _ => exact absurd hfresh work
  | applied _ _ work _ _ => exact absurd hfresh work

end MemoryPreferences

namespace Clients

/-- From tidy services and after any earlier runs, a run that ends well without a failed
service leaves every eligible service with the wanted dictionary.  Whatever failures are set
then, the next run for the same port that may open a session reports the same services,
writes nothing, and makes no call that could change the preferences. -/
theorem run_settles {c : Clients} (tidy : c.prefs.Tidy) {history : List Action}
    (hhistory : ∀ action ∈ history, action.setsFailures = true ∨ action.isRun = true)
    {port : UInt16} {report : SyncReport}
    (ok : ((c.after history).step (.run port)).answer = .report report)
    (hfailed : report.failed = 0) :
    let settled := ((c.after history).step (.run port)).state
    (∀ id entry, settled.prefs.services.find? id = some entry →
        (ofEntry (id, entry)).hardware.isEligible = true →
        ∃ dict, settled.prefs.serviceProxies id = some dict ∧
          PrefValue.sameEntries dict (ProxyDict.desired port) = true) ∧
      ∀ injections : List Action, (∀ action ∈ injections, action.setsFailures = true) →
        let ready := settled.after injections
        ready.prefs.failures.authorization = none → ready.prefs.failures.session = none →
        let second := ready.step (.run port)
        (∃ again, second.answer = .report again ∧
            again.outcomes.map ServiceOutcome.serviceId =
              report.outcomes.map ServiceOutcome.serviceId ∧
            again.written = 0 ∧ again.failed = 0 ∧ again.committed = false) ∧
          second.state.prefs.calls = ready.prefs.calls ++ [.authorize, .openSession, .release] ∧
          second.state.prefs.services = settled.prefs.services ∧
          second.state.prefs.writes = settled.prefs.writes := by
  intro settled
  have htidy : (c.after history).prefs.Tidy := tidy_after tidy hhistory
  have hend := MemoryPreferences.run_end (c.after history).prefs port
  rw [result_of_report ok] at hend
  have hfresh : settled.prefs.staleFor port = [] := hend.settles htidy hfailed
  refine ⟨fun id entry => MemoryPreferences.sameEntries_of_fresh hfresh, ?_⟩
  intro injections hinjections ready hauthorization hsession second
  obtain ⟨failures, hready⟩ : ∃ failures,
      ready = { settled with prefs := { settled.prefs with failures } } :=
    settled.after_of_setsFailures hinjections
  have hservices : ready.prefs.services = settled.prefs.services := by rw [hready]
  have hwrites : ready.prefs.writes = settled.prefs.writes := by rw [hready]
  have hreadyFresh : ready.prefs.staleFor port = [] := by
    rw [hready]
    exact hfresh
  have hids : ready.prefs.eligibleIds = report.outcomes.map ServiceOutcome.serviceId := by
    have hsame : ready.prefs.eligibleIds = settled.prefs.eligibleIds := by
      rw [hready]
      rfl
    rw [hsame, hend.ids_eq]
    exact hend.eligibleIds_eq htidy
  obtain ⟨⟨again, hresult, hagain, hcounts⟩, hstate⟩ :=
    MemoryPreferences.run_of_fresh hauthorization hsession hreadyFresh
  have hsecond : second.state.prefs =
      ready.prefs.visited [.authorize, .openSession, .release] := hstate
  refine ⟨⟨again, answer_of_ok hresult, hagain.trans hids, hcounts⟩, ?_, ?_, ?_⟩
  · rw [hsecond]
    rfl
  · rw [hsecond]
    exact hservices
  · rw [hsecond]
    exact hwrites

/-- A wired service without proxies. -/
def wired : Clients :=
  { prefs := .addService {} "ETH" (some "Ethernet") none }

/-- A run for another port that could not be made active. -/
def misapplied : List Action :=
  [.failApply, .run 8080, .clearFailures]

/-- After such a run another one settles the service, and a third one reports so although
its commit and its apply would fail. -/
theorem run_settles_misapplied :
    let report : SyncReport := ⟨3128, [⟨"ETH", true, none⟩], true⟩
    let settled := ((wired.after misapplied).step (.run 3128)).state
    let second := (settled.after [.failCommit, .failApply]).step (.run 3128)
    wired.prefs.Tidy ∧
      (∀ action ∈ misapplied, action.setsFailures = true ∨ action.isRun = true) ∧
      ((wired.after misapplied).step (.run 3128)).answer = .report report ∧ report.failed = 0 ∧
      (∃ again, second.answer = .report again ∧ again.written = 0 ∧ again.committed = false) ∧
      second.state.prefs.services = settled.prefs.services := by
  have tidy : wired.prefs.Tidy :=
    { ordered := by decide +kernel
      plain := by decide }
  have hhistory : ∀ action ∈ misapplied, action.setsFailures = true ∨ action.isRun = true := by
    decide
  have ok : ((wired.after misapplied).step (.run 3128)).answer =
      .report ⟨3128, [⟨"ETH", true, none⟩], true⟩ := rfl
  obtain ⟨-, hsecond⟩ := run_settles tidy hhistory ok rfl
  obtain ⟨⟨again, hanswer, -, hwritten, -, hcommitted⟩, -, hservices, -⟩ :=
    hsecond [.failCommit, .failApply] (by decide) rfl rfl
  exact ⟨tidy, hhistory, ok, rfl, ⟨again, hanswer, hwritten, hcommitted⟩, hservices⟩

end Clients
end ProxyControl
