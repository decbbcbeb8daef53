import ProxyControl.Proofs.Preference.MemoryRun
import ProxyControl.Proofs.Preference.Paths
import ProxyControl.Proofs.Preference.ServiceTree

/-!
# What a run changes

Where the identifiers of the services are single path components, each write of a run
reaches the service that it is meant for.  A run then either leaves the tree and the log of
writes alone, or replaces the proxies of the stale services whose writes are accepted, all
of them and nothing else.

Main results:

- Structure `MemoryPreferences.Tidy`: services in key order under plain identifiers.
- Definition `MemoryPreferences.rewritten`: the tree with the accepted services replaced.
- Theorem `MemoryPreferences.Tidy.committed_acceptedFor`: what the batch of a run changes.
- Theorem `MemoryPreferences.run_effect`: what a run changes, for each way to end.
-/

namespace ProxyControl

open NetworkService

namespace MemoryPreferences

/-- The services are in key order, and each identifier is a single path component. -/
structure Tidy (m : MemoryPreferences) : Prop where
  ordered : Dict.Ordered m.services
  plain : ∀ id ∈ m.services.keys, PrefPath.IsPlain id

/-! ## The services that a run rewrites -/

/-- Whether a run for a port replaces the proxies of a service: its kind is eligible, it
lacks the wanted dictionary and no failure is injected for it. -/
def rewrites (m : MemoryPreferences) (port : UInt16) (id : String) (entry : PrefValue) : Bool :=
  isStale (ProxyDict.desired port) (ofEntry (id, entry)) && !m.failures.sets.contains id

/-- The identifiers of the services that a run for a port rewrites. -/
def rewrittenIds (m : MemoryPreferences) (port : UInt16) : List String :=
  (m.services.filter fun entry => m.rewrites port entry.1 entry.2).map Prod.fst

/-- The tree in which the proxies of these services are the wanted ones. -/
def rewritten (m : MemoryPreferences) (port : UInt16) : PrefDict :=
  m.services.mapValues fun id entry =>
    if m.rewrites port id entry then withProxies (ProxyDict.desired port) entry else entry

/-- The log entries of writing the proxies of some services. -/
def proxyWrites (port : UInt16) (ids : List String) : List (String × ProxyDict) :=
  ids.map fun id => (proxiesPathOf id, ProxyDict.desired port)

/-- The path to the proxies of a service with a plain identifier has three components. -/
theorem components_proxiesPath {service : NetworkService} (h : PrefPath.IsPlain service.id) :
    PrefPath.components service.proxiesPath = [networkServicesKey, service.id, proxiesKey] := by
  rw [proxiesPath, components_proxiesPathOf, h.components]
  rfl

/-- A write to a service with a plain identifier is rejected only by an injected failure. -/
theorem writeAnswer_of_plain {service : NetworkService} (h : PrefPath.IsPlain service.id)
    (failures : InjectedFailures) :
    writeAnswer failures service =
      if failures.sets.contains service.id then .error ⟨"permission denied"⟩ else .ok () := by
  rw [writeAnswer, components_proxiesPath h]
  simp [checkPath]

/-- A write succeeds unless it is to be denied. -/
theorem isOk_writeAnswer {service : NetworkService} (h : PrefPath.IsPlain service.id)
    (failures : InjectedFailures) :
    (writeAnswer failures service).isOk = !failures.sets.contains service.id := by
  rw [writeAnswer_of_plain h]
  by_cases hset : failures.sets.contains service.id = true
  · rw [if_pos hset, hset]
    rfl
  · rw [if_neg hset, Bool.eq_false_iff.2 hset]
    rfl

/-- The rewritten services are those that a run finds stale and is not denied. -/
theorem mem_rewrittenIds {m : MemoryPreferences} (tidy : m.Tidy) (port : UInt16)
    {entry : String × PrefValue} (hmem : entry ∈ m.services) :
    entry.1 ∈ m.rewrittenIds port ↔ m.rewrites port entry.1 entry.2 = true := by
  constructor
  · intro h
    obtain ⟨other, hother, hid⟩ := List.mem_map.1 h
    obtain ⟨hother, hrewrites⟩ := List.mem_filter.1 hother
    obtain rfl := tidy.ordered.eq_of_key_eq hother hmem hid
    exact hrewrites
  · intro h
    exact List.mem_map_of_mem (List.mem_filter.2 ⟨hmem, h⟩)

theorem rewrittenIds_subset (m : MemoryPreferences) (port : UInt16) :
    ∀ id ∈ m.rewrittenIds port, id ∈ m.services.keys := by
  intro id h
  obtain ⟨entry, hentry, rfl⟩ := List.mem_map.1 h
  exact List.mem_map_of_mem (List.mem_filter.1 hentry).1

/-- The services are rewritten in ascending order of the bytes of their identifiers. -/
theorem Tidy.rewrittenIds_ascending {m : MemoryPreferences} (tidy : m.Tidy) (port : UInt16) :
    (m.rewrittenIds port).Pairwise fun a b => Text.Utf8.encode a < Text.Utf8.encode b := by
  rw [rewrittenIds, List.pairwise_map]
  exact tidy.ordered.byteOrder.filter _

/-! ## The batch of a run -/

/-- The accepted writes of a run are those to the services that it rewrites. -/
theorem Tidy.acceptedFor_eq {m : MemoryPreferences} (tidy : m.Tidy) (port : UInt16) :
    m.acceptedFor port = (m.rewrittenIds port).map fun id =>
      ([networkServicesKey, id, proxiesKey], ProxyDict.desired port) := by
  have hplain : ∀ entry ∈ m.services, PrefPath.IsPlain (ofEntry entry).id := by
    intro entry hentry
    exact tidy.plain _ (List.mem_map_of_mem hentry)
  have hfilter : m.services.filter (fun entry =>
      (writeAnswer m.failures (ofEntry entry)).isOk &&
        isStale (ProxyDict.desired port) (ofEntry entry)) =
      m.services.filter fun entry => m.rewrites port entry.1 entry.2 := by
    apply List.filter_congr
    intro entry hentry
    rw [isOk_writeAnswer (hplain entry hentry), Bool.and_comm]
    rfl
  simp only [acceptedFor, acceptedWrites, staleFor, networkServices, stale, rewrittenIds,
    List.filter_map, List.map_map, List.filter_filter, Function.comp_def, hfilter]
  apply List.map_congr_left
  intro entry hentry
  rw [components_proxiesPath (hplain entry (List.mem_filter.1 hentry).1)]
  rfl

/-- The batch of a run rewrites the tree and logs one write for each rewritten service. -/
theorem Tidy.committed_acceptedFor {m : MemoryPreferences} (tidy : m.Tidy) (port : UInt16) :
    m.committed (m.acceptedFor port) =
      { m with
        services := m.rewritten port
        writes := m.writes ++ proxyWrites port (m.rewrittenIds port)
        commits := m.commits + 1 } := by
  have htree : replay m.services (m.acceptedFor port) = m.rewritten port := by
    rw [tidy.acceptedFor_eq, replay, List.foldl_map]
    simp only [List.drop_succ_cons, List.drop_zero]
    rw [PrefDict.foldl_setPath_service tidy.ordered (m.rewrittenIds_subset port)]
    apply Dict.mapValues_congr
    intro entry hentry
    simp only [mem_rewrittenIds tidy port hentry]
  have hlog : (m.acceptedFor port).map logEntry = proxyWrites port (m.rewrittenIds port) := by
    rw [tidy.acceptedFor_eq, List.map_map]
    apply List.map_congr_left
    intro id _
    simp only [Function.comp_apply, logEntry, write_proxiesPath]
  rw [committed, htree, hlog]

/-- A run without a stale service has nothing to rewrite. -/
theorem rewrites_of_fresh {m : MemoryPreferences} {port : UInt16} (h : m.staleFor port = [])
    {entry : String × PrefValue} (hmem : entry ∈ m.services) :
    m.rewrites port entry.1 entry.2 = false := by
  have hnot := List.filter_eq_nil_iff.1 h (ofEntry entry) (List.mem_map_of_mem hmem)
  rw [rewrites, Bool.eq_false_iff.2 hnot]
  rfl

/-- Where nothing is stale, the services stay. -/
theorem rewritten_of_fresh {m : MemoryPreferences} {port : UInt16} (h : m.staleFor port = []) :
    m.rewritten port = m.services := by
  have hsame : m.rewritten port = m.services.mapValues fun _ entry => entry := by
    apply Dict.mapValues_congr
    intro entry hentry
    simp [rewrites_of_fresh h hentry]
  rw [hsame, Dict.mapValues_id]

/-- Where nothing is stale, none is rewritten. -/
theorem rewrittenIds_of_fresh {m : MemoryPreferences} {port : UInt16}
    (h : m.staleFor port = []) : m.rewrittenIds port = [] := by
  rw [rewrittenIds, List.map_eq_nil_iff, List.filter_eq_nil_iff]
  intro entry hentry
  simp [rewrites_of_fresh h hentry]

/-! ## The effect of a run -/

section Effect

variable {m m' : MemoryPreferences} {port : UInt16} {result : Except SyncError SyncReport}

/-- A run that ends before its batch is committed leaves the tree, the log of writes and the
count of commits as they are. -/
theorem RunEnd.untouched {error : SyncError} (h : RunEnd m port (.error error) m')
    (hstage : ∀ cause, error ≠ .apply cause) :
    m'.services = m.services ∧ m'.writes = m.writes ∧ m'.commits = m.commits := by
  cases h with
  | denied _ => exact ⟨rfl, rfl, rfl⟩
  | refused _ _ => exact ⟨rfl, rfl, rfl⟩
  | commitFailed _ _ _ _ => exact ⟨rfl, rfl, rfl⟩
  | applyFailed _ _ _ _ _ => exact absurd rfl (hstage _)

/-- A run that ends well, or only fails to make its batch active, has rewritten the tree and
logged the writes. -/
theorem RunEnd.published (tidy : m.Tidy) (h : RunEnd m port result m')
    (hstage : (∃ report, result = .ok report) ∨ ∃ cause, result = .error (.apply cause)) :
    m'.services = m.rewritten port ∧
      m'.writes = m.writes ++ proxyWrites port (m.rewrittenIds port) := by
  cases h with
  | denied _ => simp at hstage
  | refused _ _ => simp at hstage
  | commitFailed _ _ _ _ => simp at hstage
  | upToDate _ _ fresh =>
      rw [rewritten_of_fresh fresh, rewrittenIds_of_fresh fresh]
      simp [visited, logAll, proxyWrites]
  | applyFailed _ _ _ _ _ =>
      rw [tidy.committed_acceptedFor]
      exact ⟨rfl, rfl⟩
  | applied _ _ _ _ _ =>
      rw [tidy.committed_acceptedFor]
      exact ⟨rfl, rfl⟩

/-- Whichever way a run ends, the tree is the old one or the rewritten one. -/
theorem RunEnd.services_eq (tidy : m.Tidy) (h : RunEnd m port result m') :
    m'.services = m.services ∨ m'.services = m.rewritten port := by
  rcases result with error | report
  · by_cases happly : ∃ cause, error = .apply cause
    · obtain ⟨cause, rfl⟩ := happly
      exact .inr (h.published tidy (.inr ⟨cause, rfl⟩)).1
    · exact .inl (h.untouched fun cause heq => happly ⟨cause, heq⟩).1
  · exact .inr (h.published tidy (.inl ⟨report, rfl⟩)).1

/-- A run keeps the services tidy. -/
theorem RunEnd.tidy (h : RunEnd m port result m') (tidy : m.Tidy) : m'.Tidy := by
  rcases h.services_eq tidy with hservices | hservices
  · exact ⟨hservices ▸ tidy.ordered, hservices ▸ tidy.plain⟩
  · have hordered : Dict.Ordered (m.rewritten port) := tidy.ordered.mapValues _
    have hkeys : (m.rewritten port).keys = m.services.keys := Dict.keys_mapValues _ _
    exact ⟨hservices ▸ hordered, by rw [hservices, hkeys]; exact tidy.plain⟩

/-- Rewriting keeps the services, of each service all but the proxies, and the services that
are not eligible or have an injected failure altogether. -/
theorem rewritten_frame (m : MemoryPreferences) (port : UInt16) :
    (m.rewritten port).keys = m.services.keys ∧
      ∀ id entry, m.services.find? id = some entry →
        ∃ entry', (m.rewritten port).find? id = some entry' ∧
          (∀ key, key ≠ proxiesKey → entryAt? key entry' = entryAt? key entry) ∧
          ((ofEntry (id, entry)).hardware.isEligible = false ∨ id ∈ m.failures.sets →
            entry' = entry) := by
  refine ⟨Dict.keys_mapValues _ _, ?_⟩
  intro id entry hfind
  have hfound : (m.rewritten port).find? id = some
      (if m.rewrites port id entry then withProxies (ProxyDict.desired port) entry else entry) := by
    rw [rewritten, Dict.find?_mapValues, hfind]
    rfl
  refine ⟨_, hfound, ?_, ?_⟩
  · intro key hkey
    split
    · rw [entryAt?_withProxies hkey]
    · rfl
  · intro hkept
    have hnot : m.rewrites port id entry = false := by
      rcases hkept with heligible | hset
      · simp [rewrites, isStale, heligible]
      · simp [rewrites, hset]
    simp [hnot]

/-- A run is all or nothing: an error before the commit succeeded leaves the tree and the
writes as they were; otherwise exactly the services that the run rewrites have the wanted
proxies, and the log has grown by these writes in ascending order.  In every case all that
is not a rewritten dictionary of proxies stays as it was. -/
theorem run_effect {m : MemoryPreferences} (tidy : m.Tidy) (port : UInt16) :
    let run := Synchronizer.run backend port m
    (∀ error, run.result = .error error → (∀ cause, error ≠ .apply cause) →
        run.state.services = m.services ∧ run.state.writes = m.writes ∧
          run.state.commits = m.commits) ∧
      ((∃ report, run.result = .ok report) ∨ (∃ cause, run.result = .error (.apply cause)) →
        run.state.services = m.rewritten port ∧
          run.state.writes = m.writes ++ proxyWrites port (m.rewrittenIds port)) ∧
      (m.rewrittenIds port).Pairwise (fun a b => Text.Utf8.encode a < Text.Utf8.encode b) ∧
      run.state.services.keys = m.services.keys ∧
      ∀ id entry, m.services.find? id = some entry →
        ∃ entry', run.state.services.find? id = some entry' ∧
          (∀ key, key ≠ proxiesKey → entryAt? key entry' = entryAt? key entry) ∧
          ((ofEntry (id, entry)).hardware.isEligible = false ∨ id ∈ m.failures.sets →
            entry' = entry) := by
  intro run
  have hend : RunEnd m port run.result run.state := run_end m port
  refine ⟨?_, hend.published tidy, tidy.rewrittenIds_ascending port, ?_⟩
  · intro error herror hstage
    rw [herror] at hend
    exact hend.untouched hstage
  · rcases hend.services_eq tidy with hservices | hservices
    · rw [hservices]
      exact ⟨rfl, fun id entry hfind => ⟨entry, hfind, fun _ _ => rfl, fun _ => rfl⟩⟩
    · rw [hservices]
      exact m.rewritten_frame port

end Effect

/-- A wireless and a wired service, the second of which cannot be written. -/
def oneDenied : MemoryPreferences :=
  { addService (addService {} "A" (some "AirPort") none) "B" (some "Ethernet") none with
    failures := { sets := ["B"] } }

/-- Here a run rewrites the first service and leaves the second. -/
theorem run_effect_of_oneDenied :
    let run := Synchronizer.run backend 3128 oneDenied
    oneDenied.Tidy ∧ run.result = .ok ⟨3128, oneDenied.outcomesFor 3128, true⟩ ∧
      run.state.services = oneDenied.rewritten 3128 ∧
      run.state.writes = proxyWrites 3128 ["A"] ∧
      run.state.services.find? "B" = oneDenied.services.find? "B" := by
  intro run
  have tidy : oneDenied.Tidy :=
    { ordered := by decide +kernel
      plain := by decide }
  have hresult : run.result = .ok ⟨3128, oneDenied.outcomesFor 3128, true⟩ := rfl
  have hids : oneDenied.rewrittenIds 3128 = ["A"] := by decide +kernel
  obtain ⟨-, hpublished, -, -, hframe⟩ := run_effect tidy 3128
  obtain ⟨hservices, hwrites⟩ := hpublished (.inl ⟨_, hresult⟩)
  have hfind : oneDenied.services.find? "B" =
      some (.dict (serviceEntry (some "Ethernet") none)) := rfl
  obtain ⟨entry, hfound, -, hsame⟩ := hframe "B" _ hfind
  refine ⟨tidy, hresult, hservices, ?_, ?_⟩
  · rw [hwrites, hids]
    rfl
  · rw [hfound, hsame (.inr (by decide)), hfind]

end MemoryPreferences
end ProxyControl
