import ProxyControl.Proofs.Preference.RunEffect
import ProxyControl.Proofs.Preference.TreeUpdate

/-!
# Services and their paths

The path of a service's proxies is put together from texts with slashes and taken apart at the
slashes again.  It leads to the service itself just when the identifier is a component of a path,
that is, when it is not empty and has no slash.  A write to the path of any other identifier goes
past the entry of that identifier.

Main results:

- Theorem `PrefDict.proxies?_setPath_service`: the proxies of a service are found where they were
  written.
- Definitions `NetworkService.AddressedIn`, `NetworkService.Addressed`: what is written to the path
  of a service reaches it and no other service.
- Theorem `NetworkService.find?_commit_of_not_isPlain`: a write that goes past its service.
- Theorem `NetworkService.addressed_iff_isPlain`: the services that are addressed by their paths.
-/

namespace ProxyControl

/-! ## The tree -/

namespace PrefDict

/-- The proxies of a service are read through a path of two components. -/
theorem bind_proxies?_eq (tree : PrefDict) (id : String) :
    (tree.find? id).bind NetworkService.proxies? =
      (tree.getPath? [id, proxiesKey]).bind PrefValue.asDict? := by
  cases hfind : tree.find? id with
  | none => simp [getPath?, hfind]
  | some entry => simp [getPath?, hfind, NetworkService.proxies?_eq, NetworkService.entryAt?]

/-- The proxies of a service are found where they were written. -/
theorem proxies?_setPath_service (tree : PrefDict) (id : String) (dict : PrefDict) :
    ((tree.setPath [id, proxiesKey] dict).find? id).bind NetworkService.proxies? = some dict := by
  rw [bind_proxies?_eq, getPath?_setPath_self tree (List.cons_ne_nil _ _) dict]
  rfl

end PrefDict

/-! ## Writes that are committed -/

namespace MemoryPreferences

/-- A commit that succeeds has replayed the staged writes on the tree. -/
theorem services_of_commit {staged : StagedWrites} {m : MemoryPreferences}
    (h : (commit (staged, m)).1 = .ok ()) :
    (commit (staged, m)).2.2.services = replay m.services staged := by
  rw [services_commit]
  simp only [commit] at h
  split at h
  · cases h
  · exact if_neg ‹_›

theorem replay_concat (tree : PrefDict) (staged : StagedWrites) (write : StagedWrite) :
    replay tree (staged ++ [write]) = (replay tree staged).setPath (write.1.drop 1) write.2 :=
  replay_append tree staged [write]

end MemoryPreferences

namespace NetworkService

open PrefPath MemoryPreferences

variable {service : NetworkService} {dict : ProxyDict} {staged : StagedWrites}
  {m m' : MemoryPreferences}

/-- A write to the path of a service that the session takes, and the commit that follows it, put
the dictionary where the identifier leads. -/
theorem services_of_set_commit
    (hset : (setPath service.proxiesPath dict (staged, m)).1 = .ok ())
    (hcommit :
      (commit ((setPath service.proxiesPath dict (staged, m)).2.1, m')).1 = .ok ()) :
    (commit ((setPath service.proxiesPath dict (staged, m)).2.1, m')).2.2.services =
      (replay m'.services staged).setPath (components service.id ++ [proxiesKey]) dict := by
  have hstaged : setPath service.proxiesPath dict (staged, m) = (writeAnswer m.failures service,
      (staged ++ acceptedWrites m.failures dict [service], m.logAll [.setPath])) :=
    setPath_proxiesPath service dict staged m
  have hanswer : writeAnswer m.failures service = .ok () := by
    rwa [hstaged] at hset
  have haccepted : acceptedWrites m.failures dict [service] =
      [(components service.proxiesPath, dict)] := by
    simp [acceptedWrites, hanswer, Except.isOk, Except.toBool]
  rw [services_of_commit hcommit, hstaged, haccepted, replay_concat, proxiesPath,
    components_proxiesPathOf]
  rfl

/-- A write to the path of an identifier that is no component goes past the entry of that
identifier. -/
theorem find?_commit_of_not_isPlain (h : ¬ IsPlain service.id)
    (hset : (setPath service.proxiesPath dict (staged, m)).1 = .ok ())
    (hcommit :
      (commit ((setPath service.proxiesPath dict (staged, m)).2.1, m')).1 = .ok ()) :
    let committed := commit ((setPath service.proxiesPath dict (staged, m)).2.1, m')
    committed.2.2.services.find? service.id = (replay m'.services staged).find? service.id := by
  intro committed
  have hservices : committed.2.2.services =
      (replay m'.services staged).setPath (components service.id ++ [proxiesKey]) dict :=
    services_of_set_commit hset hcommit
  rw [hservices]
  -- The first component is plain, be it one of the identifier or the key of the proxies.
  have hfirst : ∀ component ∈ components service.id ++ [proxiesKey], IsPlain component := by
    intro component hcomponent
    rcases List.mem_append.1 hcomponent with hcomponent | hcomponent
    · exact isPlain_of_mem_components hcomponent
    · rw [List.mem_singleton.1 hcomponent]
      decide
  cases hcomponents : components service.id ++ [proxiesKey] with
  | nil => rfl
  | cons first rest =>
      have hne : service.id ≠ first := by
        rintro rfl
        exact h (hfirst _ (hcomponents ▸ List.mem_cons_self))
      exact PrefDict.find?_setPath_of_ne _ hne _ _

/-- What is written to the path of a service reaches it and no other service: the session takes the
write unless a failure was injected for the service, and once a commit has published it, the
service has the new proxies, and every other service is as it would be without this write.  The
preferences may change between the write and the commit. -/
def AddressedIn (service : NetworkService) (m m' : MemoryPreferences) : Prop :=
  ∀ (dict : ProxyDict) (staged : StagedWrites),
    let set := setPath service.proxiesPath dict (staged, m)
    let committed := commit (set.2.1, m')
    (set.1 = .ok () ↔ service.id ∉ m.failures.sets) ∧
      (set.1 = .ok () → committed.1 = .ok () →
        committed.2.2.serviceProxies service.id = some dict ∧
          ∀ other, other ≠ service.id →
            committed.2.2.services.find? other = (replay m'.services staged).find? other)

/-- What is written to the path of a service reaches it and no other service, whatever the
preferences are. -/
def Addressed (service : NetworkService) : Prop :=
  ∀ m m', service.AddressedIn m m'

theorem addressed_of_isPlain (h : IsPlain service.id) : service.Addressed := by
  intro m m' dict staged set committed
  refine ⟨?_, fun hset hcommit => ?_⟩
  · have hanswer : set.1 = writeAnswer m.failures service :=
      congrArg Prod.fst (setPath_proxiesPath service dict staged m)
    rw [hanswer, writeAnswer_of_plain h]
    simp
  · have hservices : committed.2.2.services =
        (replay m'.services staged).setPath [service.id, proxiesKey] dict := by
      have hpath := services_of_set_commit hset hcommit
      rwa [h.components] at hpath
    refine ⟨?_, fun other hother => ?_⟩
    · rw [serviceProxies, hservices]
      exact PrefDict.proxies?_setPath_service _ _ _
    · rw [hservices]
      exact PrefDict.find?_setPath_of_ne _ hother _ _

/-- Preferences that hold one service, without proxies. -/
def holding (service : NetworkService) : MemoryPreferences :=
  ({} : MemoryPreferences).addService service.id none none

theorem contains_holding (service : NetworkService) :
    service.holding.services.contains service.id = true := by
  rw [Dict.contains, holding, addService, Dict.find?_insert_self]
  rfl

/-- A write to the path of an identifier that is no component leaves the service of that identifier
without proxies. -/
theorem not_addressedIn_holding (h : ¬ IsPlain service.id) :
    ¬ service.AddressedIn service.holding service.holding := by
  intro haddressed
  obtain ⟨hset, hreached⟩ := haddressed [] []
  have htaken := hset.2 (by simp [holding, addService])
  have hcommit :
      (commit ((setPath service.proxiesPath [] ([], service.holding)).2.1, service.holding)).1 =
        .ok () := rfl
  have hentry := find?_commit_of_not_isPlain h htaken hcommit
  have hfound : (replay service.holding.services []).find? service.id =
      some (.dict (serviceEntry none none)) := Dict.find?_insert_self _ _ _
  have hproxies := (hreached htaken hcommit).1
  rw [serviceProxies, hentry, hfound] at hproxies
  cases hproxies

/-- A service is addressed by its path just when its identifier is not empty and has no slash, be it
in all preferences or only in those that hold the service, and no two of these services have the
same path. -/
theorem addressed_iff_isPlain (service : NetworkService) :
    (service.Addressed ↔ IsPlain service.id) ∧
      ((∀ m m' : MemoryPreferences, m.services.contains service.id = true →
        m'.services.contains service.id = true → service.AddressedIn m m') ↔
          IsPlain service.id) ∧
      ∀ other : NetworkService, IsPlain service.id → IsPlain other.id →
        components service.proxiesPath = components other.proxiesPath → service.id = other.id := by
  have hplain (h : service.AddressedIn service.holding service.holding) : IsPlain service.id :=
    Classical.not_not.1 fun hnot => not_addressedIn_holding hnot h
  have hheld := service.contains_holding
  refine ⟨⟨fun h => hplain (h _ _), addressed_of_isPlain⟩,
    ⟨fun h => hplain (h _ _ hheld hheld), ?_⟩, ?_⟩
  · intro h m m' _ _
    exact addressed_of_isPlain h m m'
  · intro other hservice hother h
    rw [components_proxiesPath hservice, components_proxiesPath hother] at h
    simpa using h

/-- Preferences with two services, of which the second has proxies. -/
def twoServices : MemoryPreferences :=
  (({} : MemoryPreferences).addService "ETH" none none).addService "WIFI" (some "AirPort") (some [])

/-- One of two services is written, and their paths are different. -/
theorem addressed_iff_isPlain_twoServices :
    let committed := commit ((setPath "/NetworkServices/ETH/Proxies" [("k", .bool true)]
      ([], twoServices)).2.1, twoServices)
    committed.2.2.serviceProxies "ETH" = some [("k", .bool true)] ∧
      committed.2.2.services.find? "WIFI" = twoServices.services.find? "WIFI" ∧
      components "/NetworkServices/ETH/Proxies" ≠ components "/NetworkServices/WIFI/Proxies" := by
  have haddressed := (addressed_iff_isPlain ⟨"ETH", .ethernet, none⟩).1.2 (by decide)
  obtain ⟨hset, hreached⟩ := haddressed twoServices twoServices [("k", .bool true)] []
  have hwritten := hreached (hset.2 (by decide)) rfl
  refine ⟨hwritten.1, hwritten.2 "WIFI" (by decide), fun hpaths => ?_⟩
  have hids := (addressed_iff_isPlain ⟨"ETH", .ethernet, none⟩).2.2 ⟨"WIFI", .airPort, none⟩
    (by decide) (by decide) hpaths
  exact absurd hids (by decide)

/-- Preferences that hold a service whose identifier has a slash, and another one. -/
def slashServices : MemoryPreferences :=
  (({} : MemoryPreferences).addService "a/b" (some "AirPort") none).addService "ETH"
    (some "Ethernet") none

/-- An identifier with a slash: the write is committed, but goes to another service, which the path
of yet another identifier leads to as well. -/
theorem not_addressed :
    let service : NetworkService := ⟨"a/b", .airPort, none⟩
    let set := setPath service.proxiesPath [("HTTPEnable", .int 1)] ([], slashServices)
    let committed := commit (set.2.1, slashServices)
    (¬ ∀ service : NetworkService, service.Addressed) ∧
      slashServices.services.contains service.id = true ∧
      ¬ service.AddressedIn slashServices slashServices ∧
      set.1 = .ok () ∧ committed.1 = .ok () ∧
      committed.2.2.serviceProxies service.id = none ∧
      components (proxiesPathOf "a/b") = components (proxiesPathOf "a//b") := by
  intro service set committed
  have hset : set.1 = .ok () := by decide +kernel
  have hproxies : committed.2.2.serviceProxies service.id = none :=
    Option.isNone_iff_eq_none.1 (by decide +kernel)
  have hmissed : ¬ service.AddressedIn slashServices slashServices := by
    intro h
    have hreached := ((h [("HTTPEnable", .int 1)] []).2 hset rfl).1
    cases hproxies.symm.trans hreached
  exact ⟨fun h => hmissed (h service _ _), by decide, hmissed, hset, rfl, hproxies, by decide⟩

end NetworkService
end ProxyControl
