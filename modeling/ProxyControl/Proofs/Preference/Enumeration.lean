import ProxyControl.Proofs.Preference.History
import ProxyControl.Proofs.Preference.RunTrace
import ProxyControl.Proofs.Preference.ServiceTree

/-!
# Services found in a snapshot

The services are read from a snapshot that anything may have written, so an entry can be malformed
at each level.  Every entry still gives one record.  The record names the hardware and the proxies
where all levels down to them have the right shape, and it depends on no other entry.

Main results:

- Structure `NetworkService.Describes`: a record says of an entry what the entry holds.
- Theorem `NetworkService.describes_ofEntry`: the record of every entry does so.
- Theorem `NetworkService.map_ofEntry_insert`: replacing an entry changes its record only.
- Theorem `Clients.services_after_additions`: the services after some additions.
- Theorem `Synchronizer.enumerate_exact`: what is found in a snapshot, and after additions.
-/

namespace ProxyControl

/-! ## Kinds of hardware -/

namespace HardwareKind

variable {name : Option String}

/-- Only one name is that of wireless hardware. -/
theorem ofName_eq_airPort_iff : ofName name = airPort ↔ name = some "AirPort" := by
  unfold ofName
  split
  · simp [*]
  · split <;> simp [*]

/-- Only one name is that of wired hardware. -/
theorem ofName_eq_ethernet_iff : ofName name = ethernet ↔ name = some "Ethernet" := by
  unfold ofName
  split
  · simp [*]
  · split <;> simp [*]

/-- Any other name is kept, and so is a missing one. -/
theorem ofName_eq_other_iff {other : Option String} :
    ofName name = .other other ↔
      name = other ∧ name ≠ some "AirPort" ∧ name ≠ some "Ethernet" := by
  unfold ofName
  split
  · simp [*]
  · split
    · simp [*]
    · simp [*]

end HardwareKind

/-! ## The record of an entry -/

/-- Only texts are taken as texts. -/
theorem PrefValue.asText?_eq_some_iff {value : PrefValue} {text : String} :
    value.asText? = some text ↔ value = .str text := by
  cases value <;> simp [asText?]

/-- Only dictionaries are taken as dictionaries. -/
theorem PrefValue.asDict?_eq_some_iff {value : PrefValue} {entries : PrefDict} :
    value.asDict? = some entries ↔ value = .dict entries := by
  cases value <;> simp [asDict?]

namespace NetworkService

/-- Something is found below a key only in a dictionary that has the key. -/
theorem entryAt?_eq_some_iff {key : String} {entry value : PrefValue} :
    entryAt? key entry = some value ↔
      ∃ entries, entry = .dict entries ∧ Dict.find? entries key = some value := by
  simp only [entryAt?, Option.bind_eq_some_iff, PrefValue.asDict?_eq_some_iff]

/-- An entry names its hardware: it is a dictionary with an interface, which is a dictionary with
a hardware text. -/
def NamesHardware (entry : PrefValue) (name : String) : Prop :=
  ∃ service interface, entry = .dict service ∧
    Dict.find? service interfaceKey = some (.dict interface) ∧
    Dict.find? interface hardwareKey = some (.str name)

/-- An entry holds proxies: it is a dictionary, and so are the proxies. -/
def HoldsProxies (entry : PrefValue) (proxies : PrefDict) : Prop :=
  ∃ service, entry = .dict service ∧ Dict.find? service proxiesKey = some (.dict proxies)

/-- The name of the hardware is read just where an entry has one. -/
theorem hardwareName?_eq_some_iff {entry : PrefValue} {name : String} :
    hardwareName? entry = some name ↔ NamesHardware entry name := by
  simp only [hardwareName?_eq, Option.bind_eq_some_iff, entryAt?_eq_some_iff,
    PrefValue.asText?_eq_some_iff]
  constructor
  · rintro ⟨_, ⟨service, hentry, hinterface⟩, _, ⟨interface, rfl, hhardware⟩, rfl⟩
    exact ⟨service, interface, hentry, hinterface, hhardware⟩
  · rintro ⟨service, interface, hentry, hinterface, hhardware⟩
    exact ⟨_, ⟨service, hentry, hinterface⟩, _, ⟨interface, rfl, hhardware⟩, rfl⟩

/-- The proxies are read just where an entry has them as a dictionary. -/
theorem proxies?_eq_some_iff {entry : PrefValue} {proxies : PrefDict} :
    proxies? entry = some proxies ↔ HoldsProxies entry proxies := by
  simp only [proxies?_eq, Option.bind_eq_some_iff, entryAt?_eq_some_iff,
    PrefValue.asDict?_eq_some_iff]
  constructor
  · rintro ⟨_, ⟨service, hentry, hproxies⟩, rfl⟩
    exact ⟨service, hentry, hproxies⟩
  · rintro ⟨service, hentry, hproxies⟩
    exact ⟨_, ⟨service, hentry, hproxies⟩, rfl⟩

/-- The record says of an entry what the entry holds. -/
structure Describes (entry : PrefValue) (service : NetworkService) : Prop where
  airPort : service.hardware = .airPort ↔ NamesHardware entry "AirPort"
  ethernet : service.hardware = .ethernet ↔ NamesHardware entry "Ethernet"
  other : ∀ name, service.hardware = .other (some name) ↔
    NamesHardware entry name ∧ name ≠ "AirPort" ∧ name ≠ "Ethernet"
  unknown : service.hardware = .other none ↔ ∀ name, ¬ NamesHardware entry name
  proxies : ∀ proxies, service.current = some proxies ↔ HoldsProxies entry proxies

/-- The record of an entry of any shape describes it. -/
theorem describes_ofEntry (id : String) (entry : PrefValue) :
    Describes entry (ofEntry (id, entry)) where
  airPort := by
    rw [ofEntry, HardwareKind.ofName_eq_airPort_iff, hardwareName?_eq_some_iff]
  ethernet := by
    rw [ofEntry, HardwareKind.ofName_eq_ethernet_iff, hardwareName?_eq_some_iff]
  other name := by
    rw [ofEntry, HardwareKind.ofName_eq_other_iff, ← hardwareName?_eq_some_iff]
    apply and_congr_right
    intro hname
    rw [hname]
    simp only [ne_eq, Option.some.injEq]
  unknown := by
    rw [ofEntry, HardwareKind.ofName_eq_other_iff, Option.eq_none_iff_forall_ne_some]
    constructor
    · intro h name hnames
      exact h.1 name (hardwareName?_eq_some_iff.2 hnames)
    · intro h
      have hnone (name : String) : hardwareName? entry ≠ some name := by
        intro hname
        exact h name (hardwareName?_eq_some_iff.1 hname)
      exact ⟨hnone, hnone _, hnone _⟩
  proxies proxies := by
    rw [ofEntry, proxies?_eq_some_iff]

/-- Every key gives one record, which has the key for its identifier. -/
theorem map_id_ofEntry (entries : PrefDict) : (entries.map ofEntry).map id = entries.keys := by
  rw [List.map_map]
  rfl

/-- The records of a dictionary ascend in the order of the bytes of their identifiers. -/
theorem map_ofEntry_byteOrder {entries : PrefDict} (hd : Dict.Ordered entries) :
    (entries.map ofEntry).Pairwise fun a b =>
      Text.Utf8.encode a.id < Text.Utf8.encode b.id := by
  rw [← ofSnapshot_dict]
  apply ofSnapshot_byteOrder
  intro others h
  cases h
  exact hd

/-- The records of a dictionary are those of what look-up finds. -/
theorem mem_map_ofEntry_iff {entries : PrefDict} (hd : Dict.Ordered entries)
    {service : NetworkService} :
    service ∈ entries.map ofEntry ↔
      ∃ value, entries.find? service.id = some value ∧ ofEntry (service.id, value) = service := by
  simp only [Dict.find?_eq_some_iff hd]
  constructor
  · intro hmem
    obtain ⟨⟨id, value⟩, hentry, rfl⟩ := List.mem_map.1 hmem
    exact ⟨value, hentry, rfl⟩
  · rintro ⟨value, hentry, hservice⟩
    exact List.mem_map.2 ⟨_, hentry, hservice⟩

/-- A dictionary with one entry replaced gives the same records but for that one. -/
theorem map_ofEntry_insert {entries : PrefDict} (hd : Dict.Ordered entries) {id : String}
    (hid : id ∈ entries.keys) (entry : PrefValue) :
    (entries.insert id entry).map ofEntry =
      (entries.map ofEntry).map fun service =>
        if service.id = id then ofEntry (id, entry) else service := by
  obtain ⟨old, hold⟩ := Dict.mem_keys_iff.1 hid
  rw [Dict.insert_eq_mapValues hd hold, Dict.mapValues, List.map_map, List.map_map]
  apply List.map_congr_left
  rintro ⟨key, value⟩ -
  by_cases hkey : key = id
  · simp [ofEntry, hkey]
  · simp [ofEntry, hkey]

end NetworkService

/-! ## Added services -/

namespace MemoryPreferences

variable (hardware : Option String) (proxies : Option ProxyDict)

/-- An added service has an interface if its hardware is named. -/
theorem find?_serviceEntry_interface :
    (serviceEntry hardware proxies).find? interfaceKey =
      hardware.map fun name => .dict [(hardwareKey, .str name)] := by
  rw [serviceEntry, Dict.find?_ofList]
  cases hardware <;> cases proxies <;> rfl

/-- An added service has proxies if they are given. -/
theorem find?_serviceEntry_proxies :
    (serviceEntry hardware proxies).find? proxiesKey = proxies.map PrefValue.dict := by
  rw [serviceEntry, Dict.find?_ofList]
  cases hardware <;> cases proxies <;> rfl

end MemoryPreferences

open MemoryPreferences

/-- A service that is added to the preferences in memory. -/
structure Addition where
  id : String
  hardware : Option String
  proxies : Option ProxyDict

namespace Addition

/-- The call that adds the service. -/
def action (a : Addition) : Clients.Action :=
  .addService a.id a.hardware a.proxies

/-- The entry of the service. -/
def entry (a : Addition) : String × PrefValue :=
  (a.id, .dict (MemoryPreferences.serviceEntry a.hardware a.proxies))

/-- The service as it is added. -/
def record (a : Addition) : NetworkService :=
  ⟨a.id, .ofName a.hardware, a.proxies⟩

/-- The last of the additions of an identifier. -/
def last? (additions : List Addition) (id : String) : Option Addition :=
  (additions.filter fun a => a.id = id).getLast?

/-- The entry of a service is read as the service that was added. -/
theorem ofEntry_entry (a : Addition) : NetworkService.ofEntry a.entry = a.record := by
  obtain ⟨id, hardware, proxies⟩ := a
  have hhardware : NetworkService.hardwareName? (.dict (serviceEntry hardware proxies)) =
      hardware := by
    rw [NetworkService.hardwareName?_eq, NetworkService.entryAt?, PrefValue.asDict?,
      Option.bind_some, find?_serviceEntry_interface]
    cases hardware <;> rfl
  have hproxies : NetworkService.proxies? (.dict (serviceEntry hardware proxies)) = proxies := by
    rw [NetworkService.proxies?_eq, NetworkService.entryAt?, PrefValue.asDict?,
      Option.bind_some, find?_serviceEntry_proxies]
    cases proxies <;> rfl
  rw [entry, record, NetworkService.ofEntry, hhardware, hproxies]

/-- After some additions the records are those of the last addition of each identifier. -/
theorem mem_records_iff (additions : List Addition) (service : NetworkService) :
    service ∈ (Dict.ofList (additions.map entry)).map NetworkService.ofEntry ↔
      (last? additions service.id).map record = some service := by
  have hfind (id : String) : (Dict.ofList (additions.map entry)).find? id =
      (last? additions id).map fun a => a.entry.2 := by
    rw [Dict.find?_ofList, List.filter_map, List.getLast?_map, Option.map_map, last?]
    rfl
  have hrecord : ∀ a, last? additions service.id = some a →
      NetworkService.ofEntry (service.id, a.entry.2) = a.record := by
    intro a ha
    have hid : a.id = service.id := by
      have hmem := List.mem_of_getLast? ha
      simpa using (List.mem_filter.1 hmem).2
    rw [← ofEntry_entry, ← hid]
    rfl
  rw [NetworkService.mem_map_ofEntry_iff (Dict.ordered_ofList _), hfind]
  cases hlast : last? additions service.id with
  | none => simp
  | some a => simp [hrecord a hlast]

end Addition

/-- What is found in a session of the preferences in memory. -/
theorem Synchronizer.enumerate_memory (x : StagedWrites × MemoryPreferences) :
    (enumerate session x).1 = x.2.services.map NetworkService.ofEntry := by
  rw [(enumerate_eq session x).1]
  by_cases h : x.2.services = []
  · simp [session, value, h]
  · simp [session, value, h]

namespace Clients

/-- Additions change the services alone. -/
theorem after_additions (c : Clients) (additions : List Addition) :
    c.after (additions.map Addition.action) =
      { c with
        prefs :=
          { c.prefs with
            services :=
              additions.foldl (fun d a => d.insert a.entry.1 a.entry.2) c.prefs.services } } := by
  induction additions generalizing c with
  | nil => rfl
  | cons a rest ih =>
      rw [List.map_cons, after_cons, ih]
      rfl

/-- The services after additions to new preferences, between which a session is opened. -/
theorem services_after_additions (before later : List Addition) (credential session : String)
    (flags : AuthorizationFlags) :
    let c := ({} : Clients).after (before.map Addition.action ++
      [.acquire credential flags, .openSession credential session] ++ later.map Addition.action)
    c.sessions.find? session = some [] ∧
      c.prefs.services = Dict.ofList ((before ++ later).map Addition.entry) := by
  intro c
  have hopened : ({} : Clients).after (before.map Addition.action ++
      [.acquire credential flags, .openSession credential session]) =
      { prefs :=
          { services := Dict.ofList (before.map Addition.entry)
            calls := [.authorize, .openSession]
            acquired := 1
            lastFlags := some flags }
        credentials := [credential]
        sessions := [(session, [])] } := by
    rw [after_append, after_additions, Dict.ofList, List.foldl_map]
    simp [step, acquire, openSession, Synchronizer.acquire, backend, authorize,
      MemoryPreferences.openSession, log, Dict.insert]
  simp only [c, after_append _ _ (later.map _), hopened, after_additions]
  constructor
  · exact if_pos rfl
  · simp only [Dict.ofList, List.map_append, List.foldl_append, List.foldl_map]

end Clients

/-! ## What is found -/

namespace Synchronizer

/-- A dictionary of services is found entry by entry. -/
theorem enumerate_of_dict {τ : Type} (s : Session τ) {x : τ} {entries : PrefDict}
    (h : (s.value networkServicesKey x).1 = some (.dict entries)) :
    (enumerate s x).1 = entries.map NetworkService.ofEntry := by
  rw [(enumerate_eq s x).1, h, NetworkService.ofSnapshot_dict]

/-- Where there is no dictionary of services, none is found. -/
theorem enumerate_of_no_dict {τ : Type} (s : Session τ) {x : τ}
    (h : ∀ entries, (s.value networkServicesKey x).1 ≠ some (.dict entries)) :
    (enumerate s x).1 = [] := by
  rw [(enumerate_eq s x).1]
  rcases hsnapshot : (s.value networkServicesKey x).1 with _ | value
  · rfl
  · cases value with
    | dict entries => exact absurd hsnapshot (h entries)
    | _ => rfl

/-- What is found in any snapshot, and after any additions.

A dictionary gives one record for each key, in the order of the bytes of the keys, and each record
describes its entry, whatever that is.  Replacing an entry changes its record only.  Any other
snapshot gives no record.  In an open session on new preferences in memory to which services were
added, before and after it was opened, the records are those of the last additions. -/
theorem enumerate_exact {τ : Type} (s : Session τ) (x : τ) :
    let snapshot := (s.value networkServicesKey x).1
    let services := (enumerate s x).1
    (∀ entries : PrefDict, snapshot = some (.dict entries) → Dict.Ordered entries →
      services.map NetworkService.id = entries.keys ∧
        (services.Pairwise fun a b => Text.Utf8.encode a.id < Text.Utf8.encode b.id) ∧
        (∀ service ∈ services, ∀ entry, entries.find? service.id = some entry →
          NetworkService.Describes entry service) ∧
        ∀ id ∈ entries.keys, ∀ entry (s' : Session τ) (x' : τ),
          (s'.value networkServicesKey x').1 = some (.dict (entries.insert id entry)) →
          (enumerate s' x').1 = services.map fun service =>
            if service.id = id then NetworkService.ofEntry (id, entry) else service) ∧
      ((∀ entries, snapshot ≠ some (.dict entries)) → services = []) ∧
      ∀ (before later : List Addition) (credential session : String) (flags : AuthorizationFlags),
        let c := ({} : Clients).after (before.map Addition.action ++
          [.acquire credential flags, .openSession credential session] ++
          later.map Addition.action)
        ∃ found, (c.step (.enumerate session)).answer = .services found ∧
          (found.Pairwise fun a b => Text.Utf8.encode a.id < Text.Utf8.encode b.id) ∧
          ∀ service, service ∈ found ↔
            (Addition.last? (before ++ later) service.id).map Addition.record = some service := by
  intro snapshot services
  refine ⟨?_, enumerate_of_no_dict s, ?_⟩
  · intro entries hsnapshot hordered
    have hservices : services = entries.map NetworkService.ofEntry :=
      enumerate_of_dict s hsnapshot
    rw [hservices]
    refine ⟨NetworkService.map_id_ofEntry entries, NetworkService.map_ofEntry_byteOrder hordered,
      ?_, ?_⟩
    · intro service hmem entry hentry
      obtain ⟨value, hvalue, hservice⟩ := (NetworkService.mem_map_ofEntry_iff hordered).1 hmem
      obtain rfl : value = entry := Option.some.inj (hvalue.symm.trans hentry)
      exact hservice ▸ NetworkService.describes_ofEntry service.id value
    · intro id hid entry s' x' hreplaced
      rw [enumerate_of_dict s' hreplaced, NetworkService.map_ofEntry_insert hordered hid]
  · intro before later credential session flags c
    obtain ⟨hsession, hadded⟩ :=
      Clients.services_after_additions before later credential session flags
    refine ⟨(Dict.ofList ((before ++ later).map Addition.entry)).map NetworkService.ofEntry,
      ?_, NetworkService.map_ofEntry_byteOrder (Dict.ordered_ofList _),
      Addition.mem_records_iff (before ++ later)⟩
    have hfound := enumerate_memory ([], c.prefs)
    rw [show c.prefs.services = _ from hadded] at hfound
    simp only [Clients.step, Clients.inSession, show c.sessions.find? session = _ from hsession,
      hfound]

/-- Services that are malformed at each level, and one that is not. -/
def malformedServices : PrefDict :=
  [("A", .str "AirPort"), ("B", .dict [(interfaceKey, .str "AirPort")]),
    ("C", .dict [(interfaceKey, .dict [(hardwareKey, .int 1)]), (proxiesKey, .arr [])]),
    ("D", .dict [(interfaceKey, .dict [(hardwareKey, .str "AirPort")])])]

/-- All of them are found, also when one is replaced, and nothing is found without them. -/
theorem enumerate_exact_malformed :
    let s (snapshot : Option PrefValue) := (SystemPreferences.planned { snapshot }).session
    let services := (enumerate (s (some (.dict malformedServices))) ((), ())).1
    (s (some (.dict malformedServices)) |>.value networkServicesKey ((), ())).1 =
        some (.dict malformedServices) ∧
      Dict.Ordered malformedServices ∧
      services.map NetworkService.id = ["A", "B", "C", "D"] ∧
      (∀ service ∈ services, ∀ entry, malformedServices.find? service.id = some entry →
        NetworkService.Describes entry service) ∧
      "B" ∈ malformedServices.keys ∧
      (enumerate (s (some (.dict (malformedServices.insert "B" (.int 1))))) ((), ())).1 =
        (services.map fun service =>
          if service.id = "B" then NetworkService.ofEntry ("B", .int 1) else service) ∧
      (∀ entries, (s none |>.value networkServicesKey ((), ())).1 ≠ some (.dict entries)) ∧
      (enumerate (s none) ((), ())).1 = [] := by
  intro s services
  have hread (snapshot : Option PrefValue) :
      ((s snapshot).value networkServicesKey ((), ())).1 = snapshot := rfl
  have hordered : Dict.Ordered malformedServices := by decide +kernel
  have hB : "B" ∈ malformedServices.keys := by decide +kernel
  obtain ⟨hids, -, hdescribes, hreplaced⟩ :=
    (enumerate_exact (s (some (.dict malformedServices))) ((), ())).1 malformedServices
      (hread _) hordered
  have hnone : ∀ entries, ((s none).value networkServicesKey ((), ())).1 ≠
      some (.dict entries) := by
    intro entries h
    cases h
  exact ⟨hread _, hordered, hids, hdescribes, hB, hreplaced "B" hB (.int 1) _ _ (hread _), hnone,
    (enumerate_exact (s none) ((), ())).2.1 hnone⟩

end Synchronizer
end ProxyControl
