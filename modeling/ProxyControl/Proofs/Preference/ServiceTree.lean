import ProxyControl.Preference.Memory
import ProxyControl.Proofs.Dictionaries

/-!
# Proxies in the tree of services

The proxies of a service are put into the tree at a path of two components, the service
and the key of its proxies.  This changes one entry of one service: the hardware of every
service, the other entries of the service and the other services are as before.

Main results:

- Definition `NetworkService.withProxies`: a service entry with other proxies.
- Theorem `NetworkService.ofEntry_withProxies`: how such a service is read.
- Theorem `PrefDict.setPath_service`: writing the proxies of one service.
- Theorem `PrefDict.foldl_setPath_service`: writing the proxies of several services.
-/

namespace ProxyControl

/-! ## One entry -/

namespace NetworkService

/-- What a service entry holds under a key. -/
def entryAt? (key : String) (entry : PrefValue) : Option PrefValue :=
  entry.asDict?.bind fun entries => Dict.find? entries key

/-- A service entry with its proxies replaced; an entry that is no dictionary becomes one. -/
def withProxies (wanted : ProxyDict) (entry : PrefValue) : PrefValue :=
  .dict (Dict.insert (entry.asDict?.getD []) proxiesKey (.dict wanted))

@[simp]
theorem withProxies_dict (wanted : ProxyDict) (entries : PrefDict) :
    withProxies wanted (.dict entries) = .dict (Dict.insert entries proxiesKey (.dict wanted)) :=
  rfl

/-- To give a service its proxies again changes nothing. -/
@[simp]
theorem withProxies_withProxies (wanted : ProxyDict) (entry : PrefValue) :
    withProxies wanted (withProxies wanted entry) = withProxies wanted entry := by
  simp [withProxies, PrefValue.asDict?]

/-- The other keys of the entry keep what they hold. -/
@[simp]
theorem entryAt?_withProxies {key : String} (h : key ≠ proxiesKey) (wanted : ProxyDict)
    (entry : PrefValue) : entryAt? key (withProxies wanted entry) = entryAt? key entry := by
  rw [entryAt?, entryAt?, withProxies]
  simp only [PrefValue.asDict?, Option.bind_some]
  rw [Dict.find?_insert_of_ne _ _ h]
  cases entry <;> rfl

/-- The key of the proxies holds the new ones. -/
@[simp]
theorem entryAt?_proxiesKey_withProxies (wanted : ProxyDict) (entry : PrefValue) :
    entryAt? proxiesKey (withProxies wanted entry) = some (.dict wanted) := by
  simp [entryAt?, withProxies, PrefValue.asDict?]

/-! ## Reading an entry -/

/-- The name of the hardware is two levels below the entry. -/
theorem hardwareName?_eq (entry : PrefValue) :
    hardwareName? entry = (entryAt? interfaceKey entry).bind fun interface =>
      (entryAt? hardwareKey interface).bind PrefValue.asText? := by
  cases entry with
  | dict entries =>
      simp only [hardwareName?, entryAt?, PrefValue.asDict?, Option.bind_eq_bind,
        Option.bind_some, Option.bind_assoc]
  | _ => rfl

/-- The proxies are one level below the entry. -/
theorem proxies?_eq (entry : PrefValue) :
    proxies? entry = (entryAt? proxiesKey entry).bind PrefValue.asDict? := by
  cases entry <;> rfl

/-- Other proxies leave the hardware as it is. -/
@[simp]
theorem hardwareName?_withProxies (wanted : ProxyDict) (entry : PrefValue) :
    hardwareName? (withProxies wanted entry) = hardwareName? entry := by
  have hkeys : interfaceKey ≠ proxiesKey := by decide
  rw [hardwareName?_eq, hardwareName?_eq, entryAt?_withProxies hkeys]

/-- The proxies that a service was given are found. -/
@[simp]
theorem proxies?_withProxies (wanted : ProxyDict) (entry : PrefValue) :
    proxies? (withProxies wanted entry) = some wanted := by
  rw [proxies?_eq, entryAt?_proxiesKey_withProxies]
  rfl

/-- A service whose proxies have been replaced is read as before, but for the proxies. -/
theorem ofEntry_withProxies (wanted : ProxyDict) (id : String) (entry : PrefValue) :
    ofEntry (id, withProxies wanted entry) =
      { ofEntry (id, entry) with current := some wanted } := by
  simp only [ofEntry, hardwareName?_withProxies, proxies?_withProxies]

end NetworkService

/-! ## The tree -/

namespace PrefDict

open NetworkService

/-- Writing the proxies of a service that is there changes the entry of this service. -/
theorem setPath_service {tree : PrefDict} (hd : Dict.Ordered tree) {id : String}
    (hid : id ∈ tree.keys) (wanted : ProxyDict) :
    tree.setPath [id, proxiesKey] wanted =
      tree.mapValues fun key entry => if key = id then withProxies wanted entry else entry := by
  obtain ⟨⟨key, entry⟩, hmem, rfl⟩ := List.mem_map.1 hid
  have hfind : tree.find? key = some entry := (Dict.find?_eq_some_iff hd).2 hmem
  have hinsert : tree.setPath [key, proxiesKey] wanted =
      tree.insert key (withProxies wanted entry) := by
    simp [setPath, child, hfind, withProxies]
  rw [hinsert, Dict.insert_eq_mapValues hd hfind]
  apply Dict.mapValues_congr
  intro other hother
  by_cases h : other.1 = key
  · have heq := hd.eq_of_key_eq hother hmem h
    simp [heq]
  · simp [h]

/-- Writing the proxies of services that are there, one after the other, changes the
entries of these services. -/
theorem foldl_setPath_service {tree : PrefDict} (hd : Dict.Ordered tree) {ids : List String}
    (hids : ∀ id ∈ ids, id ∈ tree.keys) (wanted : ProxyDict) :
    ids.foldl (fun tree id => tree.setPath [id, proxiesKey] wanted) tree =
      tree.mapValues fun key entry => if key ∈ ids then withProxies wanted entry else entry := by
  induction ids generalizing tree with
  | nil => simp
  | cons id rest ih =>
      rw [List.foldl_cons, setPath_service hd (hids id List.mem_cons_self),
        ih (hd.mapValues _), Dict.mapValues_mapValues]
      · apply Dict.mapValues_congr
        intro entry _
        by_cases hrest : entry.1 ∈ rest <;> by_cases hfirst : entry.1 = id <;>
          simp [hrest, hfirst]
      · intro other hother
        rw [Dict.keys_mapValues]
        exact hids other (List.mem_cons_of_mem _ hother)

end PrefDict
end ProxyControl
