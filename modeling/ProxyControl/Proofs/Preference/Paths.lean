import ProxyControl.Preference.Service
import ProxyControl.Preference.Value

/-!
# Components of written paths

A slash separates what is before it from what is after it, whatever stands there, so the
components of a path are found piece by piece.  A piece without slashes that is not empty
is a component by itself; identifiers of this kind lead to the service that they name.

Main results:

- Predicate `PrefPath.IsPlain`: a text that is one component.
- Theorem `PrefPath.components_slash`: the components on both sides of a slash.
- Theorem `PrefPath.components_write`: plain components are read back as written.
- Theorem `PrefPath.isPlain_of_mem_components`: the components of a path are plain.
- Theorem `NetworkService.components_proxiesPathOf`: the path of a service's proxies.
-/

namespace ProxyControl

namespace PrefPath

/-- A text that is not empty and has no slash. -/
def IsPlain (component : String) : Prop :=
  component ≠ "" ∧ '/' ∉ component.toList

instance (component : String) : Decidable (IsPlain component) :=
  inferInstanceAs (Decidable (_ ∧ _))

/-! ## Separation at slashes -/

/-- Reading on after a slash starts a new component. -/
theorem componentsFrom_slash (current before after : List Char) :
    componentsFrom current (before ++ '/' :: after) =
      componentsFrom current before ++ componentsFrom [] after := by
  induction before generalizing current with
  | nil =>
      by_cases h : current.isEmpty = true
      · simp [componentsFrom, h]
      · simp [componentsFrom, h]
  | cons c rest ih =>
      rw [List.cons_append, componentsFrom, componentsFrom]
      by_cases hc : c = '/'
      · by_cases h : current.isEmpty = true
        · simp only [hc, h, if_true, ih]
        · simp only [hc, h, if_true, Bool.false_eq_true, if_false, ih, List.cons_append]
      · simp only [hc, if_false, ih]

/-- Without a slash all characters belong to one component. -/
theorem componentsFrom_of_no_slash {current rest : List Char} (h : '/' ∉ rest)
    (hne : current ++ rest ≠ []) :
    componentsFrom current rest = [String.ofList (current ++ rest)] := by
  induction rest generalizing current with
  | nil =>
      have hcurrent : current.isEmpty = false := by simpa using hne
      simp [componentsFrom, hcurrent]
  | cons c rest ih =>
      obtain ⟨hc, hrest⟩ := not_or.1 (mt List.mem_cons.2 h)
      rw [componentsFrom, if_neg (Ne.symm hc), ih hrest (by simp)]
      simp

@[simp]
theorem components_empty : components "" = [] :=
  rfl

/-- The components on both sides of a slash. -/
@[simp]
theorem components_slash (before after : String) :
    components (before ++ "/" ++ after) = components before ++ components after := by
  simp only [components, String.toList_append]
  have hslash : "/".toList = ['/'] := rfl
  rw [hslash, List.append_assoc, List.singleton_append, componentsFrom_slash]

/-- A slash at the front adds no component. -/
@[simp]
theorem components_leadingSlash (path : String) : components ("/" ++ path) = components path := by
  have h := components_slash "" path
  simpa using h

/-- A plain text is its own only component. -/
theorem IsPlain.components {component : String} (h : IsPlain component) :
    components component = [component] := by
  obtain ⟨hne, hslash⟩ := h
  rw [PrefPath.components, componentsFrom_of_no_slash hslash]
  · simp
  · simpa using hne

/-! ## Written paths -/

/-- Plain components are read back as they were written. -/
theorem components_write {path : List String} (h : ∀ component ∈ path, IsPlain component) :
    components (write path) = path := by
  induction path with
  | nil => rfl
  | cons component rest ih =>
      have hfirst : IsPlain component := h component List.mem_cons_self
      have hrest : components (write rest) = rest :=
        ih fun other hother => h other (List.mem_cons_of_mem _ hother)
      cases rest with
      | nil => simpa [write] using hfirst.components
      | cons next rest =>
          have hnext : write (next :: rest) = "/" ++ (next ++ write rest) := by
            simp [write, String.append_assoc]
          rw [hnext, components_leadingSlash] at hrest
          have hsplit : write (component :: next :: rest) =
              "/" ++ (component ++ "/" ++ (next ++ write rest)) := by
            rw [write, hnext]
            simp only [String.append_assoc]
          rw [hsplit, components_leadingSlash, components_slash, hrest, hfirst.components]
          rfl

/-- Every component is plain if what has been read of the first one has no slash. -/
theorem isPlain_of_mem_componentsFrom {current rest : List Char} (h : '/' ∉ current)
    {component : String} (hmem : component ∈ componentsFrom current rest) : IsPlain component := by
  have hplain {current : List Char} (h : '/' ∉ current) (hne : ¬ current.isEmpty = true) :
      IsPlain (String.ofList current) :=
    ⟨by simpa using hne, by simpa using h⟩
  induction rest generalizing current with
  | nil =>
      by_cases hempty : current.isEmpty = true
      · simp [componentsFrom, hempty] at hmem
      · simp only [componentsFrom, hempty, Bool.false_eq_true, if_false, List.mem_singleton] at hmem
        rw [hmem]
        exact hplain h hempty
  | cons c rest ih =>
      rw [componentsFrom] at hmem
      by_cases hc : c = '/'
      · rw [if_pos hc] at hmem
        by_cases hempty : current.isEmpty = true
        · rw [if_pos hempty] at hmem
          exact ih (by simp) hmem
        · rw [if_neg hempty] at hmem
          rcases List.mem_cons.1 hmem with rfl | hmem
          · exact hplain h hempty
          · exact ih (by simp) hmem
      · rw [if_neg hc] at hmem
        have hcurrent : '/' ∉ current ++ [c] := by
          simp [h, Ne.symm hc]
        exact ih hcurrent hmem

/-- The components of a path are plain. -/
theorem isPlain_of_mem_components {path component : String}
    (h : component ∈ components path) : IsPlain component :=
  isPlain_of_mem_componentsFrom (by simp) h

end PrefPath

namespace NetworkService

open PrefPath

/-- The path of a service's proxies has the components of the identifier in the middle. -/
theorem components_proxiesPathOf (id : String) :
    components (proxiesPathOf id) = networkServicesKey :: (components id ++ [proxiesKey]) := by
  have hroot : components networkServicesKey = [networkServicesKey] :=
    IsPlain.components (by decide)
  have hlast : components proxiesKey = [proxiesKey] := IsPlain.components (by decide)
  rw [proxiesPathOf, components_slash, components_slash, components_leadingSlash, hroot, hlast]
  rfl

/-- The path of a service's proxies is written with three components. -/
theorem write_proxiesPath (id : String) :
    write [networkServicesKey, id, proxiesKey] = proxiesPathOf id := by
  simp [write, proxiesPathOf, String.append_assoc]

end NetworkService
end ProxyControl
