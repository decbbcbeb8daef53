import ProxyControl.Settings.Neighbor

/-!
# Nodes of a volume

What stands at a place is changed only by what is put there or removed from there.

Main results:

- Theorem `VolumeAction.bind_eq_ok`: actions one after the other.
- Theorems `Volume.node?_put_self`, `Volume.node?_put_of_ne`: a node that is put at a place.
- Theorems `Volume.node?_clear_self`, `Volume.node?_clear_of_ne`: a place that is cleared.
- Theorem `Neighbor.place_ne`: the files beside a database are at other places than it.
-/

namespace ProxyControl

/-! ## Actions -/

namespace VolumeAction

variable {ε α β : Type}

/-- An action that reads the volume first is given the volume as it is. -/
theorem get_bind (f : Volume → VolumeAction ε β) (v : Volume) : (get >>= f) v = f v v :=
  rfl

/-- Two actions succeed one after the other if each of them does. -/
theorem bind_eq_ok {x : VolumeAction ε α} {f : α → VolumeAction ε β} {v w : Volume} {b : β} :
    (x >>= f) v = .ok b w ↔ ∃ a u, x v = .ok a u ∧ f a u = .ok b w := by
  simp only [bind, EStateM.bind]
  constructor
  · intro h
    cases hx : x v with
    | ok a u =>
        rw [hx] at h
        exact ⟨a, u, rfl, h⟩
    | error e u =>
        rw [hx] at h
        cases h
  · rintro ⟨a, u, hx, hf⟩
    rw [hx]
    exact hf

/-- A changed answer comes from an action that succeeds and leaves the same volume. -/
theorem map_eq_ok {x : VolumeAction ε α} {f : α → β} {v w : Volume} {b : β} :
    (f <$> x) v = .ok b w ↔ ∃ a, x v = .ok a w ∧ f a = b := by
  simp only [Functor.map, EStateM.map]
  cases x v with
  | ok a u =>
      constructor
      · intro h
        obtain ⟨hb, rfl⟩ := EStateM.Result.ok.inj h
        exact ⟨a, rfl, hb⟩
      · rintro ⟨a', ha, rfl⟩
        obtain ⟨rfl, rfl⟩ := EStateM.Result.ok.inj ha
        rfl
  | error e u =>
      constructor
      · intro h
        cases h
      · rintro ⟨a, h, -⟩
        cases h

/-- To put an error in other words makes no difference to an action that succeeds. -/
theorem adaptExcept_eq_ok {ε' : Type} {x : VolumeAction ε α} {f : ε → ε'} {v w : Volume} {a : α} :
    x.adaptExcept f v = .ok a w ↔ x v = .ok a w := by
  rw [EStateM.adaptExcept]
  cases x v with
  | ok a u =>
      constructor
      · intro h
        cases h
        rfl
      · intro h
        cases h
        rfl
  | error e u =>
      constructor
      · intro h
        cases h
      · intro h
        cases h

end VolumeAction

/-! ## Nodes -/

namespace Volume

/-- Taking one place off a list of nodes leaves the others on it. -/
theorem lookup_filter_of_ne {nodes : List (Place × Node)} {place other : Place}
    (h : other ≠ place) :
    (nodes.filter fun entry => entry.1 ≠ place).lookup other = nodes.lookup other := by
  induction nodes with
  | nil => rfl
  | cons entry nodes ih =>
      obtain ⟨at_, node⟩ := entry
      by_cases hat : at_ = place
      · have hother : (other == at_) = false := by simpa [hat] using h
        rw [List.filter_cons_of_neg (by simpa using hat), ih, List.lookup_cons, hother]
      · rw [List.filter_cons_of_pos (by simpa using hat), List.lookup_cons, List.lookup_cons, ih]

/-- A place that was taken off the list is not on it. -/
theorem lookup_filter_self (nodes : List (Place × Node)) (place : Place) :
    (nodes.filter fun entry => entry.1 ≠ place).lookup place = none := by
  rw [List.lookup_eq_none_iff]
  intro entry hentry
  have hne : entry.1 ≠ place := by simpa using (List.mem_filter.1 hentry).2
  exact bne_iff_ne.2 (Ne.symm hne)

/-- What is put at a place stands there; only the root cannot be replaced. -/
theorem node?_put_self (v : Volume) {place : Place} (h : place ≠ []) (node : Node) :
    (v.put place node).node? place = some node := by
  simp [node?, put, h]

/-- Elsewhere everything stays. -/
theorem node?_put_of_ne (v : Volume) {place other : Place} (h : other ≠ place) (node : Node) :
    (v.put place node).node? other = v.node? other := by
  unfold node? put
  split
  · rfl
  · have hother : (other == place) = false := beq_false_of_ne h
    simp only [List.lookup_cons, hother, lookup_filter_of_ne h]

/-- Nothing is left at a place that is cleared. -/
theorem node?_clear_self (v : Volume) {place : Place} (h : place ≠ []) :
    (v.clear place).node? place = none := by
  simp only [node?, clear, List.isEmpty_iff, h, if_false]
  exact lookup_filter_self v.nodes place

/-- Elsewhere everything stays. -/
theorem node?_clear_of_ne (v : Volume) {place other : Place} (h : other ≠ place) :
    (v.clear place).node? other = v.node? other := by
  unfold node? clear
  split
  · rfl
  · exact lookup_filter_of_ne h

/-- What is put somewhere and cleared again leaves the place empty. -/
theorem node?_clear_put (v : Volume) {place : Place} (h : place ≠ []) (node : Node)
    (hfree : v.node? place = none) (other : Place) :
    ((v.put place node).clear place).node? other = v.node? other := by
  by_cases hother : other = place
  · subst hother
    rw [node?_clear_self _ h, hfree]
  · rw [node?_clear_of_ne _ hother, node?_put_of_ne _ hother]

end Volume

namespace Neighbor

/-- A file beside a database is made where there is none, if its name is short enough. -/
theorem make_of_none {n : Neighbor} {database : Place} {v : Volume}
    (hfree : n.node? database v = none) (hroom : n.hasRoom database = true) :
    n.make database v = .ok () (v.put (n.place database) .emptyFile) := by
  rw [make, VolumeAction.get_bind, hfree]
  simp only [hroom, if_true]
  rfl

/-- The files beside a database are at different places. -/
theorem place_ne_place {m n : Neighbor} (h : m ≠ n) (database : Place) :
    m.place database ≠ n.place database :=
  fun heq => h (place_injective heq)

/-- The log of a database has as long a name as its index. -/
theorem hasRoom_log (database : Place) : log.hasRoom database = index.hasRoom database := by
  have hlength : (Text.Utf8.encode log.ending).length = (Text.Utf8.encode index.ending).length := by
    decide +kernel
  rw [hasRoom, hasRoom, name, name, List.length_append, List.length_append, hlength]

/-- None of them is the root. -/
theorem place_ne_nil (n : Neighbor) (database : Place) : n.place database ≠ [] := by
  simp [place]

/-- A file beside a database is at another place than the database. -/
theorem place_ne (n : Neighbor) {database : Place} (h : database ≠ []) :
    n.place database ≠ database := by
  intro heq
  have hlast : n.name database = database.getLast h := by
    have hgetLast := congrArg List.getLast? heq
    rw [place, List.getLast?_concat, List.getLast?_eq_some_getLast h] at hgetLast
    exact Option.some.inj hgetLast
  have hlength := congrArg List.length hlast
  rw [name, List.getLast?_eq_some_getLast h, Option.getD_some, List.length_append] at hlength
  have hending : 0 < (Text.Utf8.encode n.ending).length := by cases n <;> decide +kernel
  omega

end Neighbor
end ProxyControl
