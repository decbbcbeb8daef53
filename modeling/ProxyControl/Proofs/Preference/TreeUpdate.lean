import Mathlib.Data.List.Pairwise
import ProxyControl.Proofs.Dictionaries
import ProxyControl.Proofs.Preference.MemoryRun

/-!
# Updates of the preferences tree

Two paths either part at some component, or one of them leads through the other.  When a dictionary
is put into the tree at a path, it is found there, whatever was on the way, and every path that
parts from this one leads to what it led to before.  So writes whose paths part from one another
give the same tree in every order.

Main results:

- Relation `PrefPath.Apart`: two paths that part at some component.
- Theorem `PrefPath.apart_iff`: neither path begins with the other.
- Theorem `PrefDict.getPath?_setPath_self`: what was put at a path is found there.
- Theorem `PrefDict.getPath?_setPath_of_apart`: the paths that part from it lead to what they led
  to before.
- Theorem `PrefDict.setPath_setPath`: of two updates at one path the second counts.
- Theorem `PrefDict.setPath_comm`: updates at paths that part can be made in either order.
- Theorem `PrefDict.setPath_laws`: the laws of the update.
- Theorem `PrefDict.ordered_setPath`: every dictionary in the tree stays in order.
- Theorem `MemoryPreferences.getPath?_replay_last`: the last write to a path is found there.
- Theorems `MemoryPreferences.getPath?_commit_of_apart`, `MemoryPreferences.services_commit_perm`,
  `MemoryPreferences.ordered_commit`: what a commit leaves alone, when the order of its writes does
  not matter, and that it keeps the dictionaries in order.
-/

namespace ProxyControl

/-! ## Paths that part -/

namespace PrefPath

/-- The paths part at some component; up to there they are the same. -/
inductive Apart : List String → List String → Prop where
  /-- They part at the first component. -/
  | here {first other : String} (h : first ≠ other) (p q : List String) :
      Apart (first :: p) (other :: q)
  /-- They part below the first component. -/
  | deeper (first : String) {p q : List String} (h : Apart p q) : Apart (first :: p) (first :: q)

namespace Apart

variable {p q : List String}

/-- It makes no difference which path is named first. -/
theorem symm (h : Apart p q) : Apart q p := by
  induction h with
  | here hne p q => exact .here (Ne.symm hne) q p
  | deeper first _ ih => exact .deeper first ih

/-- No path parts from the empty one. -/
theorem ne_nil_left (h : Apart p q) : p ≠ [] := by
  cases h <;> exact List.cons_ne_nil _ _

/-- Nor does the empty path part from another. -/
theorem ne_nil_right (h : Apart p q) : q ≠ [] :=
  h.symm.ne_nil_left

/-- A path that parts from another does not lead through it. -/
theorem not_isPrefix (h : Apart p q) : ¬ p <+: q := by
  induction h with
  | here hne p q => exact fun hprefix => hne (List.cons_prefix_cons.1 hprefix).1
  | deeper first _ ih => exact fun hprefix => ih (List.cons_prefix_cons.1 hprefix).2

end Apart

/-- Two paths part just when neither of them begins with the other. -/
theorem apart_iff {p q : List String} : Apart p q ↔ ¬ p <+: q ∧ ¬ q <+: p := by
  refine ⟨fun h => ⟨h.not_isPrefix, h.symm.not_isPrefix⟩, ?_⟩
  rintro ⟨hpq, hqp⟩
  induction p generalizing q with
  | nil => exact absurd List.nil_prefix hpq
  | cons first p ih =>
      cases q with
      | nil => exact absurd List.nil_prefix hqp
      | cons other q =>
          by_cases hne : first = other
          · subst hne
            rw [List.cons_prefix_cons] at hpq hqp
            exact .deeper first (ih (fun h => hpq ⟨rfl, h⟩) fun h => hqp ⟨rfl, h⟩)
          · exact .here hne p q

end PrefPath

/-! ## One level of the tree -/

namespace PrefDict

open PrefPath

/-- A dictionary put under a key is the child of that key. -/
theorem child_insert_self (tree : PrefDict) (key : String) (entries : PrefDict) :
    child (tree.insert key (.dict entries)) key = entries := by
  simp [child, PrefValue.asDict?]

/-- The children of the other keys stay. -/
theorem child_insert_of_ne (tree : PrefDict) {key other : String} (h : other ≠ key)
    (value : PrefValue) : child (tree.insert key value) other = child tree other := by
  rw [child, child, Dict.find?_insert_of_ne _ _ h]

/-- Nothing is found in an empty tree. -/
theorem getPath?_nil (path : List String) : getPath? [] path = none := by
  cases path with
  | nil => rfl
  | cons first rest => cases rest <;> rfl

/-- A longer path is followed into the dictionary under its first component.  What is no dictionary
reads like an empty one there, which is why nothing is lost when an update replaces it. -/
theorem getPath?_cons (tree : PrefDict) (first : String) {rest : List String} (h : rest ≠ []) :
    tree.getPath? (first :: rest) = (tree.child first).getPath? rest := by
  obtain ⟨next, rest, rfl⟩ := List.exists_cons_of_ne_nil h
  have hread : tree.getPath? (first :: next :: rest) =
      ((tree.find? first).bind PrefValue.asDict?).bind (getPath? · (next :: rest)) := by
    cases hfind : tree.find? first with
    | none => simp [getPath?, hfind]
    | some value => simp [getPath?, hfind]
  rw [hread, child]
  cases (tree.find? first).bind PrefValue.asDict? with
  | none => exact (getPath?_nil (next :: rest)).symm
  | some entries => rfl

/-- An update below a component is made in the child of that component. -/
theorem setPath_cons (tree : PrefDict) (first : String) {rest : List String} (h : rest ≠ [])
    (dict : PrefDict) :
    tree.setPath (first :: rest) dict =
      tree.insert first (.dict ((tree.child first).setPath rest dict)) := by
  obtain ⟨next, rest, rfl⟩ := List.exists_cons_of_ne_nil h
  rfl

/-- An update sets the entry of its first component, and of the tree it reads no more than the
dictionary that was there. -/
theorem exists_setPath_eq_insert (first : String) (rest : List String) (dict : PrefDict) :
    ∃ update : PrefDict → PrefDict, ∀ tree : PrefDict,
      tree.setPath (first :: rest) dict =
        tree.insert first (.dict (update (tree.child first))) := by
  cases rest with
  | nil => exact ⟨fun _ => dict, fun _ => rfl⟩
  | cons next rest => exact ⟨fun child => child.setPath (next :: rest) dict, fun _ => rfl⟩

/-- An update changes the entry of its first component alone. -/
theorem find?_setPath_of_ne (tree : PrefDict) {first other : String} (h : other ≠ first)
    (rest : List String) (dict : PrefDict) :
    (tree.setPath (first :: rest) dict).find? other = tree.find? other := by
  obtain ⟨update, hupdate⟩ := exists_setPath_eq_insert first rest dict
  rw [hupdate]
  exact Dict.find?_insert_of_ne _ _ h

/-- Of a tree no more is read than the entry of the first component. -/
theorem getPath?_congr {tree other : PrefDict} {first : String}
    (h : tree.find? first = other.find? first) (rest : List String) :
    tree.getPath? (first :: rest) = other.getPath? (first :: rest) := by
  by_cases hrest : rest = []
  · subst hrest
    exact h
  · rw [getPath?_cons _ _ hrest, getPath?_cons _ _ hrest, child, child, h]

/-! ## The laws of the update -/

/-- What was put at a path is found there, whatever was on the way. -/
theorem getPath?_setPath_self (tree : PrefDict) {path : List String} (h : path ≠ [])
    (dict : PrefDict) : (tree.setPath path dict).getPath? path = some (.dict dict) := by
  fun_induction tree.setPath path dict with
  | case1 tree => exact absurd rfl h
  | case2 tree last dict => exact Dict.find?_insert_self _ _ _
  | case3 tree first rest dict hrest ih =>
      rw [getPath?_cons _ _ hrest, child_insert_self, ih hrest]

/-- A path that parts from the path of an update leads to what it led to before, or to nothing as
before. -/
theorem getPath?_setPath_of_apart {p q : List String} (h : Apart p q) (tree dict : PrefDict) :
    (tree.setPath p dict).getPath? q = tree.getPath? q := by
  induction h generalizing tree with
  | here hne p q => exact getPath?_congr (find?_setPath_of_ne tree (Ne.symm hne) p dict) q
  | deeper first hrest ih =>
      rw [setPath_cons _ _ hrest.ne_nil_left, getPath?_cons _ _ hrest.ne_nil_right,
        child_insert_self, ih, getPath?_cons _ _ hrest.ne_nil_right]

/-- Of two updates at one path the second counts. -/
theorem setPath_setPath (tree : PrefDict) (path : List String) (before dict : PrefDict) :
    (tree.setPath path before).setPath path dict = tree.setPath path dict := by
  fun_induction tree.setPath path before with
  | case1 tree => rfl
  | case2 tree last before => exact Dict.insert_insert tree last _ _
  | case3 tree first rest before hrest ih =>
      rw [setPath_cons _ _ hrest, setPath_cons _ _ hrest, child_insert_self, Dict.insert_insert, ih]

/-- Updates at paths that part can be made in either order. -/
theorem setPath_comm {p q : List String} (h : Apart p q) (tree dict other : PrefDict) :
    (tree.setPath p dict).setPath q other = (tree.setPath q other).setPath p dict := by
  induction h generalizing tree with
  | here hne p q =>
      obtain ⟨update, hupdate⟩ := exists_setPath_eq_insert _ p dict
      obtain ⟨change, hchange⟩ := exists_setPath_eq_insert _ q other
      rw [hupdate, hchange, hchange, hupdate, child_insert_of_ne _ (Ne.symm hne),
        child_insert_of_ne _ hne, Dict.insert_comm _ hne]
  | deeper first hrest ih =>
      simp only [setPath_cons _ _ hrest.ne_nil_left, setPath_cons _ _ hrest.ne_nil_right,
        child_insert_self, Dict.insert_insert, ih]

/-- After an update its path leads to the dictionary that was put there, and a second update there
leaves no trace of it; every path that is neither a beginning nor a continuation of its path leads
to what it led to before, and an update there could as well have come first. -/
theorem setPath_laws (tree : PrefDict) {p : List String} (hp : p ≠ []) (v w : PrefDict) :
    (tree.setPath p v).getPath? p = some (.dict v) ∧
      (tree.setPath p v).setPath p w = tree.setPath p w ∧
        ∀ q : List String, ¬ p <+: q → ¬ q <+: p →
          (tree.setPath p v).getPath? q = tree.getPath? q ∧
            (tree.setPath p v).setPath q w = (tree.setPath q w).setPath p v := by
  refine ⟨getPath?_setPath_self tree hp v, setPath_setPath tree p v w, fun q hpq hqp => ?_⟩
  have hapart : Apart p q := apart_iff.2 ⟨hpq, hqp⟩
  exact ⟨getPath?_setPath_of_apart hapart tree v, setPath_comm hapart tree v w⟩

/-- A text on the way to the first path is replaced, and still nothing is found at the second
one. -/
theorem setPath_laws_replacedText :
    let tree : PrefDict := [("ETH", .str "AirPort"), ("WIFI", .dict [(proxiesKey, .dict [])])]
    let p := ["ETH", proxiesKey]
    let q := ["ETH", interfaceKey, hardwareKey]
    let v : PrefDict := [("SOCKSEnable", .bool true)]
    let w : PrefDict := [("HTTPEnable", .bool false)]
    p ≠ [] ∧ ¬ p <+: q ∧ ¬ q <+: p ∧
      (tree.setPath p v).getPath? p = some (.dict v) ∧
      (tree.setPath p v).setPath p w = tree.setPath p w ∧
      (tree.setPath p v).getPath? q = none ∧
      (tree.setPath p v).setPath q w = (tree.setPath q w).setPath p v := by
  intro tree p q v w
  have hp : p ≠ [] := by decide
  have hpq : ¬ p <+: q := by decide
  have hqp : ¬ q <+: p := by decide
  obtain ⟨hself, hagain, hrest⟩ := setPath_laws tree hp v w
  obtain ⟨hkept, hcomm⟩ := hrest q hpq hqp
  have hmissing : tree.getPath? q = none := rfl
  exact ⟨hp, hpq, hqp, hself, hagain, hkept.trans hmissing, hcomm⟩

/-! ## Order of the keys -/

/-- The child of a key is in order at every depth, also if it is made anew. -/
theorem ordered_child {tree : PrefDict} (h : (PrefValue.dict tree).Ordered) (key : String) :
    (PrefValue.dict (tree.child key)).Ordered := by
  rw [child]
  cases hfind : tree.find? key with
  | none => exact ⟨.nil, trivial⟩
  | some value =>
      have hvalue : value.Ordered :=
        PrefValue.entriesOrdered_iff.1 h.2 _ (Dict.mem_of_find?_eq_some hfind)
      cases value with
      | dict entries => exact hvalue
      | _ => exact ⟨.nil, trivial⟩

/-- A tree stays in order with a value that is in order. -/
theorem ordered_insert {tree : PrefDict} (h : (PrefValue.dict tree).Ordered) (key : String)
    {value : PrefValue} (hvalue : value.Ordered) :
    (PrefValue.dict (tree.insert key value)).Ordered := by
  have hinsert : Dict.Ordered (tree.insert key value) := h.1.insert key value
  refine ⟨hinsert, PrefValue.entriesOrdered_iff.2 ?_⟩
  rintro ⟨k, v⟩ hentry
  have hfind : (tree.insert key value).find? k = some v :=
    (Dict.find?_eq_some_iff hinsert).2 hentry
  by_cases hk : k = key
  · subst hk
    rw [Dict.find?_insert_self] at hfind
    exact Option.some.inj hfind ▸ hvalue
  · rw [Dict.find?_insert_of_ne _ _ hk] at hfind
    exact PrefValue.entriesOrdered_iff.1 h.2 _ (Dict.mem_of_find?_eq_some hfind)

/-- An update keeps every dictionary in the tree in order. -/
theorem ordered_setPath {tree dict : PrefDict} (h : (PrefValue.dict tree).Ordered)
    (hdict : (PrefValue.dict dict).Ordered) (path : List String) :
    (PrefValue.dict (tree.setPath path dict)).Ordered := by
  fun_induction tree.setPath path dict with
  | case1 tree => exact h
  | case2 tree last dict => exact ordered_insert h last hdict
  | case3 tree first rest dict _ ih =>
      exact ordered_insert h first (ih (ordered_child h first) hdict)

end PrefDict

/-! ## Batches of writes -/

/-- The place of a write in the tree of services, which is what its path leads to below the
services. -/
def StagedWrite.place (write : StagedWrite) : List String :=
  write.1.drop 1

namespace MemoryPreferences

open PrefPath

variable {writes others : StagedWrites}

/-- A path that parts from the paths of all writes leads to what it led to before. -/
theorem getPath?_replay_of_apart {q : List String}
    (h : ∀ write ∈ writes, Apart (StagedWrite.place write) q) (tree : PrefDict) :
    (replay tree writes).getPath? q = tree.getPath? q := by
  induction writes generalizing tree with
  | nil => rfl
  | cons write rest ih =>
      obtain ⟨hfirst, hrest⟩ := List.forall_mem_cons.1 h
      calc (replay tree (write :: rest)).getPath? q
          = (replay (tree.setPath write.place write.2) rest).getPath? q := rfl
        _ = (tree.setPath write.place write.2).getPath? q := ih hrest _
        _ = tree.getPath? q := PrefDict.getPath?_setPath_of_apart hfirst tree write.2

/-- The path of a write leads to what was written, if the paths of all later writes part from
it. -/
theorem getPath?_replay_last (tree : PrefDict) (before : StagedWrites) {write : StagedWrite}
    {after : StagedWrites} (hpath : write.place ≠ [])
    (h : ∀ later ∈ after, Apart later.place write.place) :
    (replay tree (before ++ write :: after)).getPath? write.place = some (.dict write.2) := by
  have hwritten : ((replay tree before).setPath write.place write.2).getPath? write.place =
      some (.dict write.2) := PrefDict.getPath?_setPath_self _ hpath write.2
  rw [replay_append]
  exact (getPath?_replay_of_apart h _).trans hwritten

/-- Writes whose paths part from one another give the same tree in every order. -/
theorem replay_perm
    (apart : writes.Pairwise fun write other => Apart write.place other.place)
    (perm : writes.Perm others) (tree : PrefDict) : replay tree writes = replay tree others := by
  have hsymm : Std.Symm fun write other : StagedWrite =>
      Apart write.place other.place := ⟨fun _ _ h => h.symm⟩
  refine perm.foldl_eq' ?_ tree
  intro write hwrite other hother current
  by_cases heq : write = other
  · rw [heq]
  · have hapart : Apart write.place other.place := apart.forall hwrite hother heq
    exact PrefDict.setPath_comm hapart current write.2 other.2

/-- Writes of dictionaries in order keep every dictionary in the tree in order. -/
theorem ordered_replay {tree : PrefDict} (h : (PrefValue.dict tree).Ordered)
    (hwrites : ∀ write ∈ writes, (PrefValue.dict write.2).Ordered) :
    (PrefValue.dict (replay tree writes)).Ordered := by
  induction writes generalizing tree with
  | nil => exact h
  | cons write rest ih =>
      obtain ⟨hfirst, hrest⟩ := List.forall_mem_cons.1 hwrites
      exact ih (PrefDict.ordered_setPath h hfirst write.place) hrest

/-- A commit replays its writes on the tree, or it fails and leaves the tree as it is. -/
theorem services_commit (writes : StagedWrites) (m : MemoryPreferences) :
    (commit (writes, m)).2.2.services =
      if m.failures.commit then m.services else replay m.services writes := by
  by_cases h : m.failures.commit = true
  · simp [commit, log, h]
  · simp [commit, log, h, foldl_publish]

/-- A commit leaves alone what is reached by paths that part from those of its writes. -/
theorem getPath?_commit_of_apart {q : List String}
    (h : ∀ write ∈ writes, Apart (StagedWrite.place write) q) (m : MemoryPreferences) :
    (commit (writes, m)).2.2.services.getPath? q = m.services.getPath? q := by
  rw [services_commit]
  split
  · rfl
  · exact getPath?_replay_of_apart h m.services

/-- Commits of the same writes in another order give the same tree, if the paths of the writes
part from one another. -/
theorem services_commit_perm
    (apart : writes.Pairwise fun write other => Apart write.place other.place)
    (perm : writes.Perm others) (m : MemoryPreferences) :
    (commit (writes, m)).2.2.services = (commit (others, m)).2.2.services := by
  rw [services_commit, services_commit, replay_perm apart perm]

/-- After a commit every dictionary in the tree is in order, as before. -/
theorem ordered_commit {m : MemoryPreferences} (h : (PrefValue.dict m.services).Ordered)
    (hwrites : ∀ write ∈ writes, (PrefValue.dict write.2).Ordered) :
    (PrefValue.dict (commit (writes, m)).2.2.services).Ordered := by
  rw [services_commit]
  split
  · exact h
  · exact ordered_replay h hwrites

end MemoryPreferences
end ProxyControl
