import ProxyControl.Proofs.Preference.Ledger

/-!
# The journal of the service tree

The journal of a history lists what changes the service tree, in the order in which it happens:
the services that are added, and the entries of the log of writes.  An entry keeps the written
form of a path only, so a replay has to split it again.

Main results:

- Definition `Clients.journal`: the changes of a history.
- Structure `Journaled`: the changes give the tree, the log of writes and the added services.
- Theorem `Journaled.after`: the journal does so for every history.
- Theorem `Clients.after_accounted`: in every state that is reached, the tree is the replay of the
  journal, and each accepted write is held, published once or given up with its session.
-/

namespace ProxyControl

open MemoryPreferences SessionEvent

/-- A path as it stands in the log of writes: it leads into the services, and splitting and
writing it again gives it back. -/
structure PrefPath.IsRecorded (path : String) : Prop where
  inServices : InServices (components path)
  written : write (components path) = path

/-- What has been written inside the services is so. -/
theorem PrefPath.InServices.isRecorded {path : List String} (h : InServices path) :
    IsRecorded (write path) := by
  have hcomponents : components (write path) = path := components_write h.plain
  refine ⟨?_, ?_⟩
  · rw [hcomponents]
    exact h
  · rw [hcomponents]

/-! ## Changes of the tree -/

/-- A change of the service tree. -/
inductive Edit where
  /-- A service is added. -/
  | add (id : String) (hardware : Option String) (proxies : Option ProxyDict)
  /-- An entry of the log of writes. -/
  | write (path : String) (dict : ProxyDict)

namespace Edit

/-- The tree after a change. -/
def perform (tree : PrefDict) : Edit → PrefDict
  | add id hardware proxies => tree.insert id (.dict (serviceEntry hardware proxies))
  | write path dict => tree.setPath ((PrefPath.components path).drop 1) dict

/-- The action that a change comes from, if it adds a service. -/
def addition? : Edit → Option Clients.Action
  | add id hardware proxies => some (.addService id hardware proxies)
  | write _ _ => none

/-- The entry of the log of writes that a change comes from. -/
def entry? : Edit → Option (String × ProxyDict)
  | add _ _ _ => none
  | write path dict => some (path, dict)

/-- A published write as a change. -/
def ofWrite (w : StagedWrite) : Edit :=
  write (PrefPath.write w.1) w.2

/-- The entries of published writes are those of the log. -/
theorem filterMap_entry? (writes : StagedWrites) :
    (writes.map ofWrite).filterMap entry? = writes.map logEntry := by
  rw [List.filterMap_map, ← List.filterMap_eq_map]
  rfl

/-- Published writes add no service. -/
theorem filterMap_addition? (writes : StagedWrites) :
    (writes.map ofWrite).filterMap addition? = [] := by
  rw [List.filterMap_map, List.filterMap_eq_nil_iff]
  intro w _
  rfl

/-- Writes inside the services are replayed from their written paths. -/
theorem foldl_perform (tree : PrefDict) {writes : StagedWrites}
    (h : ∀ w ∈ writes, PrefPath.InServices w.1) :
    (writes.map ofWrite).foldl perform tree = replay tree writes := by
  induction writes generalizing tree with
  | nil => rfl
  | cons w rest ih =>
      have hfirst : (ofWrite w).perform tree = tree.setPath (w.1.drop 1) w.2 := by
        rw [ofWrite, perform, PrefPath.components_write (h w List.mem_cons_self).plain]
      rw [List.map_cons, List.foldl_cons, hfirst]
      exact ih _ fun other hother => h other (List.mem_cons_of_mem _ hother)

end Edit

namespace Clients

/-- The changes of the tree that an action makes: the new entries of the log of writes, or the
service that is added. -/
def edits (c : Clients) : Action → List Edit
  | .addService id hardware proxies => [.add id hardware proxies]
  | action =>
    ((c.step action).state.prefs.writes.drop c.prefs.writes.length).map fun entry =>
      .write entry.1 entry.2

/-- The changes of the tree that a history makes. -/
def journal (c : Clients) : List Action → List Edit
  | [] => []
  | action :: rest => c.edits action ++ (c.step action).state.journal rest

/-- The changes of an action that publishes some writes. -/
theorem edits_of_published {c : Clients} {action : Action} (h : action.addsService = false)
    {new : StagedWrites} (published : Published c.prefs new (c.step action).state.prefs) :
    c.edits action = new.map Edit.ofWrite := by
  have hnew : (c.step action).state.prefs.writes.drop c.prefs.writes.length =
      new.map logEntry := by
    rw [published.writes, List.drop_left]
  cases action with
  | addService id hardware proxies => cases h
  | _ =>
      simp only [edits, hnew, List.map_map]
      rfl

end Clients

/-! ## Journals -/

/-- Some changes of the tree account for what a history did. -/
structure Journaled (c : Clients) (history : List Clients.Action) (edits : List Edit)
    (c' : Clients) : Prop where
  /-- Replaying the changes gives the tree. -/
  services : c'.prefs.services = edits.foldl Edit.perform c.prefs.services
  /-- The services are added in the order of the history. -/
  additions : edits.filterMap Edit.addition? = history.filter Clients.Action.addsService
  /-- The writes are the new entries of the log of writes in their order. -/
  entries : c'.prefs.writes = c.prefs.writes ++ edits.filterMap Edit.entry?
  recorded : ∀ entry ∈ edits.filterMap Edit.entry?, PrefPath.IsRecorded entry.1

namespace Journaled

variable {c c' c'' : Clients} {l : Ledger}

theorem nil (c : Clients) : Journaled c [] [] c where
  services := rfl
  additions := rfl
  entries := by simp
  recorded := by simp

theorem append {history history' : List Clients.Action} {edits edits' : List Edit}
    (h : Journaled c history edits c') (h' : Journaled c' history' edits' c'') :
    Journaled c (history ++ history') (edits ++ edits') c'' where
  services := by rw [h'.services, h.services, List.foldl_append]
  additions := by rw [List.filterMap_append, List.filter_append, h.additions, h'.additions]
  entries := by rw [h'.entries, h.entries, List.filterMap_append, List.append_assoc]
  recorded := by
    intro entry hentry
    rw [List.filterMap_append] at hentry
    rcases List.mem_append.1 hentry with hentry | hentry
    · exact h.recorded entry hentry
    · exact h'.recorded entry hentry

/-- The changes of one action account for it. -/
theorem step (books : Books c l) (action : Clients.Action) :
    Journaled c [action] (c.edits action) (c.step action).state := by
  cases hadds : action.addsService with
  | true =>
      obtain ⟨id, hardware, proxies, rfl⟩ := Clients.Action.exists_of_addsService hadds
      exact ⟨rfl, rfl, (List.append_nil _).symm, by simp [Clients.edits, Edit.entry?]⟩
  | false =>
      obtain ⟨new, published, located⟩ := (books.turn hadds).published
      rw [Clients.edits_of_published hadds published]
      refine ⟨?_, ?_, ?_, ?_⟩
      · rw [published.services, Edit.foldl_perform _ located]
      · rw [Edit.filterMap_addition?]
        simp [hadds]
      · rw [published.writes, Edit.filterMap_entry?]
      · intro entry hentry
        rw [Edit.filterMap_entry?] at hentry
        obtain ⟨w, hw, rfl⟩ := List.mem_map.1 hentry
        exact (located w hw).isRecorded

/-- The journal of a history accounts for it. -/
theorem after (books : Books c l) (history : List Clients.Action) :
    Journaled c history (c.journal history) (c.after history) := by
  induction history generalizing c l with
  | nil => exact nil c
  | cons action rest ih => exact (step books action).append (ih (books.step action))

end Journaled

/-- After every history of a new system the tree is the replay of the journal, and the accounts
of all sessions are right: each accepted write is noted, and it is settled or not; the settled ones
have been published once and in order, and an open session still holds the others.  A commit that
fails changes nothing but the log of calls. -/
theorem Clients.after_accounted (history : List Clients.Action) :
    let c := ({} : Clients).after history
    let l := ({} : Ledger).after {} history
    Journaled {} history (({} : Clients).journal history) c ∧ Accounts c l ∧ l.Notes c ∧
      (∀ n, admitted (l.events n) = settled (l.events n) ++ unsettled (l.events n)) ∧
      ∀ x x' cause, MemoryPreferences.session.commit x = (.error cause, x') →
        x' = (x.1, x.2.log .commit) := by
  intro c l
  have books : Books c l := Books.new.after history
  refine ⟨Journaled.after Books.new history, books.toAccounts, books.notes, ?_, ?_⟩
  · intro n
    exact (settled_append_unsettled (l.events n)).symm
  · intro x x' cause hcommit
    exact commit_of_error hcommit

/-- The dictionary that two sessions write. -/
def sharedProxies : ProxyDict := [("HTTPPort", .int 3128)]

/-- A session publishes what it has staged, after a commit that fails; another one is closed before
it has committed. -/
def sharedHistory : List Clients.Action :=
  [.addService "A" none none, .acquire "credential" {}, .openSession "credential" "first",
    .openSession "credential" "second",
    .setPath "first" "NetworkServices//A/Proxies" sharedProxies,
    .setPath "second" "/NetworkServices/A" sharedProxies,
    .failCommit, .commit "first", .clearFailures, .commit "first", .close "second"]

/-- The write of the first session is in the tree, from the written form of its path; that of the
second session is nowhere. -/
theorem Clients.after_accounted_shared :
    let c := ({} : Clients).after sharedHistory
    let l := ({} : Ledger).after {} sharedHistory
    c.prefs.services = [("A", .dict [("Proxies", .dict sharedProxies)])] ∧
      (({} : Clients).journal sharedHistory).foldl Edit.perform [] = c.prefs.services ∧
      c.prefs.writes = [("/NetworkServices/A/Proxies", sharedProxies)] ∧
      settled (l.events 0) = [(["NetworkServices", "A", "Proxies"], sharedProxies)] ∧
      admitted (l.events 1) = [(["NetworkServices", "A"], sharedProxies)] ∧
      settled (l.events 1) = [] ∧
      admitted (l.events 0) = settled (l.events 0) ++ unsettled (l.events 0) := by
  intro c l
  obtain ⟨journaled, -, -, split, -⟩ := after_accounted sharedHistory
  exact ⟨rfl, journaled.services.symm, rfl, rfl, rfl, rfl, split 0⟩

end ProxyControl
