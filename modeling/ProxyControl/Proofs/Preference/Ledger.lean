import ProxyControl.Proofs.Preference.History
import ProxyControl.Proofs.Preference.Publication

/-!
# The ledger of all sessions

A ledger keeps the notes of a witness for every session that has ever been opened, also for the
sessions of runs, and the number of the session that is open under a name.  A session that is
replaced under its name is closed, as is that of a run at the run's end.

A run or a transaction is one action here.  One that others come between is a session in which
the same is done by single actions.

Main results:

- Definition `Ledger.after`: the ledger after a history.
- Structure `Accounts`: an open session holds its unsettled writes, and the log of writes has the
  settled writes of each session once and in order.
- Relation `Turn`: the ways for an action to change the clients and the ledger.
- Theorem `Books.after`: the accounts are right after every history.
- Theorem `Books.notes`: the ledger notes what the sessions answer.
-/

namespace ProxyControl

open MemoryPreferences SessionEvent

namespace Clients

/-! ## Requests in a session -/

/-- What is asked of an open session. -/
inductive Request where
  | value (key : String)
  | enumerate
  | setPath (path : String) (dict : ProxyDict)
  | commit
  | apply
  | synchronize
  | transaction (actions : List ServiceAction) (abandon : Bool)

/-- The session that an action is about, and what it asks of it. -/
def Action.request? : Action → Option (String × Request)
  | .value session key => some (session, .value key)
  | .enumerate session => some (session, .enumerate)
  | .setPath session path dict => some (session, .setPath path dict)
  | .commit session => some (session, .commit)
  | .apply session => some (session, .apply)
  | .synchronize session => some (session, .synchronize)
  | .transaction session actions abandon => some (session, .transaction actions abandon)
  | _ => none

/-- A request in a session. -/
def Request.perform {τ : Type} (s : Session τ) : Request → τ → Answer × List SyncNotice × τ
  | .value key, x =>
    let (found, x) := s.value key x
    (.value found, [], x)
  | .enumerate, x =>
    let (services, notices, x) := Synchronizer.enumerate s x
    (.services services, notices, x)
  | .setPath path dict, x =>
    let (answer, x) := s.setPath path dict x
    (ofCall answer, [], x)
  | .commit, x =>
    let (answer, x) := s.commit x
    (ofCall answer, [], x)
  | .apply, x =>
    let (answer, x) := s.apply x
    (ofCall answer, [], x)
  | .synchronize, x => (.done, [], s.synchronize x)
  | .transaction actions abandon, x => transact s actions abandon x

/-- An action that asks something of a session does what is asked. -/
theorem step_of_request (c : Clients) {action : Action} {name : String} {request : Request}
    (h : action.request? = some (name, request)) :
    c.step action = c.inSession name (request.perform MemoryPreferences.session) := by
  cases action <;> cases h <;> rfl

/-- Requests are answered the same in sessions that answer the same. -/
theorem Request.perform_follows {τ τ' : Type} {s : Session τ} {s' : Session τ'} {R : τ → τ' → Prop}
    (h : s.Follows s' R) (request : Request) {x : τ} {x' : τ'} (hx : R x x') :
    (request.perform s' x').1 = (request.perform s x).1 ∧
      Agree R (request.perform s x).2 (request.perform s' x').2 := by
  cases request with
  | value key =>
      obtain ⟨hanswer, hstate⟩ := h.value key x x' hx
      exact ⟨congrArg Answer.value hanswer, rfl, hstate⟩
  | enumerate =>
      obtain ⟨hservices, hnotices, hstate⟩ := h.enumerate hx
      exact ⟨congrArg Answer.services hservices, hnotices, hstate⟩
  | setPath path dict =>
      obtain ⟨hanswer, hstate⟩ := h.setPath path dict x x' hx
      exact ⟨congrArg ofCall hanswer, rfl, hstate⟩
  | commit =>
      obtain ⟨hanswer, hstate⟩ := h.commit x x' hx
      exact ⟨congrArg ofCall hanswer, rfl, hstate⟩
  | apply =>
      obtain ⟨hanswer, hstate⟩ := h.apply x x' hx
      exact ⟨congrArg ofCall hanswer, rfl, hstate⟩
  | synchronize => exact ⟨rfl, rfl, h.synchronize x x' hx⟩
  | transaction actions abandon => exact h.transact actions abandon hx

/-- The notes of a session after a request. -/
def Request.notes (request : Request) (staged : StagedWrites) (m : MemoryPreferences)
    (before : List SessionEvent) : List SessionEvent :=
  (request.perform backend.witnessed.session (staged, (m, before))).2.2.2.2

/-- A request goes on as its notes tell. -/
theorem Request.progress (request : Request) {events : List SessionEvent} (m : MemoryPreferences)
    (located : ∀ write ∈ admitted events, PrefPath.InServices write.1) :
    Progress events m (request.notes (unsettled events) m events)
      (request.perform session (unsettled events, m)).2.2.1
      (request.perform session (unsettled events, m)).2.2.2 := by
  have hbeside : Beside events m (unsettled events, m) (unsettled events, (m, events)) :=
    ⟨rfl, .refl located⟩
  obtain ⟨_, _, hstate, progress⟩ := request.perform_follows (session_follows events m) hbeside
  rw [hstate]
  exact progress

end Clients

/-! ## Ledgers -/

/-- The notes of every session that has been opened, and the number of the session that is open
under a name. -/
structure Ledger where
  sessions : List (List SessionEvent) := []
  names : Dict Nat := []

namespace Ledger

/-- The notes of the session with a number. -/
def events (l : Ledger) (n : Nat) : List SessionEvent :=
  l.sessions[n]?.getD []

/-- The ledger with the notes of a session taken further. -/
def record (l : Ledger) (n : Nat) (events : List SessionEvent) : Ledger :=
  { l with sessions := l.sessions.set n events }

/-- The ledger with one session more. -/
def extend (l : Ledger) (events : List SessionEvent) : Ledger :=
  { l with sessions := l.sessions ++ [events] }

section Events

variable (l : Ledger) {n k : Nat} (events : List SessionEvent)

theorem events_record_self (h : n < l.sessions.length) : (l.record n events).events n = events := by
  simp [Ledger.events, record, h]

theorem events_record_of_ne (h : k ≠ n) : (l.record n events).events k = l.events k := by
  simp [Ledger.events, record, List.getElem?_set_ne (Ne.symm h)]

@[simp]
theorem events_extend_self : (l.extend events).events l.sessions.length = events := by
  simp [Ledger.events, extend]

theorem events_extend_of_ne (h : k ≠ l.sessions.length) :
    (l.extend events).events k = l.events k := by
  rcases Nat.lt_or_gt_of_ne h with hlt | hgt
  · simp [Ledger.events, extend, List.getElem?_append_left hlt]
  · have hnone : (l.sessions ++ [events])[k]? = none := by
      simp only [List.getElem?_eq_none_iff, List.length_append, List.length_singleton]
      omega
    have hnone' : l.sessions[k]? = none := List.getElem?_eq_none (Nat.le_of_lt hgt)
    simp [Ledger.events, extend, hnone, hnone']

/-- No session has the number that comes next. -/
theorem events_length : l.events l.sessions.length = [] := by
  simp [Ledger.events]

end Events

/-- The ledger after an action of the clients. -/
def note (l : Ledger) (c : Clients) (action : Clients.Action) : Ledger :=
  match action.request? with
  | some (name, request) =>
    match l.names.find? name, c.sessions.find? name with
    | some n, some staged => l.record n (request.notes staged c.prefs (l.events n))
    | _, _ => l
  | none =>
    match action with
    | .run port => l.extend (MemoryPreferences.runNotes c.prefs port)
    | .openSession _ session =>
      match (c.step action).answer with
      | .done => { l.extend [] with names := l.names.insert session l.sessions.length }
      | _ => l
    | .close name => { l with names := l.names.erase name }
    | _ => l

/-- The ledger after a history. -/
def after (l : Ledger) (c : Clients) : List Clients.Action → Ledger
  | [] => l
  | action :: rest => (l.note c action).after (c.step action).state rest

end Ledger

/-- A write that is accepted next and a commit that succeeds next are noted for the number of
their session. -/
structure Ledger.Notes (l : Ledger) (c : Clients) : Prop where
  accepted : ∀ name path dict, (c.step (.setPath name path dict)).answer = .done →
    ∃ n, l.names.find? name = some n ∧
      (l.note c (.setPath name path dict)).events n = l.events n ++ [.accepted path dict]
  committed : ∀ name, (c.step (.commit name)).answer = .done →
    ∃ n, l.names.find? name = some n ∧
      (l.note c (.commit name)).events n = l.events n ++ [.committed]

/-! ## Accounts -/

/-- The log of writes consists of the settled writes of all sessions, those of each session in
their order. -/
def Settles (eventsOf : Nat → List SessionEvent) (writes : List (String × ProxyDict)) : Prop :=
  ∃ log : List (Nat × StagedWrite), writes = log.map (fun entry => logEntry entry.2) ∧
    ∀ n, (log.filter fun entry => entry.1 = n).map Prod.snd = settled (eventsOf n)

/-- One session settles some more writes, which are published. -/
theorem Settles.extend {eventsOf eventsOf' : Nat → List SessionEvent} {m m' : MemoryPreferences}
    {n : Nat} {new : StagedWrites} (h : Settles eventsOf m.writes)
    (others : ∀ k, k ≠ n → eventsOf' k = eventsOf k)
    (own : settled (eventsOf' n) = settled (eventsOf n) ++ new) (published : Published m new m') :
    Settles eventsOf' m'.writes := by
  obtain ⟨log, hwrites, hlog⟩ := h
  refine ⟨log ++ new.map fun write => (n, write), ?_, ?_⟩
  · rw [published.writes, hwrites, List.map_append, List.map_map]
    rfl
  · intro k
    rw [List.filter_append, List.map_append, hlog k]
    by_cases hk : k = n
    · subst hk
      simp [own, List.filter_map, Function.comp_def]
    · simp [others k hk, List.filter_map, Function.comp_def, Ne.symm hk]

/-- What the clients hold and have published, against the ledger. -/
structure Accounts (c : Clients) (l : Ledger) : Prop where
  /-- An open session holds the writes that it has accepted and not settled. -/
  pending : ∀ name,
    c.sessions.find? name = (l.names.find? name).map fun n => unsettled (l.events n)
  /-- Two names stand for two sessions. -/
  distinct : ∀ name name' n,
    l.names.find? name = some n → l.names.find? name' = some n → name = name'
  /-- The log of writes has the settled writes. -/
  published : Settles l.events c.prefs.writes

/-- The accounts, with what keeps them right. -/
structure Books (c : Clients) (l : Ledger) : Prop extends Accounts c l where
  ordered : c.sessions.Ordered
  named : l.names.Ordered
  numbered : ∀ name n, l.names.find? name = some n → n < l.sessions.length
  located : ∀ n, ∀ write ∈ admitted (l.events n), PrefPath.InServices write.1

namespace Books

variable {c c' : Clients} {l : Ledger}

/-- The books of a new system are empty. -/
theorem new : Books {} {} where
  pending _ := rfl
  distinct := by simp
  published := ⟨[], rfl, fun _ => rfl⟩
  ordered := List.Pairwise.nil
  named := List.Pairwise.nil
  numbered := by simp
  located := by simp [Ledger.events, admitted]

/-- An action that leaves the sessions and the log of writes alone. -/
theorem congr (books : Books c l) (hsessions : c'.sessions = c.sessions)
    (hwrites : c'.prefs.writes = c.prefs.writes) : Books c' l where
  pending := by rw [hsessions]; exact books.pending
  distinct := books.distinct
  published := by rw [hwrites]; exact books.published
  ordered := by rw [hsessions]; exact books.ordered
  named := books.named
  numbered := books.numbered
  located := books.located

/-- An open session goes on. -/
theorem record (books : Books c l) {name : String} {n : Nat} {staged : StagedWrites}
    {events : List SessionEvent} {m : MemoryPreferences} (hname : l.names.find? name = some n)
    (progress : Progress (l.events n) c.prefs events staged m) :
    Books { c with prefs := m, sessions := c.sessions.insert name staged } (l.record n events) := by
  have hself := l.events_record_self events (books.numbered name n hname)
  have hothers : ∀ k, k ≠ n → (l.record n events).events k = l.events k := fun k hk =>
    l.events_record_of_ne events hk
  refine { books with pending := ?_, published := ?_, ordered := ?_, numbered := ?_, located := ?_ }
  · intro other
    by_cases hother : other = name
    · subst hother
      change _ = (l.names.find? other).map _
      rw [Dict.find?_insert_self, hname, Option.map_some, hself, progress.staged]
    · change _ = (l.names.find? other).map _
      rw [Dict.find?_insert_of_ne _ _ hother, books.pending other]
      refine Option.map_congr fun k hk => ?_
      have hne : k ≠ n := by
        rintro rfl
        exact hother (books.distinct other name k hk hname)
      rw [hothers k hne]
  · obtain ⟨new, hnew, published⟩ := progress.published
    exact books.published.extend hothers (by rw [hself, hnew]) published
  · exact books.ordered.insert name staged
  · intro other k hk
    have hlength : (l.record n events).sessions.length = l.sessions.length := List.length_set
    rw [hlength]
    exact books.numbered other k hk
  · intro k
    by_cases hk : k = n
    · subst hk
      rw [hself]
      exact progress.located
    · rw [hothers k hk]
      exact books.located k

/-- A session more that is open under no name. -/
theorem extend (books : Books c l) {staged : StagedWrites} {events : List SessionEvent}
    {m : MemoryPreferences} (progress : Progress [] c.prefs events staged m) :
    Books { c with prefs := m } (l.extend events) := by
  have hself := l.events_extend_self events
  have hothers : ∀ k, k ≠ l.sessions.length → (l.extend events).events k = l.events k :=
    fun k hk => l.events_extend_of_ne events hk
  refine { books with pending := ?_, published := ?_, numbered := ?_, located := ?_ }
  · intro name
    change _ = (l.names.find? name).map _
    rw [books.pending name]
    refine Option.map_congr fun k hk => ?_
    have hlt := books.numbered name k hk
    rw [hothers k (by omega)]
  · obtain ⟨new, hnew, published⟩ := progress.published
    refine books.published.extend hothers ?_ published
    rw [hself, l.events_length, hnew]
  · intro name k hk
    have hlt := books.numbered name k hk
    change k < (l.sessions ++ [events]).length
    rw [List.length_append]
    omega
  · intro k
    by_cases hk : k = l.sessions.length
    · subst hk
      rw [hself]
      exact progress.located
    · rw [hothers k hk]
      exact books.located k

/-- A session is given a name. -/
theorem name (books : Books c l) (name : String) {n : Nat} (hn : n < l.sessions.length)
    (hfree : ∀ other, l.names.find? other ≠ some n) :
    Books { c with sessions := c.sessions.insert name (unsettled (l.events n)) }
      { l with names := l.names.insert name n } := by
  refine { books with pending := ?_, distinct := ?_, ordered := ?_, named := ?_, numbered := ?_ }
  · intro other
    by_cases hother : other = name
    · subst hother
      simp [Ledger.events]
    · simp only [Dict.find?_insert_of_ne _ _ hother]
      exact books.pending other
  · intro first second k hfirst hsecond
    by_cases h₁ : first = name
    · by_cases h₂ : second = name
      · rw [h₁, h₂]
      · subst h₁
        rw [Dict.find?_insert_self] at hfirst
        rw [Dict.find?_insert_of_ne _ _ h₂, ← hfirst] at hsecond
        exact absurd hsecond (hfree second)
    · rw [Dict.find?_insert_of_ne _ _ h₁] at hfirst
      by_cases h₂ : second = name
      · subst h₂
        rw [Dict.find?_insert_self] at hsecond
        rw [← hsecond] at hfirst
        exact absurd hfirst (hfree first)
      · rw [Dict.find?_insert_of_ne _ _ h₂] at hsecond
        exact books.distinct first second k hfirst hsecond
  · exact books.ordered.insert name _
  · exact books.named.insert name n
  · intro other k hk
    by_cases hother : other = name
    · subst hother
      rw [Dict.find?_insert_self] at hk
      cases hk
      exact hn
    · rw [Dict.find?_insert_of_ne _ _ hother] at hk
      exact books.numbered other k hk

/-- What a name stands for after a name was erased, it stood for before. -/
theorem find?_of_erase (books : Books c l) {name other : String} {n : Nat}
    (h : (l.names.erase name).find? other = some n) : l.names.find? other = some n := by
  by_cases hother : other = name
  · subst hother
    rw [Dict.find?_erase_self books.named] at h
    cases h
  · rwa [Dict.find?_erase_of_ne _ hother] at h

/-- The session of a name is closed. -/
theorem close (books : Books c l) (name : String) :
    Books { c with sessions := c.sessions.erase name } { l with names := l.names.erase name } := by
  refine { books with pending := ?_, distinct := ?_, ordered := ?_, named := ?_, numbered := ?_ }
  · intro other
    by_cases hother : other = name
    · subst hother
      simp [Dict.find?_erase_self books.ordered, Dict.find?_erase_self books.named]
    · simp only [Dict.find?_erase_of_ne _ hother]
      exact books.pending other
  · intro first second k hfirst hsecond
    exact books.distinct first second k (books.find?_of_erase hfirst) (books.find?_of_erase hsecond)
  · exact books.ordered.erase name
  · exact books.named.erase name
  · intro other k hk
    exact books.numbered other k (books.find?_of_erase hk)

end Books

/-! ## Actions and histories -/

/-- The ways for an action other than the addition of a service to change the clients and the
ledger. -/
inductive Turn (c : Clients) (l : Ledger) : Clients → Ledger → Prop where
  /-- The sessions, the tree and the log of writes stay as they are. -/
  | quiet {c' : Clients} (sessions : c'.sessions = c.sessions)
      (services : c'.prefs.services = c.prefs.services)
      (writes : c'.prefs.writes = c.prefs.writes) :
      Turn c l c' l
  /-- An open session goes on. -/
  | asked {name : String} {n : Nat} {events : List SessionEvent} {staged : StagedWrites}
      {m : MemoryPreferences} (named : l.names.find? name = some n)
      (progress : Progress (l.events n) c.prefs events staged m) :
      Turn c l { c with prefs := m, sessions := c.sessions.insert name staged } (l.record n events)
  /-- A session is opened, goes on and is closed. -/
  | ran {events : List SessionEvent} {staged : StagedWrites} {m : MemoryPreferences}
      (progress : Progress [] c.prefs events staged m) :
      Turn c l { c with prefs := m } (l.extend events)
  /-- A session is opened. -/
  | opened {name : String} {m : MemoryPreferences} (services : m.services = c.prefs.services)
      (writes : m.writes = c.prefs.writes) :
      Turn c l { c with prefs := m, sessions := c.sessions.insert name [] }
        { l.extend [] with names := l.names.insert name l.sessions.length }
  /-- A session is closed. -/
  | closed {name : String} :
      Turn c l { c with sessions := c.sessions.erase name } { l with names := l.names.erase name }

namespace Turn

variable {c c' : Clients} {l l' : Ledger}

/-- The books are kept. -/
theorem books (turn : Turn c l c' l') (books : Books c l) : Books c' l' := by
  cases turn with
  | quiet sessions services writes => exact books.congr sessions writes
  | asked named progress => exact books.record named progress
  | ran progress => exact books.extend progress
  | opened services writes =>
      rename_i name m
      have progress : Progress [] c.prefs [] [] m :=
        (Progress.refl (by simp [admitted])).congr services writes
      have extended := books.extend progress
      have hlength : l.sessions.length < (l.extend []).sessions.length := by
        simp [Ledger.extend]
      have hfree : ∀ other, (l.extend []).names.find? other ≠ some l.sessions.length :=
        fun other hother => Nat.lt_irrefl _ (books.numbered other _ hother)
      have named := extended.name name hlength hfree
      rwa [l.events_extend_self] at named
  | closed => exact books.close _

/-- Only writes inside the services are published. -/
theorem published (turn : Turn c l c' l') :
    ∃ new, Published c.prefs new c'.prefs ∧ ∀ write ∈ new, PrefPath.InServices write.1 := by
  have unchanged {m : MemoryPreferences} (services : m.services = c.prefs.services)
      (writes : m.writes = c.prefs.writes) :
      ∃ new, Published c.prefs new m ∧ ∀ write ∈ new, PrefPath.InServices write.1 :=
    ⟨[], ⟨services, by simp [writes]⟩, by simp⟩
  cases turn with
  | quiet sessions services writes => exact unchanged services writes
  | asked named progress => exact progress.exists_new
  | ran progress => exact progress.exists_new
  | opened services writes => exact unchanged services writes
  | closed => exact unchanged rfl rfl

end Turn

namespace Books

variable {c : Clients} {l : Ledger}

/-- A request in a session is noted in the page of that session. -/
theorem turn_of_request (books : Books c l) {action : Clients.Action} {name : String}
    {request : Clients.Request} (h : action.request? = some (name, request)) :
    Turn c l (c.step action).state (l.note c action) := by
  have hpending := books.pending name
  rw [c.step_of_request h]
  simp only [Ledger.note, h, Clients.inSession]
  cases hname : l.names.find? name with
  | none =>
      rw [hname] at hpending
      simp only [hpending, Option.map_none]
      exact .quiet rfl rfl rfl
  | some n =>
      rw [hname] at hpending
      simp only [hpending, Option.map_some]
      exact .asked hname (request.progress c.prefs (books.located n))

/-- Opening a session begins a page. -/
theorem turn_of_openSession (credential session : String) :
    Turn c l (c.step (.openSession credential session)).state
      (l.note c (.openSession credential session)) := by
  simp only [Ledger.note, Clients.Action.request?, Clients.step, Clients.openSession]
  by_cases hcredential : c.credentials.contains credential = true
  · rw [if_pos hcredential]
    cases hsession : c.prefs.failures.session with
    | some message =>
        simp only [MemoryPreferences.openSession, log, hsession]
        exact .quiet rfl rfl rfl
    | none =>
        simp only [MemoryPreferences.openSession, log, hsession]
        exact .opened rfl rfl
  · rw [if_neg hcredential]
    exact .quiet rfl rfl rfl

/-- Asking for a credential is noted nowhere. -/
theorem turn_of_acquire (name : String) (flags : AuthorizationFlags) :
    Turn c l (c.step (.acquire name flags)).state (l.note c (.acquire name flags)) := by
  simp only [Ledger.note, Clients.Action.request?, Clients.step, Clients.acquire,
    Synchronizer.acquire, backend, authorize, log]
  cases c.prefs.failures.authorization with
  | some status => exact .quiet rfl rfl rfl
  | none =>
      dsimp only
      split
      · exact .quiet rfl rfl rfl
      · exact .quiet rfl rfl rfl

/-- Giving back a credential is noted nowhere. -/
theorem turn_of_release (name : String) :
    Turn c l (c.step (.release name)).state (l.note c (.release name)) := by
  simp only [Ledger.note, Clients.Action.request?, Clients.step, Clients.release]
  split
  · exact .quiet rfl rfl rfl
  · exact .quiet rfl rfl rfl

/-- Every action other than the addition of a service goes in one of these ways. -/
theorem turn (books : Books c l) {action : Clients.Action} (h : action.addsService = false) :
    Turn c l (c.step action).state (l.note c action) := by
  cases hrequest : action.request? with
  | some asked => exact books.turn_of_request hrequest
  | none =>
      cases action with
      | addService id hardware proxies => cases h
      | run port =>
          obtain ⟨staged, progress⟩ := run_progress c.prefs port
          exact .ran progress
      | acquire name flags => exact turn_of_acquire name flags
      | release name => exact turn_of_release name
      | openSession credential session => exact turn_of_openSession credential session
      | close name => exact .closed
      | failAuthorization status => exact .quiet rfl rfl rfl
      | failSession message => exact .quiet rfl rfl rfl
      | failSet id => exact .quiet rfl rfl rfl
      | failCommit => exact .quiet rfl rfl rfl
      | failApply => exact .quiet rfl rfl rfl
      | clearFailures => exact .quiet rfl rfl rfl
      | proxies id => exact .quiet rfl rfl rfl
      | writes => exact .quiet rfl rfl rfl
      | calls => exact .quiet rfl rfl rfl
      | _ => cases hrequest

/-- Every action keeps the books. -/
theorem step (books : Books c l) (action : Clients.Action) :
    Books (c.step action).state (l.note c action) := by
  cases hadds : action.addsService with
  | false => exact (books.turn hadds).books books
  | true =>
      obtain ⟨id, hardware, proxies, rfl⟩ := Clients.Action.exists_of_addsService hadds
      exact books.congr rfl rfl

/-- The books are right after every history. -/
theorem after (books : Books c l) (history : List Clients.Action) :
    Books (c.after history) (l.after c history) := by
  induction history generalizing c l with
  | nil => exact books
  | cons action rest ih => exact ih (books.step action)

/-- Of two sessions one commits, and the other is closed before it does. -/
example :
    let history : List Clients.Action := [.acquire "c" {}, .openSession "c" "a",
      .openSession "c" "b", .setPath "b" "NetworkServices//ETH/Proxies/" [],
      .setPath "a" "/NetworkServices/WIFI" [], .commit "b", .close "a"]
    let l := ({} : Ledger).after {} history
    l.names.keys = ["b"] ∧
      (unsettled (l.events 0)).map Prod.fst = [["NetworkServices", "WIFI"]] ∧
      (settled (l.events 1)).map Prod.fst = [["NetworkServices", "ETH", "Proxies"]] ∧
      (({} : Clients).after history).prefs.writes.map Prod.fst =
        ["/NetworkServices/ETH/Proxies"] := by
  decide +kernel

/-! ## Answers and notes -/

/-- A call of a session that is answered with success is noted for the session's number. -/
theorem noted (books : Books c l) {action : Clients.Action} {name : String}
    {request : Clients.Request} {e : SessionEvent}
    {call : StagedWrites × MemoryPreferences → Except PreferencesError Unit}
    (h : action.request? = some (name, request))
    (hanswer : ∀ x, (request.perform session x).1 = Clients.ofCall (call x))
    (hnotes : ∀ staged m before,
      request.notes staged m before = before ++ Witness.note e (call (staged, m)))
    (hdone : (c.step action).answer = .done) :
    ∃ n, l.names.find? name = some n ∧ (l.note c action).events n = l.events n ++ [e] := by
  have hpending := books.pending name
  rw [c.step_of_request h] at hdone
  simp only [Clients.inSession] at hdone
  cases hname : l.names.find? name with
  | none =>
      rw [hname] at hpending
      simp only [hpending, Option.map_none] at hdone
      cases hdone
  | some n =>
      rw [hname] at hpending
      simp only [hpending, Option.map_some, hanswer] at hdone
      have hok : call (unsettled (l.events n), c.prefs) = .ok () := by
        cases hcall : call (unsettled (l.events n), c.prefs) with
        | ok _ => rfl
        | error cause =>
            rw [hcall] at hdone
            cases hdone
      refine ⟨n, rfl, ?_⟩
      simp only [Ledger.note, h, hname, hpending, Option.map_some]
      rw [l.events_record_self _ (books.numbered name n hname), hnotes, hok]
      rfl

/-- The ledger notes each write that is accepted and each commit that succeeds. -/
theorem notes (books : Books c l) : l.Notes c where
  accepted _ _ _ hdone := books.noted rfl (fun _ => rfl) (fun _ _ _ => rfl) hdone
  committed _ hdone := books.noted rfl (fun _ => rfl) (fun _ _ _ => rfl) hdone

end Books
end ProxyControl
