import ProxyControl.Proofs.Preference.Brackets
import ProxyControl.Proofs.Preference.Ledger

/-!
# Credentials are given back once

Credentials that are granted are held until they are given back, by whoever holds them.  The
counters and the log of calls of the preferences in memory tell how many are out.

A run asks for one credential and gives it back before it ends.  This also holds of a run whose
calls others come between, with actions of any kind; several runs that overlap are of this form,
because the calls of a run are actions that a client can take one by one.

Main results:

- Structure `MemoryPreferences.Balanced`: the counters and the log agree on the credentials held.
- Theorem `Clients.balanced_after`: they do after every history.
- Definition `Clients.shared`: the backend of a run that others come between.
- Theorem `Clients.brackets_shared`: such a run keeps the balance, whatever the others do.
- Theorem `Clients.credentials_released_once`: each credential is given back once.
-/

namespace ProxyControl

open MemoryPreferences

/-! ## Calls about no credential -/

/-- The call asks for a credential or gives one back. -/
def MemoryCall.ofCredential : MemoryCall → Bool
  | authorize => true
  | release => true
  | _ => false

namespace MemoryPreferences

/-- One call was logged that is about no credential. -/
structure Quiet (m m' : MemoryPreferences) : Prop where
  calls : ∃ c, c.ofCredential = false ∧ m'.calls = m.calls ++ [c]
  acquired : m'.acquired = m.acquired
  released : m'.released = m.released

/-- To log a call that is about no credential is quiet. -/
theorem quiet_log (m : MemoryPreferences) {c : MemoryCall} (hc : c.ofCredential = false) :
    Quiet m (m.log c) :=
  ⟨⟨c, hc, rfl⟩, rfl, rfl⟩

/-- Only the log and two counters matter. -/
theorem Quiet.congr {m m₁ m₂ : MemoryPreferences} (h : Quiet m m₁) (calls : m₂.calls = m₁.calls)
    (acquired : m₂.acquired = m₁.acquired) (released : m₂.released = m₁.released) : Quiet m m₂ :=
  ⟨calls ▸ h.calls, acquired.trans h.acquired, released.trans h.released⟩

/-- To open a session is quiet. -/
theorem quiet_openSession (m : MemoryPreferences) : Quiet m m.openSession.2 := by
  unfold openSession
  simp only
  split <;> exact m.quiet_log rfl

/-- A session keeps what calls about no credential keep. -/
theorem session_keeps {P : MemoryPreferences → Prop} (hP : ∀ m m', P m → Quiet m m' → P m') :
    session.Keeps fun x => P x.2 where
  value _ _ hx := hx
  setPath path dict x hx := by
    refine hP _ _ hx ?_
    simp only [session, setPath]
    split <;> exact x.2.quiet_log rfl
  commit x hx := by
    refine hP _ _ hx ?_
    have hlog : Quiet x.2 (x.2.log .commit) := x.2.quiet_log rfl
    simp only [session, commit]
    split
    · exact hlog
    · rw [foldl_publish]
      exact hlog.congr rfl rfl rfl
  apply x hx := by
    refine hP _ _ hx ?_
    have hlog : Quiet x.2 (x.2.log .apply) := x.2.quiet_log rfl
    simp only [session, apply]
    split
    · exact hlog
    · exact hlog.congr rfl rfl rfl
  synchronize x hx :=
    have hlog : Quiet x.2 (x.2.log .synchronize) := x.2.quiet_log rfl
    hP _ _ hx (hlog.congr rfl rfl rfl)

/-! ## The balance -/

/-- The counters and the log of calls agree with the number of credentials that are held and the
number of times that one was asked for. -/
structure Balanced (held requests : Nat) (m : MemoryPreferences) : Prop where
  /-- Each credential that was granted is held or was given back. -/
  acquired : m.acquired = m.released + held
  released : m.calls.count .release = m.released
  requested : m.calls.count .authorize = requests
  /-- No credential was granted that was not asked for. -/
  granted : m.acquired ≤ requests
  /-- At no time had more credentials been given back than asked for. -/
  backed : ∀ earlier, earlier <+: m.calls → earlier.count .release ≤ earlier.count .authorize

/-- Logging a call counts it once more, and no other call. -/
theorem count_log (m : MemoryPreferences) (c call : MemoryCall) :
    (m.log c).calls.count call = m.calls.count call + if c = call then 1 else 0 := by
  simp [log, List.count_append, List.count_singleton]

/-- Nothing is held or asked for in new preferences. -/
theorem balanced_empty : Balanced 0 0 {} where
  acquired := rfl
  released := rfl
  requested := rfl
  granted := Nat.le_refl _
  backed earlier h := by
    rw [List.prefix_nil.1 h]
    exact Nat.le_refl _

namespace Balanced

variable {held requests : Nat} {m m' : MemoryPreferences}

/-- Only the log and two counters matter. -/
theorem congr (h : Balanced held requests m) (calls : m'.calls = m.calls)
    (acquired : m'.acquired = m.acquired) (released : m'.released = m.released) :
    Balanced held requests m' where
  acquired := by rw [acquired, released, h.acquired]
  released := by rw [calls, released, h.released]
  requested := by rw [calls, h.requested]
  granted := by
    rw [acquired]
    exact h.granted
  backed := by
    rw [calls]
    exact h.backed

/-- The credentials given back and held are no more than those asked for. -/
theorem released_add_le (h : Balanced held requests m) :
    m.calls.count .release + held ≤ m.calls.count .authorize := by
  rw [h.released, h.requested, ← h.acquired]
  exact h.granted

/-- The log stays balanced at all times if it is after one more call. -/
theorem backed_log (h : Balanced held requests m) {c : MemoryCall}
    (hnow : (m.log c).calls.count .release ≤ (m.log c).calls.count .authorize)
    (earlier : List MemoryCall) (hearlier : earlier <+: (m.log c).calls) :
    earlier.count .release ≤ earlier.count .authorize := by
  rcases List.prefix_concat_iff.1 hearlier with rfl | hearlier
  · exact hnow
  · exact h.backed earlier hearlier

/-- A call that is about no credential. -/
theorem quiet (h : Balanced held requests m) (hquiet : Quiet m m') : Balanced held requests m' := by
  obtain ⟨⟨c, hc, hcalls⟩, hacquired, hreleased⟩ := hquiet
  have hcount (call : MemoryCall) (hcall : call.ofCredential = true) :
      (m.log c).calls.count call = m.calls.count call := by
    rw [count_log, if_neg, Nat.add_zero]
    rintro rfl
    exact Bool.false_ne_true (hc.symm.trans hcall)
  have hlog : Balanced held requests (m.log c) := by
    refine ⟨h.acquired, (hcount _ rfl).trans h.released, (hcount _ rfl).trans h.requested,
      h.granted, h.backed_log ?_⟩
    rw [hcount _ rfl, hcount _ rfl]
    exact h.backed _ List.prefix_rfl
  exact hlog.congr hcalls hacquired hreleased

/-- One more request. -/
theorem request (h : Balanced held requests m) :
    Balanced held (requests + 1) (m.log .authorize) := by
  have hreleases : (m.log .authorize).calls.count .release = m.calls.count .release :=
    count_log m _ _
  have hrequests : (m.log .authorize).calls.count .authorize = m.calls.count .authorize + 1 :=
    count_log m _ _
  refine ⟨h.acquired, hreleases.trans h.released, hrequests.trans (congrArg (· + 1) h.requested),
    Nat.le_succ_of_le h.granted, h.backed_log ?_⟩
  rw [hreleases, hrequests]
  exact Nat.le_succ_of_le (h.backed _ List.prefix_rfl)

/-- A request is denied. -/
theorem deny (h : Balanced held requests m) {flags : AuthorizationFlags}
    {status : AuthorizationStatus} (hauthorize : m.authorize flags = (.error status, m')) :
    Balanced held (requests + 1) m' := by
  unfold MemoryPreferences.authorize at hauthorize
  simp only at hauthorize
  split at hauthorize <;> cases hauthorize
  exact h.request.congr rfl rfl rfl

/-- A credential is granted. -/
theorem grant (h : Balanced held requests m) {flags : AuthorizationFlags}
    (hauthorize : m.authorize flags = (.ok (), m')) :
    Balanced (held + 1) (requests + 1) m' := by
  unfold MemoryPreferences.authorize at hauthorize
  simp only at hauthorize
  split at hauthorize <;> cases hauthorize
  have hrequest := h.request
  exact ⟨congrArg (· + 1) hrequest.acquired, hrequest.released, hrequest.requested,
    Nat.succ_le_succ h.granted, hrequest.backed⟩

/-- A credential is given back. -/
theorem release (h : Balanced (held + 1) requests m) : Balanced held requests m.release := by
  have hreleases : (m.log .release).calls.count .release = m.calls.count .release + 1 :=
    count_log m _ _
  have hrequests : (m.log .release).calls.count .authorize = m.calls.count .authorize :=
    count_log m _ _
  have hacquired : m.acquired = m.released + 1 + held := by
    rw [h.acquired]
    omega
  have hle : m.calls.count .release + (held + 1) ≤ m.calls.count .authorize := h.released_add_le
  refine ⟨hacquired, hreleases.trans (congrArg (· + 1) h.released), hrequests.trans h.requested,
    h.granted, h.backed_log ?_⟩
  rw [hreleases, hrequests]
  omega

end Balanced

/-- No call of a session changes the balance. -/
theorem session_keeps_balanced (held requests : Nat) :
    session.Keeps fun x => Balanced held requests x.2 :=
  session_keeps fun _ _ => Balanced.quiet

/-- A run keeps the balance and asks once. -/
theorem brackets_balanced (held requests : Nat) :
    backend.Brackets (Balanced held requests) (Balanced (held + 1) (requests + 1))
      (Balanced held (requests + 1)) (Balanced held (requests + 1)) where
  denied hst hauthorize := hst.deny hauthorize
  granted hst hauthorize := hst.grant hauthorize
  openSession _ _ m hst := hst.quiet m.quiet_openSession
  session := session_keeps_balanced _ _
  close _ _ hst := hst
  release _ _ hst := hst.release

/-! ## The calls of a run -/

/-- Some calls were logged, and some credentials granted and given back. -/
structure Since (m : MemoryPreferences) (new : List MemoryCall) (granted returned : Nat)
    (m' : MemoryPreferences) : Prop where
  calls : m'.calls = m.calls ++ new
  acquired : m'.acquired = m.acquired + granted
  released : m'.released = m.released + returned

/-- A credential has been granted and is held, and no call since was about a credential. -/
def Underway (m m' : MemoryPreferences) : Prop :=
  ∃ new, Since m new 1 0 m' ∧ ProxyControl.Underway .authorize MemoryCall.ofCredential new

/-- A credential has been granted and was given back by the last call. -/
def Settled (m : MemoryPreferences) (denied : Prop) (m' : MemoryPreferences) : Prop :=
  ∃ new, Since m new 1 1 m' ∧ Enclosed .authorize .release MemoryCall.ofCredential denied new

/-- A run stays under way while calls are about no credential. -/
theorem Underway.quiet {m m' m'' : MemoryPreferences} (h : Underway m m') (hquiet : Quiet m' m'') :
    Underway m m'' := by
  obtain ⟨new, ⟨hcalls, hacquired, hreleased⟩, hnew⟩ := h
  obtain ⟨⟨c, hc, hcalls'⟩, hacquired', hreleased'⟩ := hquiet
  exact ⟨new ++ [c], ⟨by rw [hcalls', hcalls, List.append_assoc], hacquired'.trans hacquired,
    hreleased'.trans hreleased⟩, hnew.append hc⟩

/-- The calls of a run over the preferences `m`. -/
theorem brackets_run (m : MemoryPreferences) (P : Prop) :
    backend.Brackets (· = m) (Underway m) (Since m [.authorize] 0 0) (Settled m P) where
  denied hst hauthorize := by
    subst hst
    simp only [backend, MemoryPreferences.authorize] at hauthorize
    split at hauthorize <;> cases hauthorize
    exact ⟨rfl, rfl, rfl⟩
  granted hst hauthorize := by
    subst hst
    simp only [backend, MemoryPreferences.authorize] at hauthorize
    split at hauthorize <;> cases hauthorize
    exact ⟨_, ⟨rfl, rfl, rfl⟩, underway_singleton⟩
  openSession _ _ m hst := hst.quiet m.quiet_openSession
  session := session_keeps fun _ _ => Underway.quiet
  close _ _ hst := hst
  release _ _ hst := by
    obtain ⟨new, ⟨hcalls, hacquired, hreleased⟩, hnew⟩ := hst
    exact ⟨new ++ [.release], ⟨by simp [backend, release, log, hcalls], hacquired,
      congrArg (· + 1) hreleased⟩, hnew.enclosed⟩

/-- Whichever way a run ends, it has given back as many credentials as it was granted, and what it
has logged begins with its request and ends with the return. -/
theorem run_enclosed (m : MemoryPreferences) (port : UInt16) :
    let run := Synchronizer.run backend port m
    ∃ new count, Since m new count count run.state ∧
      Enclosed .authorize .release MemoryCall.ofCredential
        (∃ status, run.result = .error (.authorization status)) new := by
  rcases (brackets_run m _).run port rfl with ⟨hresult, hdenied⟩ | ⟨new, hsince, hnew⟩
  · exact ⟨_, 0, hdenied, .refused hresult⟩
  · exact ⟨new, 1, hsince, hnew⟩

end MemoryPreferences

/-! ## Histories -/

namespace Clients

/-- The action asks for a credential. -/
def Action.asks : Action → Bool
  | acquire _ _ => true
  | run _ => true
  | _ => false

/-- How often a credential is asked for in a history. -/
def requests (history : List Action) : Nat :=
  history.countP Action.asks

/-- The balance is kept by every request in a session. -/
theorem Request.balanced (request : Request) {held asked : Nat}
    {x : StagedWrites × MemoryPreferences} (h : Balanced held asked x.2) :
    Balanced held asked (request.perform session x).2.2.2 :=
  (request.perform_follows (session_keeps_balanced held asked).follows ⟨rfl, h⟩).2.2.2

section Step

variable {c : Clients} {unnamed asked : Nat}

/-- A client that asks adds one request, and one credential if it is granted. -/
theorem balanced_acquire (h : Balanced (c.credentials.length + unnamed) asked c.prefs)
    (name : String) (flags : AuthorizationFlags) :
    Balanced ((c.acquire name flags).state.credentials.length + unnamed) (asked + 1)
      (c.acquire name flags).state.prefs := by
  rcases hauthorize : backend.authorize flags c.prefs with ⟨status | credential, m⟩
  · simp only [acquire, Synchronizer.acquire, hauthorize]
    exact h.deny hauthorize
  · have hgrant := h.grant hauthorize
    simp only [acquire, Synchronizer.acquire, hauthorize]
    -- An earlier credential of that name is given back, so as many are held as before.
    split
    · exact hgrant.release
    · rwa [List.length_cons, Nat.add_right_comm]

/-- A client that gives back a credential holds one fewer; a name that holds none changes nothing.
-/
theorem balanced_release (h : Balanced (c.credentials.length + unnamed) asked c.prefs)
    (name : String) :
    Balanced ((c.release name).state.credentials.length + unnamed) asked
      (c.release name).state.prefs := by
  unfold release
  split
  · rename_i hheld
    have hmem : name ∈ c.credentials := List.contains_iff_mem.1 hheld
    have hlength : c.credentials.length = (c.credentials.erase name).length + 1 := by
      rw [List.length_erase_of_mem hmem, Nat.sub_add_cancel (List.length_pos_of_mem hmem)]
    rw [hlength, Nat.add_right_comm] at h
    exact h.release
  · exact h

/-- A client that opens a session keeps the balance. -/
theorem balanced_openSession (h : Balanced (c.credentials.length + unnamed) asked c.prefs)
    (credential session : String) :
    Balanced ((c.openSession credential session).state.credentials.length + unnamed) asked
      (c.openSession credential session).state.prefs := by
  have hopen := h.quiet c.prefs.quiet_openSession
  unfold openSession
  split
  · generalize c.prefs.openSession = opened at hopen ⊢
    obtain ⟨cause | staged, m⟩ := opened
    · exact hopen
    · exact hopen
  · exact h

/-- The balance is kept by every action, also if some credentials are held without a name. -/
theorem balanced_step (h : Balanced (c.credentials.length + unnamed) asked c.prefs)
    (action : Action) :
    Balanced ((c.step action).state.credentials.length + unnamed) (asked + requests [action])
      (c.step action).state.prefs := by
  cases hrequest : action.request? with
  | some inSession =>
      obtain ⟨name, request⟩ := inSession
      have hasks : requests [action] = 0 := by
        cases action <;> cases hrequest <;> rfl
      rw [c.step_of_request hrequest, hasks, Clients.inSession]
      cases c.sessions.find? name with
      | none => exact h
      | some staged => exact request.balanced (x := (staged, c.prefs)) h
  | none =>
      cases action with
      | run port =>
          rcases (brackets_balanced _ _).run port h with ⟨-, hdenied⟩ | hsettled
          · exact hdenied
          · exact hsettled
      | acquire name flags => exact balanced_acquire h name flags
      | release name => exact balanced_release h name
      | openSession credential session => exact balanced_openSession h credential session
      | _ => first | exact h.congr rfl rfl rfl | cases hrequest

/-- The balance is kept by every history. -/
theorem balanced_after (h : Balanced (c.credentials.length + unnamed) asked c.prefs)
    (history : List Action) :
    Balanced ((c.after history).credentials.length + unnamed) (asked + requests history)
      (c.after history).prefs := by
  induction history generalizing c asked with
  | nil => exact h
  | cons action rest ih =>
      have hrest := ih (balanced_step h action)
      rwa [Nat.add_assoc, requests, requests, ← List.countP_append] at hrest

end Step

/-! ## Runs that others come between -/

/-- The clients, and what the others among them do before each of the next calls of a run. -/
structure Shared where
  clients : Clients
  others : List (List Action)

namespace Shared

variable {β : Type}

/-- The others do what they do before the next call. -/
def meanwhile (x : Shared) : Shared :=
  ⟨x.clients.after (x.others.headD []), x.others.tail⟩

/-- The state with other preferences. -/
def withPrefs (x : Shared) (prefs : MemoryPreferences) : Shared :=
  { x with clients := { x.clients with prefs } }

/-- A call on the preferences, which the others come before. -/
def call (x : Shared) (f : MemoryPreferences → β × MemoryPreferences) : β × Shared :=
  let (answer, prefs) := f x.meanwhile.clients.prefs
  (answer, x.meanwhile.withPrefs prefs)

/-- A call of a session, which the others come before. -/
def sessionCall (x : StagedWrites × Shared)
    (f : StagedWrites × MemoryPreferences → β × (StagedWrites × MemoryPreferences)) :
    β × (StagedWrites × Shared) :=
  let (answer, (staged, prefs)) := f (x.1, x.2.meanwhile.clients.prefs)
  (answer, (staged, x.2.meanwhile.withPrefs prefs))

end Shared

/-- The backend of a run that others come between. -/
def shared : SystemPreferences Shared Unit StagedWrites where
  authorize flags x := x.call (backend.authorize flags)
  openSession name credential x := x.call (backend.openSession name credential)
  session :=
    { value := fun key x => Shared.sessionCall x (session.value key)
      setPath := fun path dict x => Shared.sessionCall x (session.setPath path dict)
      commit := fun x => Shared.sessionCall x session.commit
      apply := fun x => Shared.sessionCall x session.apply
      synchronize := fun x =>
        (Shared.sessionCall x fun y => ((), session.synchronize y)).2 }
  close session x := (x.call fun m => ((), backend.close session m)).2
  release credential x := (x.call fun m => ((), backend.release credential m)).2

namespace Shared

variable {others : List (List Action)} {own asked : Nat} {β : Type} {x : Shared}

/-- The others have done some of what they were going to do.  Apart from the credentials that they
hold, `own` ones are held, and apart from their requests there were `asked`. -/
def Balanced (others : List (List Action)) (own asked : Nat) (x : Shared) : Prop :=
  ∃ done, done ++ x.others = others ∧
    x.clients.prefs.Balanced (x.clients.credentials.length + own) (asked + requests done.flatten)

/-- What the others do keeps the balance. -/
theorem Balanced.meanwhile (h : Balanced others own asked x) :
    Balanced others own asked x.meanwhile := by
  obtain ⟨c, remaining⟩ := x
  obtain ⟨done, hdone, h⟩ := h
  cases remaining with
  | nil => exact ⟨done, hdone, h⟩
  | cons next rest =>
      have hnext := balanced_after h next
      refine ⟨done ++ [next], ?_, ?_⟩
      · rw [← hdone, List.append_assoc]
        rfl
      · rwa [Nat.add_assoc, requests, requests, ← List.countP_append,
          ← List.flatten_concat] at hnext

/-- A call changes the balance of the run alone. -/
theorem Balanced.withPrefs (h : Balanced others own asked x) {own' asked' : Nat}
    {m : MemoryPreferences}
    (hm : ∀ {held theirs}, x.clients.prefs.Balanced (held + own) (theirs + asked) →
      m.Balanced (held + own') (theirs + asked')) :
    Balanced others own' asked' (x.withPrefs m) := by
  obtain ⟨done, hdone, h⟩ := h
  rw [Nat.add_comm asked] at h
  refine ⟨done, hdone, ?_⟩
  rw [Nat.add_comm asked']
  exact hm h

/-- A call of the run keeps the balance if the preferences do. -/
theorem Balanced.call (h : Balanced others own asked x)
    {f : MemoryPreferences → β × MemoryPreferences}
    (hf : ∀ {held requests m}, m.Balanced held requests → (f m).2.Balanced held requests) :
    Balanced others own asked (x.call f).2 :=
  h.meanwhile.withPrefs hf

/-- So does a call of its session. -/
theorem Balanced.sessionCall {x : StagedWrites × Shared} (h : Balanced others own asked x.2)
    {f : StagedWrites × MemoryPreferences → β × (StagedWrites × MemoryPreferences)}
    (hf : ∀ {held requests y}, y.2.Balanced held requests → (f y).2.2.Balanced held requests) :
    Balanced others own asked (Shared.sessionCall x f).2.2 :=
  h.meanwhile.withPrefs (hf (y := (x.1, x.2.meanwhile.clients.prefs)))

end Shared

/-- No call of the session changes the balance, whatever the others do before it. -/
theorem session_keeps_shared (others : List (List Action)) (own asked : Nat) :
    shared.session.Keeps fun x => Shared.Balanced others own asked x.2 where
  value key _ hx := hx.sessionCall ((session_keeps_balanced _ _).value key _)
  setPath path dict _ hx := hx.sessionCall ((session_keeps_balanced _ _).setPath path dict _)
  commit _ hx := hx.sessionCall ((session_keeps_balanced _ _).commit _)
  apply _ hx := hx.sessionCall ((session_keeps_balanced _ _).apply _)
  synchronize _ hx :=
    hx.sessionCall (f := fun y => ((), session.synchronize y))
      ((session_keeps_balanced _ _).synchronize _)

/-- A run that others come between keeps the balance and asks once. -/
theorem brackets_shared (others : List (List Action)) (asked : Nat) :
    shared.Brackets (Shared.Balanced others 0 asked) (Shared.Balanced others 1 (asked + 1))
      (Shared.Balanced others 0 (asked + 1)) (Shared.Balanced others 0 (asked + 1)) where
  denied {x x' status} hx hauthorize := by
    obtain ⟨hanswer, rfl⟩ := Prod.mk.inj hauthorize
    exact hx.meanwhile.withPrefs fun h => h.deny (Prod.ext hanswer rfl)
  granted {x x' _} hx hauthorize := by
    obtain ⟨hanswer, rfl⟩ := Prod.mk.inj hauthorize
    exact hx.meanwhile.withPrefs fun h => h.grant (Prod.ext hanswer rfl)
  openSession _ _ _ hx := hx.call fun h => h.quiet (quiet_openSession _)
  session := session_keeps_shared _ _ _
  close _ _ hx := hx.call (f := fun m => ((), m)) fun h => h
  release _ _ hx := hx.meanwhile.withPrefs fun h => h.release

/-- From related states a session of the preferences and one of an undisturbed run answer alike. -/
theorem session_follows_shared (c : Clients) :
    session.Follows shared.session fun x x' => x' = (x.1, ⟨{ c with prefs := x.2 }, []⟩) where
  value _ _ _ hx := by
    subst hx
    exact ⟨rfl, rfl⟩
  setPath _ _ _ _ hx := by
    subst hx
    exact ⟨rfl, rfl⟩
  commit _ _ hx := by
    subst hx
    exact ⟨rfl, rfl⟩
  apply _ _ hx := by
    subst hx
    exact ⟨rfl, rfl⟩
  synchronize _ _ hx := by
    subst hx
    rfl

/-- A run that nobody comes between is a run in one step. -/
theorem run_shared_nil (c : Clients) (port : UInt16) :
    (Synchronizer.run shared port ⟨c, []⟩).result =
        (Synchronizer.run backend port c.prefs).result ∧
      (Synchronizer.run shared port ⟨c, []⟩).state = ⟨(c.step (.run port)).state, []⟩ := by
  rw [state_run]
  have hauthorize : shared.authorize .sync ⟨c, []⟩ =
      ((backend.authorize .sync c.prefs).1,
        ⟨{ c with prefs := (backend.authorize .sync c.prefs).2 }, []⟩) := rfl
  have hopen (m : MemoryPreferences) :
      shared.openSession Synchronizer.sessionName () ⟨{ c with prefs := m }, []⟩ =
        ((backend.openSession Synchronizer.sessionName () m).1,
          ⟨{ c with prefs := (backend.openSession Synchronizer.sessionName () m).2 }, []⟩) := rfl
  rcases hanswer : backend.authorize .sync c.prefs with ⟨status | credential, m₁⟩
  · rw [hanswer] at hauthorize
    obtain ⟨hresult, hstate⟩ := Synchronizer.run_of_denied port hanswer
    obtain ⟨hresult', hstate'⟩ := Synchronizer.run_of_denied port hauthorize
    rw [hresult, hstate, hresult', hstate']
    exact ⟨rfl, rfl⟩
  rw [hanswer] at hauthorize
  specialize hopen m₁
  rcases hopened : backend.openSession Synchronizer.sessionName credential m₁ with
    ⟨cause | session, m₂⟩
  · rw [hopened] at hopen
    obtain ⟨hresult, hstate⟩ := Synchronizer.run_of_refused port hanswer hopened
    obtain ⟨hresult', hstate'⟩ := Synchronizer.run_of_refused port hauthorize hopen
    rw [hresult, hstate, hresult', hstate']
    exact ⟨rfl, rfl⟩
  · rw [hopened] at hopen
    obtain ⟨hresult, hstate⟩ := Synchronizer.run_of_opened port hanswer hopened
    obtain ⟨hresult', hstate'⟩ := Synchronizer.run_of_opened port hauthorize hopen
    obtain ⟨hsame, -, hrelated⟩ := (session_follows_shared c).runSession port
      (x := (session, m₂)) rfl
    rw [hresult, hstate, hresult', hstate', hsame, hrelated]
    exact ⟨rfl, rfl⟩

/-- Another client gets a credential before the run asks for its own, and a third one gives its
credential back before the run opens a session. -/
example :
    let c := ({} : Clients).after [.acquire "a" {}]
    let run := Synchronizer.run shared 3128 ⟨c, [[.acquire "b" {}], [.release "a"]]⟩
    run.state.clients.prefs.calls =
        [.authorize, .authorize, .authorize, .release, .openSession, .release] ∧
      run.state.clients.credentials = ["b"] := by
  decide +kernel

/-! ## Every credential is given back once -/

/-- Each credential is given back once.  After every history the counters and the log agree on the
credentials that are held.  A run, whichever way it ends, leaves the credentials as it found them,
and its last call gives back its own.  The same is true of a run that others come between. -/
theorem credentials_released_once :
    (∀ history, let c := ({} : Clients).after history
      c.prefs.Balanced c.credentials.length (requests history)) ∧
    (∀ (c : Clients) (port : UInt16), let run := c.step (.run port)
      run.state.credentials = c.credentials ∧
        ∃ new count, Since c.prefs new count count run.state.prefs ∧
          Enclosed .authorize .release MemoryCall.ofCredential
            (∃ status, run.answer = .syncFailed (.authorization status)) new) ∧
    (∀ history (port : UInt16) others,
      let run := Synchronizer.run shared.recorded port
        ⟨⟨({} : Clients).after history, others⟩, []⟩
      Shared.Balanced others 0 (requests history + 1) run.state.state ∧
        run.state.Finished (∃ status, run.result = .error (.authorization status))) ∧
    ∀ (c : Clients) (port : UInt16), let run := Synchronizer.run shared port ⟨c, []⟩
      run.result = (Synchronizer.run backend port c.prefs).result ∧
        run.state = ⟨(c.step (.run port)).state, []⟩ := by
  have hbalanced (history : List Action) :
      (({} : Clients).after history).prefs.Balanced
        (({} : Clients).after history).credentials.length (requests history) := by
    have hempty : ({} : Clients).prefs.Balanced (({} : Clients).credentials.length + 0) 0 :=
      balanced_empty
    have h := balanced_after hempty history
    rwa [Nat.zero_add] at h
  refine ⟨hbalanced, fun c port => ⟨rfl, ?_⟩, fun history port others => ?_, run_shared_nil⟩
  · obtain ⟨new, count, hsince, hnew⟩ := run_enclosed c.prefs port
    refine ⟨new, count, hsince, ?_⟩
    cases hnew with
    | refused h =>
        obtain ⟨status, hresult⟩ := h
        exact .refused ⟨status, answer_of_error hresult⟩
    | returned h => exact .returned h
  · have hbegin : Shared.Balanced others 0 (requests history)
        ⟨({} : Clients).after history, others⟩ := ⟨[], rfl, hbalanced history⟩
    obtain ⟨hstate, hcalls⟩ := (brackets_shared others (requests history)).run_recorded port hbegin
    exact ⟨hstate.elim id id, hcalls⟩

end Clients
end ProxyControl
