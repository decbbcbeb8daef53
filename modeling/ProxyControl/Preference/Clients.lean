import ProxyControl.Preference.Memory
import ProxyControl.Preference.Synchronizer

/-!
# Clients of the preferences in memory

Several clients share the preferences in memory: synchronizer runs, credentials held
under names, open sessions under names, and transactions in them.  One action of a
client is a step of the whole system.

Main results:

- Type `Clients.Action`: what a client can do.
- Definition `Clients.step`: the answer, the notices and the new state of an action.
- Definition `Clients.steps`: the answers of a list of actions.
-/

namespace ProxyControl

/-- The preferences in memory with the credentials and sessions that are held. -/
structure Clients where
  prefs : MemoryPreferences := {}
  /-- The names of the credentials that are held. -/
  credentials : List String := []
  /-- The open sessions by name, with their staged writes. -/
  sessions : Dict StagedWrites := []
  deriving Repr

namespace Clients

/-- One action of a transaction: a service, and the dictionary to stage for it unless it
is unchanged. -/
structure ServiceAction where
  service : NetworkService
  dict : Option ProxyDict
  deriving Repr

/-- What a client can do. -/
inductive Action where
  | addService (id : String) (hardware : Option String) (proxies : Option ProxyDict)
  | failAuthorization (status : AuthorizationStatus)
  | failSession (message : String)
  | failSet (id : String)
  | failCommit
  | failApply
  | clearFailures
  | run (port : UInt16)
  | proxies (id : String)
  | writes
  | calls
  | acquire (credential : String) (flags : AuthorizationFlags)
  | release (credential : String)
  | openSession (credential session : String)
  | close (session : String)
  | value (session key : String)
  | enumerate (session : String)
  | setPath (session path : String) (dict : ProxyDict)
  | commit (session : String)
  | apply (session : String)
  | synchronize (session : String)
  | transaction (session : String) (actions : List ServiceAction) (abandon : Bool)
  deriving Repr

/-- What a stage said, if there was one, and whether the transaction was dirty after. -/
abbrev ActionState := Option Bool × Bool

/-- The answer to an action. -/
inductive Answer where
  | done
  | flag (b : Bool)
  | dict (d : Option ProxyDict)
  | writes (ws : List (String × ProxyDict))
  | calls (cs : List MemoryCall)
  | value (v : Option PrefValue)
  | services (list : List NetworkService)
  | report (r : SyncReport)
  /-- A transaction that was given up. -/
  | abandoned (states : List ActionState)
  /-- A transaction that was finished. -/
  | transaction (states : List ActionState) (outcomes : List ServiceOutcome) (committed : Bool)
  | transactionFailed (states : List ActionState) (error : SyncError)
  | syncFailed (error : SyncError)
  | preferencesFailed (error : PreferencesError)
  /-- There is no session or credential of that name. -/
  | unknownName
  deriving Repr

/-- The answer, the notices and the new state of an action. -/
structure Step where
  answer : Answer
  notices : List SyncNotice := []
  state : Clients

/-- The state with other failures. -/
def withFailures (c : Clients) (change : InjectedFailures → InjectedFailures) : Clients :=
  { c with prefs := { c.prefs with failures := change c.prefs.failures } }

/-- The answer to a call of a session. -/
def ofCall : Except PreferencesError Unit → Answer
  | .ok () => .done
  | .error e => .preferencesFailed e

/-- A step in an open session. -/
def inSession (c : Clients) (name : String)
    (f : StagedWrites × MemoryPreferences →
      Answer × List SyncNotice × (StagedWrites × MemoryPreferences)) : Step :=
  match c.sessions.find? name with
  | none => ⟨.unknownName, [], c⟩
  | some staged =>
    let (answer, notices, (staged, prefs)) := f (staged, c.prefs)
    ⟨answer, notices, { c with prefs := prefs, sessions := c.sessions.insert name staged }⟩

/-- The actions of a transaction in a session, one after the other. -/
def runActions {τ : Type} (s : Session τ) :
    List ServiceAction → Transaction → τ → List ActionState × Transaction × τ
  | [], t, x => ([], t, x)
  | action :: rest, t, x =>
    match action.dict with
    | none =>
      let t := t.unchanged action.service
      let (states, t', x) := runActions s rest t x
      ((none, t.dirty) :: states, t', x)
    | some dict =>
      let (written, t, x) := t.stage s action.service dict x
      let (states, t', x) := runActions s rest t x
      ((some written, t.dirty) :: states, t', x)

/-- A transaction in a session. -/
def transact {τ : Type} (s : Session τ) (actions : List ServiceAction) (abandon : Bool) (x : τ) :
    Answer × List SyncNotice × τ :=
  let (states, t, x) := runActions s actions {} x
  if abandon then (.abandoned states, t.notices, x)
  else
    let finished := t.finish s x
    match finished.result with
    | .ok (outcomes, committed) =>
      (.transaction states outcomes committed, finished.notices, finished.state)
    | .error error => (.transactionFailed states error, finished.notices, finished.state)

/-- Asks for a credential and holds it under a name.  An earlier one of that name is
given back after the new one has been granted. -/
def acquire (c : Clients) (name : String) (flags : AuthorizationFlags) : Step :=
  match Synchronizer.acquire MemoryPreferences.backend flags c.prefs with
  | (.error status, notices, prefs) =>
    ⟨.syncFailed (.authorization status), notices, { c with prefs := prefs }⟩
  | (.ok (), notices, prefs) =>
    if c.credentials.contains name then ⟨.done, notices, { c with prefs := prefs.release }⟩
    else ⟨.done, notices, { c with prefs := prefs, credentials := name :: c.credentials }⟩

/-- Gives the credential of a name back, if there is one. -/
def release (c : Clients) (name : String) : Step :=
  if c.credentials.contains name then
    ⟨.flag true, [],
      { c with prefs := c.prefs.release, credentials := c.credentials.erase name }⟩
  else ⟨.flag false, [], c⟩

/-- Opens a session under the credential of a name. -/
def openSession (c : Clients) (credential session : String) : Step :=
  if c.credentials.contains credential then
    match c.prefs.openSession with
    | (.error e, prefs) => ⟨.preferencesFailed e, [], { c with prefs := prefs }⟩
    | (.ok staged, prefs) =>
      ⟨.done, [], { c with prefs := prefs, sessions := c.sessions.insert session staged }⟩
  else ⟨.unknownName, [], c⟩

/-- One action of a client. -/
def step (c : Clients) : Action → Step
  | .addService id hardware proxies =>
    ⟨.done, [], { c with prefs := c.prefs.addService id hardware proxies }⟩
  | .failAuthorization status =>
    ⟨.done, [], c.withFailures fun f => { f with authorization := some status }⟩
  | .failSession message =>
    ⟨.done, [], c.withFailures fun f => { f with session := some message }⟩
  | .failSet id => ⟨.done, [], c.withFailures fun f => { f with sets := id :: f.sets }⟩
  | .failCommit => ⟨.done, [], c.withFailures fun f => { f with commit := true }⟩
  | .failApply => ⟨.done, [], c.withFailures fun f => { f with apply := true }⟩
  | .clearFailures => ⟨.done, [], c.withFailures fun _ => {}⟩
  | .run port =>
    let run := Synchronizer.run MemoryPreferences.backend port c.prefs
    let answer := match run.result with
      | .ok report => Answer.report report
      | .error error => .syncFailed error
    ⟨answer, run.notices, { c with prefs := run.state }⟩
  | .proxies id => ⟨.dict (c.prefs.serviceProxies id), [], c⟩
  | .writes => ⟨.writes c.prefs.writes, [], c⟩
  | .calls => ⟨.calls c.prefs.calls, [], c⟩
  | .acquire name flags => c.acquire name flags
  | .release name => c.release name
  | .openSession credential session => c.openSession credential session
  | .close name =>
    ⟨.flag (c.sessions.contains name), [], { c with sessions := c.sessions.erase name }⟩
  | .value session key =>
    c.inSession session fun x =>
      let (value, x) := MemoryPreferences.session.value key x
      (.value value, [], x)
  | .enumerate session =>
    c.inSession session fun x =>
      let (services, notices, x) := Synchronizer.enumerate MemoryPreferences.session x
      (.services services, notices, x)
  | .setPath session path dict =>
    c.inSession session fun x =>
      let (answer, x) := MemoryPreferences.setPath path dict x
      (ofCall answer, [], x)
  | .commit session =>
    c.inSession session fun x =>
      let (answer, x) := MemoryPreferences.commit x
      (ofCall answer, [], x)
  | .apply session =>
    c.inSession session fun x =>
      let (answer, x) := MemoryPreferences.apply x
      (ofCall answer, [], x)
  | .synchronize session =>
    c.inSession session fun x => (.done, [], MemoryPreferences.synchronize x)
  | .transaction session actions abandon =>
    c.inSession session (transact MemoryPreferences.session actions abandon)

/-- The calls logged between two states. -/
def newCalls (before after : Clients) : List MemoryCall :=
  after.prefs.calls.drop before.prefs.calls.length

/-- The steps of a list of actions. -/
def steps (c : Clients) : List Action → List Step
  | [] => []
  | action :: rest =>
    let s := c.step action
    s :: steps s.state rest

end Clients
end ProxyControl
