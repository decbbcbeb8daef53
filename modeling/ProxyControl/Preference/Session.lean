import ProxyControl.Preference.Value

/-!
# Sessions on the system preferences

The system preferences are changed in four steps: a credential is granted, a session is
opened under it, changes are staged in the session, and the staged changes are committed
and made active.  Backends differ in what their state is and in which steps fail, so
both are parameters here.

What is staged for a network service is the proxy dictionary that it should have for a
port, unless the dictionary it has says the same.

Main results:

- Definition `ProxyDict.desired`: the dictionary for a port.
- Definition `ProxyDict.needsWrite`: whether a dictionary differs from it.
- Definition `SyncError.message`: the text of each way a synchronization can end early.
- Structure `Session`: what an open session can do.
- Structure `SystemPreferences`: how credentials and sessions come and go.
- Definition `AuthorizationFlags.bits`: the bit mask of a set of flags.
-/

namespace ProxyControl

/-! ## Desired dictionaries -/

/-- The proxy dictionary of a network service. -/
abbrev ProxyDict := PrefDict

namespace ProxyDict

/-- The host that traffic is sent to. -/
def loopbackHost : String := "127.0.0.1"

/-- The hosts that are reached directly. -/
def exceptions : List String := ["::1", "127.0.0.1", "localhost", "*.local"]

/-- The entries that are there for every port. -/
def baseEntries (port : UInt16) : List (String × PrefValue) :=
  let enable : PrefValue := .int (if port = 0 then 0 else 1)
  [("HTTPEnable", enable), ("HTTPSEnable", enable),
    ("ProxyAutoDiscoveryEnable", .bool false), ("ProxyAutoConfigEnable", .bool false),
    ("SOCKSEnable", .bool false), ("GopherEnable", .bool false),
    ("ExceptionsList", .ofTexts exceptions)]

/-- The entries that name the proxy. -/
def endpointEntries (port : UInt16) : List (String × PrefValue) :=
  [("HTTPProxy", .str loopbackHost), ("HTTPPort", .ofPort port),
    ("HTTPSProxy", .str loopbackHost), ("HTTPSPort", .ofPort port)]

/-- The dictionary that sends HTTP and HTTPS to a port, or to no proxy for port 0. -/
def desired (port : UInt16) : ProxyDict :=
  Dict.ofList (baseEntries port ++ if port = 0 then [] else endpointEntries port)

/-- Whether a service's dictionary, if it has one, is not the wanted one. -/
def needsWrite (current : Option ProxyDict) (wanted : ProxyDict) : Bool :=
  match current with
  | none => true
  | some dict => !PrefValue.sameEntries dict wanted

end ProxyDict

/-! ## Failures -/

/-- A failure that the preferences report. -/
structure PreferencesError where
  message : String
  deriving DecidableEq, Repr

/-- The status of a denied authorization. -/
structure AuthorizationStatus where
  code : Int
  message : String
  deriving DecidableEq, Repr

/-- Why a synchronization ended early. -/
inductive SyncError where
  /-- The port is missing or invalid. -/
  | argument (text : String)
  /-- The credential was denied. -/
  | authorization (status : AuthorizationStatus)
  /-- No session could be opened, and nothing was written. -/
  | session (cause : PreferencesError)
  /-- The staged changes could not be committed. -/
  | commit (cause : PreferencesError)
  /-- The committed changes could not be made active. -/
  | apply (cause : PreferencesError)
  deriving DecidableEq, Repr

namespace SyncError

/-- The text of an error. -/
def message : SyncError → String
  | argument text => text
  | authorization status => status.message
  | session cause => "unable to open system network preferences: " ++ cause.message
  | commit cause => "failed to commit System Configuration Preferences: " ++ cause.message
  | apply cause => "failed to apply System Configuration Preferences: " ++ cause.message

/-- The failure behind an error. -/
def cause? : SyncError → Option PreferencesError
  | session cause => some cause
  | commit cause => some cause
  | apply cause => some cause
  | _ => none

end SyncError

/-- The failure to stage the dictionary of one service. -/
structure ServiceWriteError where
  serviceId : String
  cause : PreferencesError
  deriving DecidableEq, Repr

/-- The text of a failed write. -/
def ServiceWriteError.message (e : ServiceWriteError) : String :=
  "failed to set System Configuration Preferences for " ++ e.serviceId ++ ": " ++ e.cause.message

/-! ## Sessions -/

/-- What is asked for together with a credential. -/
structure AuthorizationFlags where
  /-- The user may be asked. -/
  interactionAllowed : Bool := false
  /-- The rights may be extended. -/
  extendRights : Bool := false
  /-- The rights are acquired at once. -/
  preAuthorize : Bool := false
  deriving DecidableEq, Repr

namespace AuthorizationFlags

/-- The flags that a synchronization asks for. -/
def sync : AuthorizationFlags := ⟨true, true, true⟩

/-- The bit mask of the flags. -/
def bits (f : AuthorizationFlags) : Nat :=
  (if f.interactionAllowed then 1 else 0) + (if f.extendRights then 2 else 0) +
    (if f.preAuthorize then 16 else 0)

end AuthorizationFlags

/-- What can be done in an open session; the state holds the session's own changes and
what is behind all sessions. -/
structure Session (τ : Type) where
  /-- Reads a value of the top level. -/
  value : String → τ → Option PrefValue × τ
  /-- Stages a dictionary at a path with slashes. -/
  setPath : String → ProxyDict → τ → Except PreferencesError Unit × τ
  /-- Writes the staged changes. -/
  commit : τ → Except PreferencesError Unit × τ
  /-- Makes the committed changes active. -/
  apply : τ → Except PreferencesError Unit × τ
  /-- Reads the session's copy of the preferences again. -/
  synchronize : τ → τ

/-- A backend of the system preferences with shared state `σ`, credentials `α` and the
sessions' own state `ς`. -/
structure SystemPreferences (σ α ς : Type) where
  /-- Asks for a credential. -/
  authorize : AuthorizationFlags → σ → Except AuthorizationStatus α × σ
  /-- Opens a session of a name under a credential. -/
  openSession : String → α → σ → Except PreferencesError ς × σ
  /-- What an open session can do. -/
  session : Session (ς × σ)
  /-- Closes a session. -/
  close : ς → σ → σ
  /-- Gives a credential back. -/
  release : α → σ → σ

end ProxyControl
