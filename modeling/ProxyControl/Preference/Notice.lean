import ProxyControl.Log
import ProxyControl.Preference.Service
import ProxyControl.Preference.Session

/-!
# Notices of a synchronization

A synchronization reports each step that it takes.  A notice is the step as data; its
log entry is made from it.

Main results:

- Type `SyncPhase`: the phases of a run.
- Type `SyncNotice`: the steps that are reported.
- Definition `SyncNotice.entry`: the log entry of a step.
-/

namespace ProxyControl

/-- The phases of a run. -/
inductive SyncPhase where
  | idle
  | authorizing
  | sessionOpen
  | enumerating
  | diffing
  | committing
  | done
  | failed
  deriving DecidableEq, Repr

namespace SyncPhase

/-- The name of a phase. -/
def name : SyncPhase → String
  | idle => "idle"
  | authorizing => "authorizing"
  | sessionOpen => "session-open"
  | enumerating => "enumerating"
  | diffing => "diffing"
  | committing => "committing"
  | done => "done"
  | failed => "failed"

/-- All phases in their order. -/
def all : List SyncPhase :=
  [idle, authorizing, sessionOpen, enumerating, diffing, committing, done, failed]

end SyncPhase

/-- A step of a synchronization that is reported. -/
inductive SyncNotice where
  /-- The run enters a phase from another. -/
  | transition (old new : SyncPhase)
  /-- A credential is asked for. -/
  | requesting (flags : AuthorizationFlags)
  /-- The credential is denied. -/
  | denied (status : AuthorizationStatus)
  /-- The preferences hold no services. -/
  | noServices
  /-- The services have been counted. -/
  | found (count : Nat)
  /-- A service is of no eligible kind. -/
  | skipped (id : String) (hardware : HardwareKind)
  /-- A service already has the wanted dictionary. -/
  | upToDate (id : String)
  /-- A service's dictionary has been staged. -/
  | staged (id : String) (hardware : HardwareKind)
  /-- A service's dictionary could not be staged. -/
  | rejected (error : ServiceWriteError)
  /-- The commit failed. -/
  | commitFailed (cause : PreferencesError)
  /-- The committed changes could not be made active. -/
  | applyFailed (cause : PreferencesError)
  /-- The changes are committed and active. -/
  | applied
  /-- The run ended well. -/
  | finished (port : UInt16) (written failed : Nat) (committed : Bool)
  /-- The run ended with an error in a phase. -/
  | aborted (phase : SyncPhase) (error : SyncError)
  deriving DecidableEq, Repr

namespace SyncNotice

/-- The level of a notice. -/
def level : SyncNotice → Log.Level
  | denied _ | commitFailed _ | applyFailed _ => .error
  | noServices | rejected _ => .warn
  | staged _ _ | applied | finished _ _ _ _ => .info
  | _ => .debug

/-- The text of a notice. -/
def text : SyncNotice → String
  | transition old new => "System proxy sync: " ++ old.name ++ " -> " ++ new.name
  | requesting flags =>
    "Requesting authorization (flags=0x" ++ String.ofList (Nat.toDigits 16 flags.bits) ++ ")"
  | denied status =>
    "Authorization failed with status " ++ toString status.code ++ ": " ++ status.message
  | noServices => "No " ++ networkServicesKey ++ " found in system preferences"
  | found count => "Found " ++ toString count ++ " network services"
  | skipped id hardware =>
    "Skipping " ++ id ++ " (" ++ hardware.display ++ "): not Wi-Fi or Ethernet"
  | upToDate id => id ++ " already up to date"
  | staged id hardware => "Staged proxy settings for " ++ id ++ " (" ++ hardware.display ++ ")"
  | rejected error => error.message
  | commitFailed cause =>
    "Failed to commit System Configuration Preferences: " ++ cause.message
  | applyFailed cause => "Failed to apply System Configuration Preferences: " ++ cause.message
  | applied => "System Configuration Preferences committed and applied"
  | finished port written failed committed =>
    "System proxy sync for port " ++ toString port.toNat ++ " done: " ++ toString written ++
      " written, " ++ toString failed ++ " failed, committed=" ++
      (if committed then "true" else "false")
  | aborted phase error => "Run failed during " ++ phase.name ++ ": " ++ error.message

/-- The log entry of a notice. -/
def entry (notice : SyncNotice) : Log.Entry :=
  ⟨notice.level, notice.text⟩

end SyncNotice
end ProxyControl
