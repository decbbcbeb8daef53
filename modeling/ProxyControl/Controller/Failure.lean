import ProxyControl.Engine.Supervisor
import ProxyControl.Preference.Session
import ProxyControl.Settings.Configuration
import ProxyControl.Text.Pieces

/-!
# Failures of the controller

A failure is told together with the failures behind it.

Main results:

- Definition `Failure.chain`: the texts from the failure to its last cause.
- Definition `Failure.report`: the report over several lines.
- Definition `Failure.sentence`: the report on one line.
-/

namespace ProxyControl
namespace Controller

/-- Why the controller could not do what it was asked for. -/
inductive Failure where
  /-- The settings cannot be opened. -/
  | openSettings (cause : StorageError)
  /-- A setting cannot be stored. -/
  | setting (key : String) (cause : StorageError)
  /-- A setting cannot be removed. -/
  | resetting (cause : StorageError)
  /-- The settings cannot be shown: a path is not text. -/
  | notText
  /-- The engine cannot be started or stopped. -/
  | engine (cause : EngineError)
  /-- Interrupts cannot be listened for. -/
  | listening (cause : String)
  /-- The system proxy cannot be set. -/
  | systemProxy (cause : SyncError)
  deriving DecidableEq, Repr

namespace Failure

/-- The texts of a failed synchronization and of what is behind it. -/
def syncChain (e : SyncError) : List String :=
  e.message :: (e.cause?.map PreferencesError.message).toList

/-- The texts from the failure to its last cause. -/
def chain : Failure → List String
  | openSettings cause => "failed to open settings database" :: cause.message :: cause.causes
  | setting key cause => ("failed to set " ++ key) :: cause.message :: cause.causes
  | resetting cause => cause.message :: cause.causes
  | notText => [Configuration.notTextMessage]
  | engine cause => cause.message :: cause.causes
  | listening cause => ["failed to listen for Ctrl-C", cause]
  | systemProxy cause => syncChain cause

/-! ## Reports -/

/-- A text whose lines but the first are indented. -/
def hang (indent : String) (text : String) : String :=
  String.ofList (text.toList.flatMap fun c => if c = '\n' then c :: indent.toList else [c])

/-- A cause that stands alone. -/
def onlyCause (text : String) : String :=
  "\n    " ++ hang "    " text

/-- A number in front of a cause, right-aligned. -/
def causeNumber (n : Nat) : String :=
  let digits := Nat.toDigits 10 n
  String.ofList (List.replicate (5 - digits.length) ' ' ++ digits) ++ ": "

/-- Causes with their numbers. -/
def numberedCauses : Nat → List String → String
  | _, [] => ""
  | n, text :: rest =>
    "\n" ++ causeNumber n ++ hang "       " text ++ numberedCauses (n + 1) rest

/-- The causes below a failure. -/
def causesText : List String → String
  | [] => ""
  | [text] => "\n\nCaused by:" ++ onlyCause text
  | texts => "\n\nCaused by:" ++ numberedCauses 0 texts

/-- The report of texts from a failure to its last cause. -/
def reportOf : List String → String
  | [] => ""
  | text :: causes => "Error: " ++ text ++ causesText causes ++ "\n"

/-- The report over several lines. -/
def report (f : Failure) : String :=
  reportOf f.chain

/-- The texts of a chain on one line. -/
def sentenceOf (chain : List String) : String :=
  ": ".intercalate chain

end Failure
end Controller
end ProxyControl
