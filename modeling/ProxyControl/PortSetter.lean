import ProxyControl.CommandLine.Grammar
import ProxyControl.CommandLine.Reading
import ProxyControl.Preference.Synchronizer

/-!
# The port setter

The port setter is the privileged helper that is given a port and points the system
proxy at it.  Whatever goes wrong is said on one line of its output; the exit code is
zero either way, since its callers only look at the output.

Main results:

- Definition `PortSetter.read`: what a command line asks for.
- Definition `PortSetter.run`: the output, and the state of the preferences afterwards.
-/

namespace ProxyControl
namespace PortSetter

open CommandLine

variable {σ α ς : Type}

/-! ## The command line -/

/-- The name of the argument that holds the port. -/
def portName : String := "PORT"

/-- The grammar: a port, and words behind it that do not count. -/
def grammar : Command where
  name := "setproxy"
  fullName := "setproxy"
  about := programsAbout
  version := "setproxy 0.3.0"
  flags :=
    [⟨"verbose", some 'v', .set⟩, ⟨"help", some 'h', .showHelp⟩,
      ⟨"version", some 'V', .showVersion⟩]
  positionals := [⟨portName, .port, false, true⟩, ⟨"REST", .text, true, false⟩]

/-- What a command line asks for. -/
inductive Request where
  /-- The system proxy is pointed at a port. -/
  | setPort (port : UInt16)
  /-- A text is shown. -/
  | display (text : String)
  /-- The command line is used wrongly. -/
  | reject (error : SyncError)
  deriving DecidableEq, Repr

/-- The request of a command line whose reading ended early. -/
def ofStop : Stop → Request
  | .showHelp text => .display text
  | .showVersion text => .display text
  | .missingArguments => .reject (.argument "not enough arguments provided")
  | .missingValue _ => .reject (.argument "invalid port")
  | .invalidValue _ _ _ => .reject (.argument "invalid port")
  | stop => .reject (.argument stop.firstLine)

/-- What a command line asks for. -/
def read (words : List Word) : Request :=
  match grammar.read words with
  | .error stop => ofStop stop
  | .ok levels =>
    match Arguments.number? levels portName with
    | some port => .setPort (UInt16.ofNat port)
    | none => ofStop .missingArguments

/-! ## The run -/

/-- The line about an error that ends the program. -/
def fatal (error : SyncError) : String :=
  Output.line ("fatal error: " ++ error.message)

/-- The lines about the services that could not be written. -/
def complaints (report : SyncReport) : String :=
  String.join (report.outcomes.filterMap fun o => o.error.map fun e => Output.line e.message)

/-- What is said about the result of a synchronization. -/
def outcome : Except SyncError SyncReport → Output
  | .ok report => { stdout := complaints report }
  | .error error => { stdout := fatal error }

/-- Reads a command line and does what it asks for.  The preferences are only touched for
a port. -/
def run (p : SystemPreferences σ α ς) (words : List Word) (st : σ) : Output × σ :=
  match read words with
  | .setPort port =>
    let run := Synchronizer.run p port st
    (outcome run.result, run.state)
  | .display text => (.ofText text, st)
  | .reject error => ({ stdout := fatal error }, st)

end PortSetter
end ProxyControl
