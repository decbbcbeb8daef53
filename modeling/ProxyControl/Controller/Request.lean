import ProxyControl.CommandLine.Reading
import ProxyControl.Log.Directive

/-!
# Requests to the controller

The controller shows and changes the settings, runs the engine, and points the system
proxy at it.  Its command line names one of these tasks; three options are understood at
every level.

Main results:

- Definition `Request.grammar`: the grammar of the command line.
- Definition `Request.ofArguments?`: the request that the arguments make.
- Definition `Request.threshold?`: how much of its log is let through.
-/

namespace ProxyControl
namespace Controller

open CommandLine

/-- What the controller is asked to do. -/
inductive Task where
  /-- Shows all settings. -/
  | showSettings
  /-- Stores a setting given as text. -/
  | set (key value : String)
  /-- Removes a stored setting. -/
  | reset (key : String)
  /-- Runs the engine until it ends or an interrupt comes. -/
  | runEngine (engine : Option Path) (systemProxy : Bool) (stopTimeout : Option Nat)
  /-- Points the system proxy at the engine, or switches it off. -/
  | setSystemProxy (disable : Bool)
  deriving DecidableEq, Repr

/-- A request to the controller. -/
structure Request where
  debug : Bool
  /-- The detail of the log, as it was typed. -/
  logLevel : Option String
  /-- The database, unless it is the user's own. -/
  database : Option Path
  task : Task
  deriving DecidableEq, Repr

namespace Request

/-! ## The grammar -/

/-- The flag that asks for help. -/
def helpFlag : Flag := ⟨"help", some 'h', .showHelp⟩

/-- The flags that are understood at every level. -/
def commonFlags : List Flag := [⟨"debug", none, .set⟩, helpFlag]

/-- The options that are understood at every level. -/
def commonOptions : List Valued :=
  [⟨"log-level", "LOG_LEVEL", .text⟩, ⟨"database", "DATABASE", .path⟩]

/-- A command below the controller. -/
def command (names : List String) (about : String) : Command where
  name := names.getLast?.getD ""
  fullName := " ".intercalate ("proxydetoxctl" :: names)
  about := about
  version := ""
  flags := commonFlags
  options := commonOptions

/-- The commands on the settings. -/
def configCommand : Command :=
  { command ["config"] "Show or change persisted settings" with
    subcommands :=
      [command ["config", "show"] "Print all settings as JSON",
        { command ["config", "set"] "Store a setting" with
          positionals := [⟨"KEY", .text, false, false⟩, ⟨"VALUE", .text, false, false⟩] },
        { command ["config", "reset"] "Remove a stored setting so it reads as its default" with
          positionals := [⟨"KEY", .text, false, false⟩] }] }

/-- The command that runs the engine. -/
def runCommand : Command :=
  { command ["run"] "Launch the engine and supervise it until Ctrl-C" with
    flags := commonFlags ++ [⟨"system-proxy", none, .set⟩]
    options := commonOptions ++
      [⟨"engine", "ENGINE", .path⟩, ⟨"stop-timeout", "STOP_TIMEOUT", .count⟩] }

/-- The command that points the system proxy at the engine. -/
def proxyCommand : Command :=
  { command ["set-system-proxy"] "Point the system proxy at the configured port" with
    flags := commonFlags ++ [⟨"disable", none, .set⟩] }

/-- The grammar of the controller. -/
def grammar : Command where
  name := "proxydetoxctl"
  fullName := "proxydetoxctl"
  about := programsAbout
  version := "proxydetoxctl 0.3.0"
  flags := commonFlags ++ [⟨"version", some 'V', .showVersion⟩]
  options := commonOptions
  subcommands := [configCommand, runCommand, proxyCommand]

/-! ## From arguments to requests -/

/-- The task that the arguments name. -/
def taskOf? (levels : List Arguments) : Option Task := do
  match (levels.drop 1).map Arguments.command with
  | ["config", "show"] => return .showSettings
  | ["config", "set"] =>
    return .set (← Arguments.text? levels "KEY") (← Arguments.text? levels "VALUE")
  | ["config", "reset"] => return .reset (← Arguments.text? levels "KEY")
  | ["run"] =>
    return .runEngine (Arguments.path? levels "engine") (Arguments.isOn levels "system-proxy")
      (Arguments.number? levels "stop-timeout")
  | ["set-system-proxy"] => return .setSystemProxy (Arguments.isOn levels "disable")
  | _ => none

/-- The request that the arguments make. -/
def ofArguments? (levels : List Arguments) : Option Request :=
  (taskOf? levels).map fun task =>
    { debug := Arguments.isOn levels "debug"
      logLevel := Arguments.text? levels "log-level"
      database := Arguments.path? levels "database"
      task := task }

/-- The request of the words of a command line. -/
def read (words : List Word) : Except Stop Request :=
  match grammar.read words with
  | .error stop => .error stop
  | .ok levels =>
    match ofArguments? levels with
    | some request => .ok request
    | none => .error .missingArguments

/-! ## The log -/

/-- The name under which the controller writes into the log. -/
def logSource : String := "proxydetoxctl"

/-- The detail of the log. -/
def detail (r : Request) : String :=
  if r.debug then "debug" else r.logLevel.getD "info"

/-- The log filter: the asked detail for the controller, and warnings of every other
source.  The detail is put in as it was typed, so it may bring directives of its own. -/
def logFilter (r : Request) : String :=
  logSource ++ "=" ++ r.detail ++ ",warn"

/-- How much of the controller's log is let through, unless the filter is broken. -/
def threshold? (r : Request) : Option Log.Threshold :=
  (Log.Directive.ofFilter? r.logFilter).map fun ds => Log.Directive.thresholdFor ds logSource

end Request
end Controller
end ProxyControl
