import ProxyControl.Settings.Configuration

/-!
# The engine's command line

The engine is started with its port and with the switches that are on; the proxy
configuration file and the start at login are not its business.

Main results:

- Definition `EngineCommand.ofConfiguration`: the command line of a configuration.
- Definition `EngineCommand.display`: the command line as text.
-/

namespace ProxyControl

/-- The program and the arguments that start the engine. -/
structure EngineCommand where
  program : Path
  args : List String
  deriving DecidableEq, Repr

namespace EngineCommand

/-- The name of the engine's program. -/
def engineName : String := "proxydetox"

/-- The engine's program in a directory of programs. -/
def defaultProgram (binaries : Path) : Path :=
  binaries.join (.ofText engineName)

/-- The seconds that the engine may take to drain its connections. -/
def drainSeconds : Nat := 0

/-- A switch that is there if it is on. -/
def switch (on : Bool) (name : String) : List String :=
  if on then [name] else []

/-- The arguments of a configuration. -/
def argsOf (c : Configuration) : List String :=
  ["--port", toString c.port.toNat, "--graceful-shutdown-timeout", toString drainSeconds] ++
    switch c.negotiate "--negotiate" ++ switch c.directFallback "--direct-fallback" ++
    switch c.alwaysUseConnect "--always-use-connect"

/-- The command line that starts a program with a configuration. -/
def ofConfiguration (program : Path) (c : Configuration) : EngineCommand :=
  ⟨program, argsOf c⟩

/-- What stands for a word that cannot be handed to the system. -/
def unspeakable : Path := .ofText "<string-with-nul>"

/-- The program as it is handed to the system. -/
def spawnProgram (c : EngineCommand) : Path :=
  if c.program.hasNul then unspeakable else c.program

/-- The command line as text, with a blank before each argument. -/
def display (c : EngineCommand) : String :=
  c.args.foldl (fun text arg => text ++ " " ++ arg) c.program.display

end EngineCommand
end ProxyControl
