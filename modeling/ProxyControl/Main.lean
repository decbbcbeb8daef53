import ProxyControl.Controller.Session
import ProxyControl.PortSetter

/-!
# The programs

Two programs share one executable.  Its first word is the path of the program that is
meant: the port setter by its name, the controller by any other.  The controller works
on a volume that holds the user's home directory and nothing else.
-/

namespace ProxyControl
namespace Programs

open CommandLine

/-- Writes what a program leaves behind. -/
def emit (output : Output) : IO UInt32 := do
  (← IO.getStdout).putStr output.stdout
  (← IO.getStderr).putStr output.stderr
  return UInt32.ofNat output.code

/-- The port setter. -/
def portSetter (words : List Word) : IO UInt32 :=
  emit (PortSetter.run .unsupported words ()).1

/-- The volume that holds a home directory. -/
def volumeOf (home : Option Path) : Volume :=
  match home with
  | none => {}
  | some home =>
    match Volume.makeDirectories home {} with
    | .ok _ v => v
    | .error _ v => v

/-- The controller. -/
def controller (user : UserDirectories) (binaries : Path) (words : List Word) : IO UInt32 :=
  emit (Controller.Session.run
    { user := user, volume := volumeOf user.home, binaries := binaries } {} words).output

end Programs
end ProxyControl

open ProxyControl in
/-- Runs the program that the first word names, with the words behind it. -/
def main (args : List String) : IO UInt32 := do
  let program := Path.ofText (args.headD "")
  let words := args.tail.map Text.Utf8.encode
  if program.components.getLast? = some (Text.Utf8.encode PortSetter.grammar.name) then
    Programs.portSetter words
  else
    let user : UserDirectories :=
      ⟨(← IO.getEnv "HOME").map Path.ofText, (← IO.getEnv "XDG_DATA_HOME").map Path.ofText⟩
    Programs.controller user program.directory words
