import ProxyControl.Decimal.Binary64
import ProxyControl.Path
import ProxyControl.Text.ControlSequence
import ProxyControl.Text.Pieces

/-!
# Command line grammars

A command has flags, options with a value, positional arguments and subcommands.  The
words of a command line are byte strings; what a word has to be depends on the kind of
the value that it gives.

Main results:

- Structure `Command`: the grammar of a command.
- Type `Stop`: why the reading of a command line ends early.
- Definition `Stop.message`: what is said about it.
- Definition `ValueKind.convert`: the value that a word gives.
- Structure `Output`: the exit code and the texts that a program leaves behind.
-/

namespace ProxyControl
namespace CommandLine

/-- A word of a command line. -/
abbrev Word := List UInt8

/-- What the value of an argument has to be. -/
inductive ValueKind where
  /-- Any text. -/
  | text
  /-- A path that is not empty. -/
  | path
  /-- An unsigned number of 64 bits. -/
  | count
  /-- A port number. -/
  | port
  deriving DecidableEq, Repr

/-- A value. -/
inductive Value where
  | on
  | text (s : String)
  | path (p : Path)
  | number (n : Nat)
  deriving DecidableEq, Repr

/-- What a flag does. -/
inductive FlagEffect where
  | set
  | showHelp
  | showVersion
  deriving DecidableEq, Repr

/-- A flag without a value. -/
structure Flag where
  name : String
  short : Option Char := none
  effect : FlagEffect := .set
  deriving DecidableEq, Repr

/-- An option with a value. -/
structure Valued where
  name : String
  placeholder : String
  kind : ValueKind
  deriving DecidableEq, Repr

/-- A positional argument. -/
structure Positional where
  name : String
  kind : ValueKind
  /-- It takes all words that are left. -/
  many : Bool := false
  /-- A negative number is taken for it and not for a group of flags. -/
  negative : Bool := false
  deriving DecidableEq, Repr

/-- The grammar of a command. -/
structure Command where
  name : String
  /-- The name with those of the commands around it. -/
  fullName : String
  about : String
  version : String
  flags : List Flag := []
  options : List Valued := []
  positionals : List Positional := []
  subcommands : List Command := []
  deriving Repr

/-- What the help on each of the programs begins with. -/
def programsAbout : String :=
  "Proxydetox control plane binaries: the setproxy helper and the proxydetoxctl controller"

/-- The flag as it is shown. -/
def Flag.display (f : Flag) : String :=
  "--" ++ f.name

/-- The option as it is shown. -/
def Valued.display (o : Valued) : String :=
  "--" ++ o.name ++ " <" ++ o.placeholder ++ ">"

/-- The argument as it is shown. -/
def Positional.display (p : Positional) : String :=
  "<" ++ p.name ++ ">"

/-! ## Why reading ends early -/

/-- Why the reading of a command line ends early. -/
inductive Stop where
  /-- A word has no place in the grammar. -/
  | unexpectedArgument (word : String)
  /-- A word is the name of no subcommand. -/
  | unknownCommand (word : String)
  /-- An argument is given a second time. -/
  | usedTwice (argument : String)
  /-- A flag is given a value. -/
  | unexpectedValue (value argument : String)
  /-- An option has no value. -/
  | missingValue (argument : String)
  /-- A value is of another kind. -/
  | invalidValue (value argument reason : String)
  /-- A word that has to be text is not. -/
  | notText
  /-- Positional arguments are missing. -/
  | missingArguments
  /-- The subcommand is missing. -/
  | missingCommand (fullName : String)
  /-- Nothing was given where a subcommand is needed. -/
  | nothingGiven (about : String)
  | showHelp (about : String)
  | showVersion (text : String)
  deriving DecidableEq, Repr

namespace Stop

/-- A word inside quotes, as far as it can be shown. -/
def quoted (word : String) : String :=
  "'" ++ Text.ControlSequence.strip word ++ "'"

/-- What is wrong with a command line, or what it asks to be shown. -/
def message : Stop → String
  | unexpectedArgument word => "unexpected argument " ++ quoted word ++ " found"
  | unknownCommand word => "unrecognized subcommand " ++ quoted word
  | usedTwice argument => "the argument " ++ quoted argument ++ " cannot be used multiple times"
  | unexpectedValue value argument =>
    "unexpected value " ++ quoted value ++ " for " ++ quoted argument ++
      " found; no more were expected"
  | missingValue argument =>
    "a value is required for " ++ quoted argument ++ " but none was supplied"
  | invalidValue value argument reason =>
    "invalid value " ++ quoted value ++ " for " ++ quoted argument ++ ": " ++ reason
  | notText => "invalid UTF-8 was detected in one or more arguments"
  | missingArguments => "the following required arguments were not provided:"
  | missingCommand fullName =>
    quoted fullName ++ " requires a subcommand but one was not provided"
  | nothingGiven about => about
  | showHelp about => about
  | showVersion text => text

/-- The message up to its first line end. -/
def firstLine (stop : Stop) : String :=
  Text.Lines.first (stop.message ++ "\n")

end Stop

/-! ## Values -/

/-- Why a text is no number. -/
inductive NumberFault where
  | empty
  | invalidDigit
  | tooLarge
  | tooSmall
  /-- It lies outside the range of ports. -/
  | notPort (text : String)
  deriving DecidableEq, Repr

/-- The text about a fault. -/
def NumberFault.message : NumberFault → String
  | empty => "cannot parse integer from empty string"
  | invalidDigit => "invalid digit found in string"
  | tooLarge => "number too large to fit in target type"
  | tooSmall => "number too small to fit in target type"
  | notPort text => text ++ " is not in 0..=65535"

/-- The value of decimal digits up to a limit, read from the left; the first fault
counts. -/
def readDigits (limit : Nat) (overflow : NumberFault) (value : Nat) :
    List Char → Except NumberFault Nat
  | [] => .ok value
  | c :: rest =>
    if !c.isDigit then .error .invalidDigit
    else
      let value := value * 10 + (c.toNat - 48)
      if limit < value then .error overflow else readDigits limit overflow value rest

/-- The value of one or more decimal digits up to a limit. -/
def readNumber (limit : Nat) (overflow : NumberFault) (cs : List Char) : Except NumberFault Nat :=
  if cs.isEmpty then .error .invalidDigit else readDigits limit overflow 0 cs

/-- An unsigned number of 64 bits, behind an optional plus sign. -/
def readCount (cs : List Char) : Except NumberFault Nat :=
  match cs with
  | [] => .error .empty
  | '+' :: rest => readNumber (IntegerRange.unsignedBound - 1) .tooLarge rest
  | _ => readNumber (IntegerRange.unsignedBound - 1) .tooLarge cs

/-- A signed number of 64 bits. -/
def readSigned (cs : List Char) : Except NumberFault Int :=
  match cs with
  | [] => .error .empty
  | '+' :: rest => (readNumber (IntegerRange.signedBound - 1) .tooLarge rest).map Int.ofNat
  | '-' :: rest => (readNumber IntegerRange.signedBound .tooSmall rest).map fun n => -(n : Int)
  | _ => (readNumber (IntegerRange.signedBound - 1) .tooLarge cs).map Int.ofNat

/-- A port number, read as a signed number in the range of ports. -/
def readPort (cs : List Char) : Except NumberFault Nat :=
  match readSigned cs with
  | .error fault => .error fault
  | .ok n => if 0 ≤ n ∧ n ≤ 65535 then .ok n.toNat else .error (.notPort (toString n))

/-- The value that a word gives to an argument. -/
def ValueKind.convert (kind : ValueKind) (argument : String) (word : Word) : Except Stop Value :=
  let number (read : List Char → Except NumberFault Nat) : Except Stop Value :=
    match Text.Utf8.decode? word with
    | none => .error .notText
    | some content =>
      match read content.toList with
      | .ok n => .ok (.number n)
      | .error fault => .error (.invalidValue content argument fault.message)
  match kind with
  | .text =>
    match Text.Utf8.decode? word with
    | none => .error .notText
    | some content => .ok (.text content)
  | .path => if word.isEmpty then .error (.missingValue argument) else .ok (.path ⟨word⟩)
  | .count => number readCount
  | .port => number readPort

/-! ## Output -/

/-- What a program leaves behind. -/
structure Output where
  code : Nat := 0
  stdout : String := ""
  stderr : String := ""
  deriving DecidableEq, Repr

namespace Output

/-- The exit code of a command line that is used wrongly. -/
def usageCode : Nat := 2

/-- The exit code of a program that gives up. -/
def abortCode : Nat := 101

/-- The output of a program that gives up before its task. -/
def aborted : Output :=
  { code := abortCode }

/-- A text on a line of its own. -/
def line (text : String) : String :=
  text ++ "\n"

/-- The output of a program that only shows a text. -/
def ofText (text : String) : Output :=
  { stdout := line text }

end Output

end CommandLine
end ProxyControl
