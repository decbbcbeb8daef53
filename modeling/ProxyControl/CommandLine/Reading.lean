import ProxyControl.CommandLine.Grammar

/-!
# Reading command lines

The words of a command line are read from left to right.  A flag takes effect at once.
The value of an option and the words of a positional argument are held back until the
next argument is recognized or the words are over; only then are they looked at.  A word
without a place in the grammar is reported before anything that is held back.

A subcommand reads all words behind its name.  Its faults come before those of the
commands around it.

Main results:

- Definition `Level.feed`: what one word does.
- Definition `Command.read`: the arguments of a command and of its subcommands.
-/

namespace ProxyControl
namespace CommandLine

/-! ## Words -/

/-- The byte of a hyphen. -/
def hyphen : UInt8 := 45

/-- The byte of an equals sign. -/
def equals : UInt8 := 61

/-- The shapes of words. -/
inductive Shape where
  /-- Two hyphens: everything behind them is positional. -/
  | separator
  /-- Two hyphens and a name, and the value behind an equals sign. -/
  | long (name : Word) (value : Option Word)
  /-- One hyphen and a group of letters. -/
  | short (letters : Word)
  | plain
  deriving DecidableEq, Repr

/-- The shape of a word. -/
def shapeOf (word : Word) : Shape :=
  match word with
  | a :: b :: rest =>
    if a = hyphen then
      if b = hyphen then
        if rest.isEmpty then .separator
        else
          let (name, value) := Text.Pieces.cut equals rest
          .long name value
      else .short (b :: rest)
    else .plain
  | _ => .plain

/-- Whether letters look like a number: digits, at most one point that is not the first,
and at most one exponent sign that is neither the first nor the last. -/
def looksNumeric (cs : List Char) : Bool :=
  let mantissa := cs.takeWhile fun c => c ≠ 'e' ∧ c ≠ 'E'
  let exponent := cs.dropWhile fun c => c ≠ 'e' ∧ c ≠ 'E'
  let points := mantissa.count '.'
  mantissa.all (fun c => c.isDigit || c == '.') && decide (points ≤ 1) &&
    mantissa.head? != some '.' &&
    match exponent with
    | [] => true
    | _ :: rest => !mantissa.isEmpty && !rest.isEmpty && rest.all Char.isDigit

/-! ## Levels -/

/-- What held back words belong to. -/
inductive Target where
  | option (o : Valued)
  | positional (p : Positional)
  deriving DecidableEq, Repr

/-- Words that are held back. -/
structure Pending where
  target : Target
  words : List Word
  deriving DecidableEq, Repr

/-- The values that were given, by the names of the arguments. -/
abbrev Given := List (String × List Value)

/-- What has been read at the level of a command. -/
structure Level where
  command : Command
  pending : Option Pending := none
  given : Given := []
  /-- The number of the next positional argument. -/
  position : Nat := 0
  /-- The next word is the value of an option. -/
  awaiting : Bool := false
  /-- Only positional arguments follow. -/
  trailing : Bool := false
  deriving Repr

namespace Level

/-- The values of an argument that was given before. -/
def values (l : Level) (name : String) : Option (List Value) :=
  l.given.lookup name

/-- The level with values given to an argument. -/
def give (l : Level) (name : String) (values : List Value) : Level :=
  { l with given := (name, values) :: l.given.filter fun entry => entry.1 ≠ name }

/-- Gives an option its value. -/
def acceptOption (l : Level) (o : Valued) (words : List Word) : Except Stop Level :=
  if words.isEmpty then .error (.missingValue o.display)
  else if (l.values o.name).isSome then .error (.usedTwice o.display)
  else (words.mapM (o.kind.convert o.display)).map fun values => l.give o.name values

/-- Gives a positional argument its words, in addition to earlier ones. -/
def acceptPositional (l : Level) (p : Positional) (words : List Word) : Except Stop Level :=
  (words.mapM (p.kind.convert p.display)).map fun values =>
    l.give p.name ((l.values p.name).getD [] ++ values)

/-- Looks at the words that are held back. -/
def resolve (l : Level) : Except Stop Level :=
  match l.pending with
  | none => .ok l
  | some ⟨.option o, words⟩ => { l with pending := none }.acceptOption o words
  | some ⟨.positional p, words⟩ => { l with pending := none }.acceptPositional p words

/-- A flag takes effect. -/
def acceptFlag (l : Level) (f : Flag) : Except Stop Level := do
  let l ← l.resolve
  match f.effect with
  | .showHelp => .error (.showHelp l.command.about)
  | .showVersion => .error (.showVersion l.command.version)
  | .set =>
    if (l.values f.name).isSome then .error (.usedTwice f.display)
    else .ok { l.give f.name [.on] with awaiting := false }

/-! ## Arguments with hyphens -/

/-- The stop at an unknown long argument. -/
def unknownLong (name : Word) : Stop :=
  .unexpectedArgument ("--" ++ Text.Utf8.lossy name)

/-- A long argument. -/
def feedLong (l : Level) (name : Word) (value : Option Word) : Except Stop Level :=
  match Text.Utf8.decode? name with
  | none => .error (unknownLong name)
  | some text =>
    match l.command.flags.find? fun f => f.name = text with
    | some f =>
      match value with
      | some v => .error (.unexpectedValue (Text.Utf8.lossy v) f.display)
      | none => l.acceptFlag f
    | none =>
      match l.command.options.find? fun o => o.name = text with
      | none => .error (unknownLong name)
      | some o => do
        let l ← l.resolve
        match value with
        | some v => return { ← l.acceptOption o [v] with awaiting := false }
        | none => return { l with pending := some ⟨.option o, []⟩, awaiting := true }

/-- The letters of a group that are text, and the bytes behind them. -/
def splitLetters (letters : Word) : List Char × Word :=
  match Text.Utf8.fault? letters with
  | none => ((Text.Utf8.lossy letters).toList, [])
  | some fault =>
    ((Text.Utf8.lossy (letters.take fault.validUpTo)).toList, letters.drop fault.validUpTo)

/-- The flags of a group, one after the other. -/
def feedLetters (suffix : Word) : List Char → Level → Except Stop Level
  | [], l =>
    if suffix.isEmpty then .ok l
    else .error (.unexpectedArgument ("-" ++ Text.Utf8.lossy suffix))
  | c :: rest, l =>
    match l.command.flags.find? fun f => f.short = some c with
    | none => .error (.unexpectedArgument ("-" ++ String.singleton c))
    | some f =>
      match l.acceptFlag f with
      | .error stop => .error stop
      | .ok l => feedLetters suffix rest l

/-- The next positional argument. -/
def nextPositional? (l : Level) : Option Positional :=
  l.command.positionals[l.position]?

/-- Whether a group of letters is a negative number that the next positional argument
takes. -/
def takesNegative (l : Level) (letters : Word) : Bool :=
  (l.nextPositional?.any Positional.negative) &&
    match splitLetters letters with
    | (cs, []) => looksNumeric cs
    | _ => false

/-! ## Other words -/

/-- The subcommand of a name. -/
def subcommand? (l : Level) (word : Word) : Option Command :=
  match Text.Utf8.decode? word with
  | none => none
  | some name => l.command.subcommands.find? fun c => c.name = name

/-- Whether a word is the name of a subcommand or asks for help on one. -/
def namesCommand (l : Level) (word : Word) : Bool :=
  (l.subcommand? word).isSome ||
    (!l.command.subcommands.isEmpty && Text.Utf8.decode? word == some "help")

/-- The value of an option. -/
def feedValue (l : Level) (word : Word) : Level :=
  { l with
    pending := l.pending.map fun p => { p with words := p.words ++ [word] }
    awaiting := false }

/-- A word for which there is no positional argument. -/
def surplus (l : Level) (word : Word) : Stop :=
  let shown := Text.Utf8.lossy word
  if l.trailing && l.namesCommand word then .unexpectedArgument shown
  else if l.command.subcommands.isEmpty then .unexpectedArgument shown
  else .unknownCommand shown

/-- A positional word. -/
def feedPositional (l : Level) (word : Word) : Except Stop Level :=
  match l.nextPositional? with
  | none => .error (l.surplus word)
  | some p =>
    match l.pending with
    | some ⟨.positional q, words⟩ =>
      if p = q ∧ p.many then
        .ok { l with pending := some ⟨.positional p, words ++ [word]⟩ }
      else do
        let l ← l.resolve
        return { l with
          pending := some ⟨.positional p, [word]⟩
          position := if p.many then l.position else l.position + 1 }
    | _ => do
      let l ← l.resolve
      return { l with
        pending := some ⟨.positional p, [word]⟩
        position := if p.many then l.position else l.position + 1 }

/-- The help on a subcommand, which is reached by names.  The help on the help command
itself takes no further names. -/
def helpOn (command : Command) : List Word → Stop
  | [] => .showHelp command.about
  | word :: rest =>
    match command.subcommands.find? fun c => Text.Utf8.decode? word = some c.name with
    | some sub => helpOn sub rest
    | none =>
      if !command.subcommands.isEmpty && Text.Utf8.decode? word == some "help" then
        match rest with
        | [] => .showHelp command.about
        | next :: _ => .unknownCommand (Text.Utf8.lossy next)
      else .unknownCommand (Text.Utf8.lossy word)

/-- What a word leads to. -/
inductive Fed where
  /-- More words at the same level. -/
  | stay (l : Level)
  /-- The level of a subcommand. -/
  | enter (sub : Command)

/-- What one word does, given the words behind it. -/
def feed (l : Level) (word : Word) (rest : List Word) : Except Stop Fed :=
  if l.trailing then (l.feedPositional word).map .stay
  else
    match if l.awaiting then none else l.subcommand? word with
    | some sub => .ok (.enter sub)
    | none =>
      if !l.awaiting && l.namesCommand word then .error (helpOn l.command rest)
      else
        match shapeOf word with
        | .separator => .ok (.stay { l with trailing := true })
        | .long name value => (l.feedLong name value).map .stay
        | .short letters =>
          if l.takesNegative letters then
            if l.awaiting then .ok (.stay (l.feedValue word))
            else (l.feedPositional word).map .stay
          else
            let (cs, suffix) := splitLetters letters
            (feedLetters suffix cs l).map .stay
        | .plain =>
          if l.awaiting then .ok (.stay (l.feedValue word))
          else (l.feedPositional word).map .stay

/-- The positional arguments that one word at least is needed for. -/
def missing (l : Level) : List Positional :=
  l.command.positionals.filter fun p => !p.many && (l.values p.name).isNone

/-- The end of the words: nothing may be held back wrongly, and nothing may be missing. -/
def close (l : Level) (entered : Bool) : Except Stop Level := do
  let l ← l.resolve
  if !entered && !l.command.subcommands.isEmpty then
    if l.given.isEmpty then .error (.nothingGiven l.command.about)
    else .error (.missingCommand l.command.fullName)
  else if !l.missing.isEmpty then .error .missingArguments
  else .ok l

end Level

/-! ## Whole command lines -/

/-- The arguments of one command. -/
structure Arguments where
  command : String
  given : Given
  deriving Repr

/-- The words at a level and at the levels of its subcommands, the outermost first. -/
def readFrom (l : Level) : List Word → Except Stop (List Arguments)
  | [] => (l.close false).map fun l => [⟨l.command.name, l.given⟩]
  | word :: rest =>
    match l.feed word rest with
    | .error stop => .error stop
    | .ok (.stay l) => readFrom l rest
    | .ok (.enter sub) =>
      match readFrom { command := sub } rest with
      | .error stop => .error stop
      | .ok inner => (l.close true).map fun l => ⟨l.command.name, l.given⟩ :: inner

/-- The arguments of a command and of its subcommands. -/
def Command.read (c : Command) (words : List Word) : Except Stop (List Arguments) :=
  readFrom { command := c } words

namespace Arguments

/-- The values of an argument at the innermost level where it was given. -/
def innermost? (levels : List Arguments) (name : String) : Option (List Value) :=
  levels.reverse.findSome? fun level => level.given.lookup name

/-- The text of an argument. -/
def text? (levels : List Arguments) (name : String) : Option String :=
  match innermost? levels name with
  | some (.text s :: _) => some s
  | _ => none

/-- The path of an argument. -/
def path? (levels : List Arguments) (name : String) : Option Path :=
  match innermost? levels name with
  | some (.path p :: _) => some p
  | _ => none

/-- The number of an argument. -/
def number? (levels : List Arguments) (name : String) : Option Nat :=
  match innermost? levels name with
  | some (.number n :: _) => some n
  | _ => none

/-- Whether a flag was given. -/
def isOn (levels : List Arguments) (name : String) : Bool :=
  (innermost? levels name).isSome

end Arguments
end CommandLine
end ProxyControl
