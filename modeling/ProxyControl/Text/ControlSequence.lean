/-!
# Control sequences

A terminal takes a control sequence as a command and does not show it.  A sequence
begins with the escape character; what follows decides where it ends.  Text that is
shown elsewhere than on a terminal is stripped of control sequences and of all other
control characters but tabs and line ends.

A sequence is read byte by byte.  The bytes of characters that are not ASCII have no
meaning in it, except that one of them ends the string of a device or of an application.
A tab or a line end inside a sequence is shown, and with it the characters behind it that
are shown outside of sequences; the sequence goes on behind them, unless one of them is
not ASCII.

Main results:

- Definition `ControlSequence.next`: where a character leads to and whether it is shown.
- Definition `ControlSequence.strip`: the text without control sequences.
-/

namespace ProxyControl
namespace Text
namespace ControlSequence

/-- Where a reader is. -/
inductive State where
  /-- Outside of any sequence. -/
  | outside
  /-- Behind the escape character. -/
  | escape
  /-- Inside a sequence of three or more characters. -/
  | intermediate
  /-- Inside the parameters of a command. -/
  | parameters
  /-- Behind the introduction of a string for a device. -/
  | device
  /-- Inside the parameters of a string for a device. -/
  | deviceParameters
  /-- Behind the parameters of a string for a device. -/
  | deviceIntermediate
  /-- Inside a string for a device or an application. -/
  | text
  /-- Inside a string that a bell ends, too. -/
  | title
  deriving DecidableEq, Repr

/-- The escape character. -/
def escape : Char := '\x1b'

/-- Control characters that are shown. -/
def isLayout (c : Char) : Bool :=
  c = '\t' ∨ c = '\n' ∨ c = '\x0c' ∨ c = '\x0d'

/-- Characters that end every sequence and are not shown. -/
def isCancel (c : Char) : Bool :=
  c = '\x18' ∨ c = '\x1a'

/-- The byte that ends the string of a device or of an application. -/
def stringEnd : UInt8 := 0x9C

namespace State

/-- Whether control characters count as part of a string. -/
def holdsControls (state : State) : Bool :=
  state = .device ∨ state = .deviceParameters ∨ state = .deviceIntermediate ∨ state = .text

/-- Where the character behind an escape leads to. -/
def afterEscape (c : Char) : State :=
  if c = '[' then .parameters
  else if c = ']' then .title
  else if c = 'P' then .device
  else if c = 'X' ∨ c = '^' ∨ c = '_' then .text
  else if c.toNat < 0x30 then .intermediate
  else .outside

/-- Where a character of a sequence leads to, if it is ASCII and neither an escape nor a
control character. -/
def within (state : State) (c : Char) : State :=
  match state with
  | .outside => .outside
  | .escape => .afterEscape c
  | .intermediate => if c.toNat < 0x30 then .intermediate else .outside
  | .parameters => if c.toNat < 0x40 then .parameters else .outside
  | .device =>
    if c.toNat < 0x30 then .deviceIntermediate
    else if c.toNat < 0x40 then .deviceParameters
    else .text
  | .deviceParameters =>
    if c.toNat < 0x30 then .deviceIntermediate
    else if c.toNat < 0x3C then .deviceParameters
    else .text
  | .deviceIntermediate => if c.toNat < 0x30 then .deviceIntermediate else .text
  | .text => .text
  | .title => .title

/-- Where a character that is not ASCII leads to. -/
def beyondAscii (state : State) (c : Char) : State :=
  if state = .text ∧ stringEnd ∈ String.utf8EncodeChar c then .outside else state

end State

/-- Where a character leads to and whether it is shown. -/
def next (state : State) (c : Char) : State × Bool :=
  if c = escape then (.escape, false)
  else if isCancel c then (.outside, false)
  else if 0x80 ≤ c.toNat then
    if state = .outside then (.outside, true) else (state.beyondAscii c, false)
  else if c.toNat < 0x20 then
    if state.holdsControls then (state, false)
    else if state = .title then (if c = '\x07' then .outside else .title, false)
    else (state, isLayout c)
  else if c.toNat = 0x7f then (state, false)
  else if state = .outside then (.outside, true)
  else (state.within c, false)

/-- Whether a character is no control character. -/
def isPlain (c : Char) : Bool :=
  decide (0x20 ≤ c.toNat) && decide (c.toNat ≠ 0x7f)

/-- Whether a character is shown outside of sequences. -/
def isShown (c : Char) : Bool :=
  isPlain c || isLayout c

/-- The state behind a character of a run: it waits, but a character beyond ASCII ends
every sequence. -/
def State.behindShown (state : State) (c : Char) : State :=
  if 0x80 ≤ c.toNat then .outside else state

/-- The characters that are shown, from a state on.  Within a run of characters that are
shown the state waits. -/
def stripFrom (state : State) (inRun : Bool) : List Char → List Char
  | [] => []
  | c :: rest =>
    if inRun && isShown c then c :: stripFrom (state.behindShown c) true rest
    else
      match next state c with
      | (state, true) => c :: stripFrom state true rest
      | (state, false) => stripFrom state false rest

/-- The text without control sequences. -/
def strip (text : String) : String :=
  String.ofList (stripFrom .outside false text.toList)

end ControlSequence
end Text
end ProxyControl
