import ProxyControl.Decimal.Shortest
import ProxyControl.Json.Basic

/-!
# Writing JSON

A value is written on one line without blanks, or with one member or item a line and
two blanks for each level.  Quotes, backslashes and the characters below U+0020 are
escaped, all others stand for themselves.  A real that is not finite is written as null.

Main results:

- Definition `Json.realLayout`: where reals have an exponent.
- Definition `Json.toText`: the text on one line.
- Definition `Json.toLines`: the text over several lines.
-/

namespace ProxyControl
namespace Json

/-- Reals from 0.00001 up to below 10^16 have no exponent; a positive exponent has a
plus sign. -/
def realLayout : Shortest.Layout := ⟨-5, 16, "+"⟩

/-- A hexadecimal digit in lower case. -/
def hexDigit (n : Nat) : Char :=
  if n < 10 then Char.ofNat (48 + n) else Char.ofNat (87 + n)

/-- A character inside a string. -/
def escape (c : Char) : List Char :=
  if c = '"' then ['\\', '"']
  else if c = '\\' then ['\\', '\\']
  else if c = '\x08' then ['\\', 'b']
  else if c = '\x0c' then ['\\', 'f']
  else if c = '\n' then ['\\', 'n']
  else if c = '\r' then ['\\', 'r']
  else if c = '\t' then ['\\', 't']
  else if c.toNat < 0x20 then
    ['\\', 'u', '0', '0', hexDigit (c.toNat / 16), hexDigit (c.toNat % 16)]
  else [c]

/-- A string in quotes. -/
def quoted (s : String) : List Char :=
  '"' :: (s.toList.flatMap escape ++ ['"'])

/-- The digits of an integer, behind a minus sign if it is negative. -/
def intChars (n : Int) : List Char :=
  if n < 0 then '-' :: Nat.toDigits 10 n.natAbs else Nat.toDigits 10 n.natAbs

/-- A value that has no parts. -/
def scalarChars : Json → List Char
  | bool true => ['t', 'r', 'u', 'e']
  | bool false => ['f', 'a', 'l', 's', 'e']
  | int n => intChars n
  | real x => if x.isFinite then Shortest.text realLayout x else ['n', 'u', 'l', 'l']
  | str s => quoted s
  | _ => ['n', 'u', 'l', 'l']

/-! ## On one line -/

mutual

/-- The characters of a value on one line. -/
def chars : Json → List Char
  | arr items => '[' :: (itemChars items ++ [']'])
  | obj members => '\x7b' :: (memberChars members ++ ['\x7d'])
  | value => scalarChars value

/-- The characters of the items of an array, with commas between them. -/
def itemChars : List Json → List Char
  | [] => []
  | [item] => item.chars
  | item :: rest => item.chars ++ ',' :: itemChars rest

/-- The characters of the members of an object, with commas between them. -/
def memberChars : List (String × Json) → List Char
  | [] => []
  | [(key, value)] => quoted key ++ ':' :: value.chars
  | (key, value) :: rest => quoted key ++ ':' :: (value.chars ++ ',' :: memberChars rest)

end

/-- The text of a value on one line. -/
def toText (value : Json) : String :=
  String.ofList value.chars

/-! ## Over several lines -/

/-- A new line at a level. -/
def newLine (level : Nat) : List Char :=
  '\n' :: List.replicate (2 * level) ' '

mutual

/-- The characters of a value that begins at a level. -/
def lineChars (level : Nat) : Json → List Char
  | arr [] => ['[', ']']
  | arr items => '[' :: (itemLineChars (level + 1) items ++ newLine level ++ [']'])
  | obj [] => ['\x7b', '\x7d']
  | obj members => '\x7b' :: (memberLineChars (level + 1) members ++ newLine level ++ ['\x7d'])
  | value => scalarChars value

/-- The characters of items, each on lines of its own. -/
def itemLineChars (level : Nat) : List Json → List Char
  | [] => []
  | [item] => newLine level ++ lineChars level item
  | item :: rest => newLine level ++ lineChars level item ++ ',' :: itemLineChars level rest

/-- The characters of members, each on lines of its own. -/
def memberLineChars (level : Nat) : List (String × Json) → List Char
  | [] => []
  | [(key, value)] => newLine level ++ quoted key ++ [':', ' '] ++ lineChars level value
  | (key, value) :: rest =>
    newLine level ++ quoted key ++ [':', ' '] ++ lineChars level value ++
      ',' :: memberLineChars level rest

end

/-- The text of a value over several lines. -/
def toLines (value : Json) : String :=
  String.ofList (lineChars 0 value)

end Json
end ProxyControl
