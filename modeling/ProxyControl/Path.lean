import ProxyControl.Text.Pieces
import ProxyControl.Text.Utf8

/-!
# Paths

A path is a string of bytes with slashes between its components.  It need not be text,
and it is never normalized.

Main results:

- Definition `Path.display`: the path as text, ill-formed bytes replaced.
- Definition `Path.join`: a path below another.
- Definition `Path.components`: the names along a path.
- Definition `Path.directory`: the directory that the last name of a path stands in.
-/

namespace ProxyControl

/-- A path, as its bytes. -/
structure Path where
  bytes : List UInt8
  deriving DecidableEq, Repr, Inhabited

namespace Path

/-- The byte of a slash. -/
def slash : UInt8 := 47

/-- The path of a text. -/
def ofText (text : String) : Path :=
  ⟨Text.Utf8.encode text⟩

/-- The path as text; each ill-formed subpart is shown as U+FFFD. -/
def display (p : Path) : String :=
  Text.Utf8.lossy p.bytes

/-- The text of a path that is well formed throughout. -/
def text? (p : Path) : Option String :=
  Text.Utf8.decode? p.bytes

/-- Whether the path starts at the root. -/
def isAbsolute (p : Path) : Bool :=
  p.bytes.head? == some slash

/-- Whether the path is the empty string. -/
def isEmpty (p : Path) : Bool :=
  p.bytes.isEmpty

/-- Whether a slash stands in the path. -/
def hasSlash (p : Path) : Bool :=
  p.bytes.contains slash

/-- Whether a NUL byte stands in the path. -/
def hasNul (p : Path) : Bool :=
  p.bytes.contains 0

/-- Whether the path ends with a slash. -/
def endsWithSlash (p : Path) : Bool :=
  p.bytes.getLast? == some slash

/-- A path below another, with one slash between them; an absolute path stands alone. -/
def join (p q : Path) : Path :=
  if q.isAbsolute then q
  else if p.isEmpty || p.endsWithSlash then ⟨p.bytes ++ q.bytes⟩
  else ⟨p.bytes ++ slash :: q.bytes⟩

/-- The parts of the path between slashes. -/
def parts (p : Path) : List (List UInt8) :=
  Text.Pieces.split slash p.bytes

/-- Whether a part of a path is a name: empty parts and single points are not. -/
def isName (part : List UInt8) : Bool :=
  part ≠ [] ∧ part ≠ [46]

/-- The names along the path; empty parts and parts that stand for the same directory do
not count. -/
def components (p : Path) : List (List UInt8) :=
  p.parts.filter isName

/-- The parts up to the last name. -/
def upToName (parts : List (List UInt8)) : List (List UInt8) :=
  (parts.reverse.dropWhile fun part => !isName part).reverse

/-- The path of the directory that the last name stands in. -/
def directory (p : Path) : Path :=
  let parts := upToName (upToName p.parts).dropLast
  if parts.isEmpty && p.isAbsolute then ⟨[slash]⟩ else ⟨[slash].intercalate parts⟩

end Path
end ProxyControl
