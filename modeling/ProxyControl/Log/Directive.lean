import ProxyControl.Log
import ProxyControl.Text.Alphanumeric
import ProxyControl.Text.Pieces

/-!
# Log directives

A log filter is a text with directives between commas.  A directive sets a threshold for
the sources whose names begin with its target, or for every source if it has none.  It
may be restricted to entries with a field of a name.  Of the directives on an entry the
one with the longest target counts, of equal targets the one with a field, of equal
directives the last one.

Pieces of the text that are no directives are passed over, and so are directives on named
spans and on the values of fields, which say nothing about entries outside of any span.

A piece is looked through without the blanks around it, but its parts are taken from the
piece with them, at the same offsets in bytes.  Where such an offset is inside a
character, the whole filter is broken.

Main results:

- Definition `Directive.ofPiece`: the directive that a piece stands for.
- Definition `Directive.ofFilter?`: the directives of a filter that is not broken.
- Definition `Directive.thresholdFor`: what directives let through of a source.
-/

namespace ProxyControl
namespace Log

/-! ## Thresholds as text -/

namespace Threshold

/-- The threshold of a number, from nothing to everything. -/
def ofNumber? : Nat → Option Threshold
  | 0 => some none
  | 1 => some (some .error)
  | 2 => some (some .warn)
  | 3 => some (some .info)
  | 4 => some (some .debug)
  | 5 => some (some .trace)
  | _ => none

/-- The threshold of a name in lower case. -/
def ofName? : String → Option Threshold
  | "off" => some none
  | "error" => some (some .error)
  | "warn" => some (some .warn)
  | "info" => some (some .info)
  | "debug" => some (some .debug)
  | "trace" => some (some .trace)
  | _ => none

/-- The number of decimal digits, behind an optional plus sign. -/
def number? (cs : List Char) : Option Nat :=
  let digits := match cs with
    | '+' :: rest => rest
    | _ => cs
  if digits.isEmpty || !digits.all Char.isDigit then none
  else some (digits.foldl (fun n c => n * 10 + (c.toNat - 48)) 0)

/-- The threshold that a text stands for: a number, or a name in letters of either case. -/
def ofText? (cs : List Char) : Option Threshold :=
  match number? cs with
  | some n => ofNumber? n
  | none => ofName? (String.ofList (cs.map Char.toLower))

end Threshold

/-! ## Directives -/

/-- A threshold for the sources whose names begin with a target, and of these for the
entries with a field if it names one. -/
structure Directive where
  target : List Char := []
  field : Option (List Char) := none
  threshold : Threshold := some .trace
  deriving DecidableEq, Repr

namespace Directive

/-! ## Pieces -/

/-- Why a piece of a filter gives no directive. -/
inductive PieceFault where
  /-- It says nothing about entries. -/
  | noDirective
  /-- One of its parts begins or ends inside a character. -/
  | insideCharacter
  deriving DecidableEq, Repr

/-- What is read of a piece, with the offset where it starts. -/
inductive Part where
  | nothing
  /-- A threshold or a target. -/
  | source (start : Nat)
  /-- The name of a span. -/
  | span (start : Nat)
  | field (start : Nat)
  | behindField
  | behindSpan
  | threshold (start : Nat)
  deriving DecidableEq, Repr

/-- A directive that is being read. -/
structure Draft where
  part : Part := .nothing
  directive : Directive := {}
  /-- It is restricted to spans of a name. -/
  namesSpan : Bool := false
  deriving DecidableEq, Repr

/-- Whether a directive may begin with a character: a letter, a digit, or one of three
marks. -/
def isStart (c : Char) : Bool :=
  Text.Alphanumeric.isAlphanumeric c || c = '-' || c = ':' || c = '_'

/-- The part of a piece between two offsets. -/
def slice (piece : List Char) (start stop : Nat) : Except PieceFault (List Char) :=
  match Text.ByteSpan.between? start stop piece with
  | some cs => .ok cs
  | none => .error .insideCharacter

/-- The part of a piece behind an offset. -/
def sliceFrom (piece : List Char) (start : Nat) : Except PieceFault (List Char) :=
  match Text.ByteSpan.behind? start piece with
  | some cs => .ok cs
  | none => .error .insideCharacter

/-- Reads a character at an offset. -/
def Draft.read (piece : List Char) (d : Draft) (offset : Nat) (c : Char) :
    Except PieceFault Draft := do
  match d.part with
  | .nothing =>
    if c = '[' then return { d with part := .span (offset + 1) }
    else if isStart c then return { d with part := .source offset }
    else throw .noDirective
  | .source start =>
    if c = '=' then
      let target ← slice piece start offset
      return { d with part := .threshold (offset + 1), directive := { target := target } }
    else if c = '[' then
      let target ← slice piece start offset
      return { d with part := .span (offset + 1), directive := { target := target } }
    else return d
  | .span start =>
    if c = ']' then
      let _ ← slice piece start offset
      return { d with part := .behindSpan, namesSpan := true }
    else if c = '\x7b' then
      let name ← slice piece start offset
      return { d with part := .field (offset + 1), namesSpan := !name.isEmpty }
    else return d
  | .field start =>
    if c = '\x7d' then
      let field ← slice piece start offset
      if field.isEmpty then throw .noDirective
      return { d with part := .behindField, directive := { d.directive with field := field } }
    else return d
  | .behindField => if c = ']' then return { d with part := .behindSpan } else throw .noDirective
  | .behindSpan =>
    if c = '=' then return { d with part := .threshold (offset + 1) } else throw .noDirective
  | .threshold _ => return d

/-- Reads characters from an offset on. -/
def Draft.readAll (piece : List Char) (d : Draft) (offset : Nat) :
    List Char → Except PieceFault Draft
  | [] => .ok d
  | c :: rest =>
    match d.read piece offset c with
    | .ok d => readAll piece d (offset + c.utf8Size) rest
    | .error fault => .error fault

/-- The directive of a draft at the end of its piece. -/
def Draft.finish (piece : List Char) (d : Draft) : Except PieceFault Directive := do
  match d.part with
  | .source start =>
    let text ← sliceFrom piece start
    match Threshold.ofText? text with
    | some threshold => return { threshold := threshold }
    | none => return { target := text }
  | .threshold start =>
    let text ← sliceFrom piece start
    if text.isEmpty then return d.directive
    match Threshold.ofText? text with
    | some threshold => return { d.directive with threshold := threshold }
    | none => throw .noDirective
  | .behindSpan => return d.directive
  | _ => throw .noDirective

/-- Whether a draft is about spans, or about the value of a field. -/
def Draft.isAside (d : Draft) : Bool :=
  d.namesSpan || d.directive.field.any fun field => field.contains '='

/-- The directive that a piece of a filter stands for: a threshold, a target, or both
around an equals sign, where a field may stand behind the target. -/
def ofPiece (piece : List Char) : Except PieceFault Directive := do
  let draft ← Draft.readAll piece {} 0 (Text.Blank.trimList piece)
  let directive ← draft.finish piece
  if draft.isAside then throw .noDirective
  return directive

/-! ## Filters -/

/-- The directives of pieces, unless one of them is broken. -/
def ofPieces? : List (List Char) → Option (List Directive)
  | [] => some []
  | piece :: rest =>
    match ofPiece piece with
    | .ok directive => (ofPieces? rest).map (directive :: ·)
    | .error .noDirective => ofPieces? rest
    | .error .insideCharacter => none

/-- The directives of a filter, unless it is broken. -/
def ofFilter? (text : String) : Option (List Directive) :=
  ofPieces? (Text.Pieces.split ',' text.toList)

/-! ## Entries -/

/-- The field that holds the text of an entry; entries have no other one. -/
def textField : List Char := "message".toList

/-- Whether a directive is on the entries of a source. -/
def covers (d : Directive) (source : String) : Bool :=
  d.target.isPrefixOf source.toList && d.field.all fun field => field = textField

/-- Whether a directive counts against an earlier one on the same entries. -/
def replaces (d earlier : Directive) : Bool :=
  decide (earlier.target.length < d.target.length) ||
    (decide (earlier.target.length = d.target.length) &&
      (d.field.isSome || earlier.field.isNone))

/-- Of two directives on an entry, the one that counts. -/
def stronger (earlier : Option Directive) (d : Directive) : Option Directive :=
  match earlier with
  | none => some d
  | some e => if d.replaces e then some d else some e

/-- The directive that counts for a source. -/
def governing? (ds : List Directive) (source : String) : Option Directive :=
  (ds.filter fun d => d.covers source).foldl stronger none

/-- What directives let through of a source. -/
def thresholdFor (ds : List Directive) (source : String) : Threshold :=
  (governing? ds source).bind Directive.threshold

end Directive
end Log
end ProxyControl
