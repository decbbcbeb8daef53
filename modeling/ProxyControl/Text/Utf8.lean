/-!
# UTF-8 text in raw bytes

Paths and command-line words are byte strings that need not be text.  Reading one
gives a list of pieces: scalar values, and the maximal ill-formed subparts between
them.  A subpart ends at the first byte that no well-formed sequence could have at
that place; that byte is looked at again as the start of a new piece.

Main results:

- Definition `Utf8.pieces`: the pieces of a byte string.
- Definition `Utf8.decode?`: the text of a byte string that is well formed throughout.
- Definition `Utf8.lossy`: the text with U+FFFD for each ill-formed subpart.
- Theorem `Utf8.lossy_eq_of_decode?`: on well-formed bytes nothing is replaced.
-/

namespace ProxyControl
namespace Text
namespace Utf8

/-- One piece of a byte string. -/
inductive Piece where
  /-- A well-formed sequence and the scalar value it stands for. -/
  | scalar (c : Char)
  /-- A maximal ill-formed subpart, cut off by a byte that cannot continue it. -/
  | invalid (bytes : List UInt8)
  /-- The beginning of a sequence, cut off by the end of the input. -/
  | incomplete (bytes : List UInt8)
  deriving DecidableEq, Repr

/-- A range of bytes that may come next. -/
structure ByteRange where
  low : UInt8
  high : UInt8
  deriving DecidableEq, Repr

namespace ByteRange

/-- Whether a byte lies in the range. -/
def holds (r : ByteRange) (b : UInt8) : Bool :=
  decide (r.low ≤ b) && decide (b ≤ r.high)

/-- The range of continuation bytes. -/
def tail : ByteRange := ⟨0x80, 0xBF⟩

end ByteRange

/-- The beginning of a sequence: the bytes seen, the bits gathered from them, and the
ranges of the bytes still to come. -/
structure Started where
  seen : List UInt8
  value : Nat
  next : ByteRange
  later : List ByteRange
  deriving DecidableEq, Repr

/-- What the first byte of a piece says: it is a piece by itself, or it starts a
sequence. -/
def lead (b : UInt8) : Piece ⊕ Started :=
  if b < 0x80 then .inl (.scalar (Char.ofNat b.toNat))
  else if b < 0xC2 then .inl (.invalid [b])
  else if b < 0xE0 then .inr ⟨[b], b.toNat - 0xC0, .tail, []⟩
  else if b = 0xE0 then .inr ⟨[b], 0, ⟨0xA0, 0xBF⟩, [.tail]⟩
  else if b = 0xED then .inr ⟨[b], 0xD, ⟨0x80, 0x9F⟩, [.tail]⟩
  else if b < 0xF0 then .inr ⟨[b], b.toNat - 0xE0, .tail, [.tail]⟩
  else if b = 0xF0 then .inr ⟨[b], 0, ⟨0x90, 0xBF⟩, [.tail, .tail]⟩
  else if b < 0xF4 then .inr ⟨[b], b.toNat - 0xF0, .tail, [.tail, .tail]⟩
  else if b = 0xF4 then .inr ⟨[b], 4, ⟨0x80, 0x8F⟩, [.tail, .tail]⟩
  else .inl (.invalid [b])

/-- The pieces of the bytes that follow the beginning of a sequence, if there is one. -/
def piecesFrom : Option Started → List UInt8 → List Piece
  | none, [] => []
  | some s, [] => [.incomplete s.seen]
  | none, b :: bytes =>
    match lead b with
    | .inl piece => piece :: piecesFrom none bytes
    | .inr started => piecesFrom (some started) bytes
  | some s, b :: bytes =>
    if s.next.holds b then
      let value := s.value * 64 + (b.toNat - 0x80)
      match s.later with
      | [] => .scalar (Char.ofNat value) :: piecesFrom none bytes
      | next :: later => piecesFrom (some ⟨s.seen ++ [b], value, next, later⟩) bytes
    else
      match lead b with
      | .inl piece => .invalid s.seen :: piece :: piecesFrom none bytes
      | .inr started => .invalid s.seen :: piecesFrom (some started) bytes

/-- The pieces of a byte string. -/
def pieces (bytes : List UInt8) : List Piece :=
  piecesFrom none bytes

/-! ## Reading text -/

namespace Piece

/-- The scalar value of a well-formed piece. -/
def scalar? : Piece → Option Char
  | scalar c => some c
  | _ => none

/-- The scalar value of a well-formed piece, U+FFFD for an ill-formed one. -/
def orReplacement : Piece → Char
  | scalar c => c
  | _ => '\uFFFD'

/-- The bytes that a piece stands for. -/
def bytes : Piece → List UInt8
  | scalar c => String.utf8EncodeChar c
  | invalid bytes => bytes
  | incomplete bytes => bytes

end Piece

/-- The text of a byte string, if it is well formed throughout. -/
def decode? (bytes : List UInt8) : Option String :=
  ((pieces bytes).mapM Piece.scalar?).map String.ofList

/-- The text of a byte string, each ill-formed subpart shown as U+FFFD. -/
def lossy (bytes : List UInt8) : String :=
  String.ofList ((pieces bytes).map Piece.orReplacement)

/-- The bytes of a text. -/
def encode (text : String) : List UInt8 :=
  text.toList.flatMap String.utf8EncodeChar

/-- The values of well-formed pieces are what replacement leaves of them. -/
theorem map_orReplacement_of_mapM_scalar? {ps : List Piece} {cs : List Char}
    (h : ps.mapM Piece.scalar? = some cs) : ps.map Piece.orReplacement = cs := by
  induction ps generalizing cs with
  | nil => simpa using h
  | cons p ps ih =>
    cases p with
    | scalar c =>
      cases hrest : ps.mapM Piece.scalar? with
      | none => simp [List.mapM_cons, Piece.scalar?, hrest] at h
      | some rest =>
        have hcs : c :: rest = cs := by simpa [List.mapM_cons, Piece.scalar?, hrest] using h
        simp [Piece.orReplacement, ih hrest, ← hcs]
    | invalid => simp [List.mapM_cons, Piece.scalar?] at h
    | incomplete => simp [List.mapM_cons, Piece.scalar?] at h

/-- On well-formed bytes nothing is replaced. -/
theorem lossy_eq_of_decode? {bytes : List UInt8} {text : String}
    (h : decode? bytes = some text) : lossy bytes = text := by
  obtain ⟨cs, hcs, rfl⟩ := Option.map_eq_some_iff.1 h
  exact congrArg String.ofList (map_orReplacement_of_mapM_scalar? hcs)

/-! ## The first fault -/

/-- The first ill-formed subpart: the bytes before it, and its length unless the input
ends inside it. -/
structure Fault where
  validUpTo : Nat
  length? : Option Nat
  deriving DecidableEq, Repr

/-- The first ill-formed subpart of a list of pieces that starts at an offset. -/
def firstFault (offset : Nat) : List Piece → Option Fault
  | [] => none
  | .scalar c :: rest => firstFault (offset + c.utf8Size) rest
  | .invalid bytes :: _ => some ⟨offset, some bytes.length⟩
  | .incomplete _ :: _ => some ⟨offset, none⟩

/-- The first ill-formed subpart of a byte string. -/
def fault? (bytes : List UInt8) : Option Fault :=
  firstFault 0 (pieces bytes)

namespace Fault

/-- The description of a fault. -/
def message (f : Fault) : String :=
  match f.length? with
  | some n =>
    "invalid utf-8 sequence of " ++ toString n ++ " bytes from index " ++ toString f.validUpTo
  | none => "incomplete utf-8 byte sequence from index " ++ toString f.validUpTo

end Fault

end Utf8
end Text
end ProxyControl
