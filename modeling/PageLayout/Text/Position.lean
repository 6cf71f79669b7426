/-!
# Positions in a text

Offsets count the bytes of the UTF-8 form. A position is a line, counted from one,
and a column, the number of bytes behind the last line break before it. Converting a
position back gives the offset of the byte that was read last, so an error points at
the byte it came from.
-/

namespace PageLayout.Text

/-- The number of bytes of a list of characters in UTF-8. -/
def byteCount : List Char → Nat
  | [] => 0
  | c :: cs => c.utf8Size + byteCount cs

/-- A line, counted from one, and a column in bytes. -/
structure Position where
  line : Nat
  column : Nat
deriving DecidableEq, Repr

/-- The position `offset` bytes behind `start`, which stands before `cs`. -/
def Position.advance (start : Position) : Nat → List Char → Position
  | 0, _ => start
  | _, [] => start
  | offset + 1, c :: cs =>
    if c = '\n' then Position.advance ⟨start.line + 1, 0⟩ offset cs
    else
      Position.advance ⟨start.line, start.column + min c.utf8Size (offset + 1)⟩
        (offset + 1 - c.utf8Size) cs

/-- The position of the byte offset in the text. -/
def Position.ofOffset (offset : Nat) (text : List Char) : Position :=
  Position.advance ⟨1, 0⟩ offset text

/-- The number of bytes in the first `lines` lines, line breaks included. -/
def lineStart : Nat → List Char → Nat
  | 0, _ => 0
  | _, [] => 0
  | lines + 1, c :: cs =>
    c.utf8Size + (if c = '\n' then lineStart lines cs else lineStart (lines + 1) cs)

/-- The offset of the byte read last at a position, within the bounds of the text. -/
def Position.offset (position : Position) (text : List Char) : Nat :=
  min (lineStart (position.line - 1) text + (position.column - 1)) (byteCount text)

@[simp] theorem byteCount_cons (c : Char) (cs : List Char) :
    byteCount (c :: cs) = c.utf8Size + byteCount cs := rfl

theorem Position.offset_le (position : Position) (text : List Char) :
    position.offset text ≤ byteCount text :=
  Nat.min_le_right ..

end PageLayout.Text
