import Mathlib.Data.List.DropRight
import PageLayout.Text.Position

/-!
# Positions and bytes

A position counts bytes. Its line is one more than the number of line feeds that were read, and
its column is the number of bytes that were read since the last of them. So the lines before it
and its column are together all that was read, and the offset that a position is converted back
to is that of the byte that was read last. At the beginning of a line no byte of the line was read
yet, and the offset is that of its first byte.

A line feed is a byte of its own, and no other character has one among its bytes.
-/

namespace PageLayout.Text

/-- The byte that ends a line. -/
def lineFeed : UInt8 := 10

/-- The bytes of a text in UTF-8. -/
def bytesOf (text : List Char) : List UInt8 := text.flatMap String.utf8EncodeChar

/-- The position behind some bytes. -/
def Position.behind (bytes : List UInt8) : Position where
  line := 1 + bytes.count lineFeed
  column := (bytes.rtakeWhile (· ≠ lineFeed)).length

/-- The index of the byte that was read last when `index` bytes were read, unless a line begins
there. -/
def lastRead (bytes : List UInt8) (index : Nat) : Nat :=
  if (Position.behind (bytes.take index)).column = 0 then index else index - 1

/-! ## Bytes of a text -/

@[simp] theorem bytesOf_nil : bytesOf [] = [] := rfl

theorem bytesOf_cons (c : Char) (text : List Char) :
    bytesOf (c :: text) = String.utf8EncodeChar c ++ bytesOf text := rfl

theorem bytesOf_lineFeed (text : List Char) :
    bytesOf ('\n' :: text) = lineFeed :: bytesOf text := rfl

theorem toList_toByteArray (text : String) :
    text.toByteArray.data.toList = bytesOf text.toList := by
  rw [← String.utf8Encode_toList, List.utf8Encode, List.data_toByteArray, bytesOf]

theorem length_bytesOf (text : List Char) : (bytesOf text).length = byteCount text := by
  induction text with
  | nil => rfl
  | cons c text ih =>
      rw [bytesOf_cons, List.length_append, String.length_utf8EncodeChar, byteCount_cons, ih]

theorem utf8ByteSize_eq (text : String) : text.utf8ByteSize = byteCount text.toList := by
  rw [← length_bytesOf, ← toList_toByteArray]
  rfl

/-- A character of several bytes has none in the range of ASCII. -/
theorem lineFeed_not_mem_utf8EncodeChar {c : Char} (h : c ≠ '\n') :
    lineFeed ∉ String.utf8EncodeChar c := by
  have other : c.val.toNat ≠ 10 := fun same => h (Char.toNat_inj.mp same)
  have apart {n : Nat} (byte : n < 256) (ne : n ≠ 10) : lineFeed ≠ UInt8.ofNat n := by
    intro same
    have number := congrArg UInt8.toNat same
    rw [UInt8.toNat_ofNat_of_lt' byte] at number
    exact ne number.symm
  simp only [String.utf8EncodeChar]
  split
  · simp only [List.mem_singleton]
    exact apart (by omega) other
  split
  · simp only [List.mem_cons, List.not_mem_nil, or_false, not_or]
    exact ⟨apart (by omega) (by omega), apart (by omega) (by omega)⟩
  split
  · simp only [List.mem_cons, List.not_mem_nil, or_false, not_or]
    exact ⟨apart (by omega) (by omega), apart (by omega) (by omega), apart (by omega) (by omega)⟩
  · simp only [List.mem_cons, List.not_mem_nil, or_false, not_or]
    exact ⟨apart (by omega) (by omega), apart (by omega) (by omega), apart (by omega) (by omega),
      apart (by omega) (by omega)⟩

/-! ## Reading byte by byte -/

namespace Position

/-- The position behind one more byte. -/
def next (position : Position) (byte : UInt8) : Position :=
  if byte = lineFeed then ⟨position.line + 1, 0⟩ else ⟨position.line, position.column + 1⟩

theorem foldl_next_of_not_mem {bytes : List UInt8} (h : lineFeed ∉ bytes) (start : Position) :
    bytes.foldl next start = ⟨start.line, start.column + bytes.length⟩ := by
  induction bytes generalizing start with
  | nil => rfl
  | cons byte bytes ih =>
      rw [List.mem_cons, not_or] at h
      rw [List.foldl_cons, next, if_neg (Ne.symm h.1), ih h.2, List.length_cons, Nat.add_assoc,
        Nat.add_comm 1]

/-- Going over characters is going over their bytes. -/
theorem advance_eq_foldl (start : Position) (offset : Nat) (text : List Char) :
    advance start offset text = ((bytesOf text).take offset).foldl next start := by
  induction text generalizing start offset with
  | nil => cases offset <;> simp [advance]
  | cons c text ih =>
      cases offset with
      | zero => simp [advance]
      | succ offset =>
          by_cases feed : c = '\n'
          · subst feed
            rw [advance, if_pos rfl, ih, bytesOf_lineFeed, List.take_succ_cons, List.foldl_cons,
              next, if_pos rfl]
          · have free : lineFeed ∉ (String.utf8EncodeChar c).take (offset + 1) :=
              fun among => lineFeed_not_mem_utf8EncodeChar feed (List.mem_of_mem_take among)
            rw [advance, if_neg feed, ih, bytesOf_cons, List.take_append, List.foldl_append,
              foldl_next_of_not_mem free, List.length_take, String.length_utf8EncodeChar,
              Nat.min_comm]

theorem behind_concat (bytes : List UInt8) (byte : UInt8) :
    behind (bytes ++ [byte]) = (behind bytes).next byte := by
  rw [next, behind, behind]
  by_cases feed : byte = lineFeed
  · simp [feed, Nat.add_assoc]
  · simp [feed]

theorem foldl_next_eq_behind (bytes : List UInt8) : bytes.foldl next ⟨1, 0⟩ = behind bytes := by
  induction bytes using List.reverseRecOn with
  | nil => rfl
  | append_singleton bytes byte ih => rw [List.foldl_concat, ih, behind_concat]

/-- The position of an offset is the one behind as many bytes. -/
theorem ofOffset_eq_behind (offset : Nat) (text : List Char) :
    ofOffset offset text = behind ((bytesOf text).take offset) := by
  rw [ofOffset, advance_eq_foldl, foldl_next_eq_behind]

end Position

/-! ## Lines -/

/-- The number of bytes in the first `lines` lines, line feeds included. -/
def linesSize : Nat → List UInt8 → Nat
  | 0, _ => 0
  | _ + 1, [] => 0
  | lines + 1, byte :: bytes =>
    1 + if byte = lineFeed then linesSize lines bytes else linesSize (lines + 1) bytes

@[simp] theorem linesSize_zero (bytes : List UInt8) : linesSize 0 bytes = 0 := by
  cases bytes <;> rfl

/-- Bytes without a line feed belong to the first line. -/
theorem linesSize_append {front : List UInt8} (free : lineFeed ∉ front) (lines : Nat)
    (rest : List UInt8) :
    linesSize (lines + 1) (front ++ rest) = front.length + linesSize (lines + 1) rest := by
  induction front with
  | nil => simp
  | cons byte front ih =>
      rw [List.mem_cons, not_or] at free
      rw [List.cons_append, linesSize, if_neg (Ne.symm free.1), ih free.2, List.length_cons,
        Nat.add_comm front.length 1, Nat.add_assoc]

theorem lineStart_eq_linesSize (lines : Nat) (text : List Char) :
    lineStart lines text = linesSize lines (bytesOf text) := by
  induction text generalizing lines with
  | nil => cases lines <;> rfl
  | cons c text ih =>
      cases lines with
      | zero => rw [linesSize_zero, lineStart]
      | succ lines =>
          by_cases feed : c = '\n'
          · subst feed
            have size : '\n'.utf8Size = 1 := rfl
            rw [lineStart, if_pos rfl, bytesOf_lineFeed, linesSize, if_pos rfl, size, ih]
          · rw [lineStart, if_neg feed, bytesOf_cons,
              linesSize_append (lineFeed_not_mem_utf8EncodeChar feed),
              String.length_utf8EncodeChar, ih]

/-- The line that a line feed ends is the last of the lines before it. -/
theorem linesSize_lineFeed (front rest : List UInt8) :
    linesSize (front.count lineFeed + 1) (front ++ lineFeed :: rest) = front.length + 1 := by
  induction front with
  | nil => simp [linesSize]
  | cons byte front ih =>
      by_cases feed : byte = lineFeed <;> simp [linesSize, feed, ih, Nat.add_comm 1]

/-- The lines that have ended and the column make up all that was read. What follows does not
matter, so that the induction can move bytes from one side to the other. -/
theorem linesSize_behind (front rest : List UInt8) :
    linesSize ((Position.behind front).line - 1) (front ++ rest) +
      (Position.behind front).column = front.length := by
  induction front using List.reverseRecOn generalizing rest with
  | nil => exact congrArg (· + 0) (linesSize_zero rest)
  | append_singleton front byte ih =>
      rw [Position.behind_concat, Position.next, List.append_assoc, List.singleton_append,
        List.length_append, List.length_singleton]
      by_cases feed : byte = lineFeed
      · subst feed
        have lines : (Position.behind front).line + 1 - 1 = front.count lineFeed + 1 := by
          rw [Nat.add_sub_cancel, Position.behind, Nat.add_comm]
        rw [if_pos rfl, lines, linesSize_lineFeed, Nat.add_zero]
      · rw [if_neg feed, ← Nat.add_assoc, ih (byte :: rest)]

/-- A position is converted back to the byte that was read last. -/
theorem offset_behind {text : List Char} {index : Nat} (h : index ≤ byteCount text) :
    (Position.behind ((bytesOf text).take index)).offset text = lastRead (bytesOf text) index := by
  have split := linesSize_behind ((bytesOf text).take index) ((bytesOf text).drop index)
  rw [List.take_append_drop, ← lineStart_eq_linesSize, List.length_take, length_bytesOf,
    Nat.min_eq_left h] at split
  rw [Position.offset, lastRead]
  split <;> omega

end PageLayout.Text
