import PageLayout.Text.Position

/-!
# Faults in JSON text

What can be wrong with a text that should be JSON, and where. A failure remembers
the text that was left to read; its place in the whole text follows from that.
-/

namespace PageLayout.Json

/-- What is wrong with a text. -/
inductive Fault where
  | endInList
  | endInObject
  | endInString
  | endInValue
  | expectedColon
  | expectedCommaOrBracket
  | expectedCommaOrBrace
  | expectedIdent
  | expectedValue
  | invalidEscape
  | invalidNumber
  | numberOutOfRange
  | controlCharacter
  | keyNotString
  | loneSurrogate
  | trailingComma
  | trailingText
  | unfinishedSurrogatePair
deriving DecidableEq, Repr

/-- The fault in words. -/
def Fault.message : Fault → String
  | .endInList => "EOF while parsing a list"
  | .endInObject => "EOF while parsing an object"
  | .endInString => "EOF while parsing a string"
  | .endInValue => "EOF while parsing a value"
  | .expectedColon => "expected `:`"
  | .expectedCommaOrBracket => "expected `,` or `]`"
  | .expectedCommaOrBrace => "expected `,` or `\x7d`"
  | .expectedIdent => "expected ident"
  | .expectedValue => "expected value"
  | .invalidEscape => "invalid escape"
  | .invalidNumber => "invalid number"
  | .numberOutOfRange => "number out of range"
  | .controlCharacter => "control character (\\u0000-\\u001F) found while parsing a string"
  | .keyNotString => "key must be a string"
  | .loneSurrogate => "lone leading surrogate in hex escape"
  | .trailingComma => "trailing comma"
  | .trailingText => "trailing characters"
  | .unfinishedSurrogatePair => "unexpected end of hex escape"

/-- A fault and the text left to read when it was found, of which the first `taken`
bytes count as read. -/
structure Failure where
  fault : Fault
  rest : List Char
  taken : Nat
deriving DecidableEq, Repr

/-- The number of bytes of `text` that had been read. -/
def Failure.offset (failure : Failure) (text : List Char) : Nat :=
  min (Text.byteCount text - Text.byteCount failure.rest + failure.taken) (Text.byteCount text)

/-- The position in `text` where the fault was found. -/
def Failure.position (failure : Failure) (text : List Char) : Text.Position :=
  .ofOffset (failure.offset text) text

end PageLayout.Json
