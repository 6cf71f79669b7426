/-!
# Escaped text

Text is placed in element content and in quoted attribute values with five
characters written as entities, so it can neither end a value nor begin a tag.
-/

namespace PageLayout.Markup

/-- A character as it is written in markup. -/
def escapeChar (c : Char) : List Char :=
  if c = '&' then ['&', 'a', 'm', 'p', ';']
  else if c = '<' then ['&', 'l', 't', ';']
  else if c = '>' then ['&', 'g', 't', ';']
  else if c = '"' then ['&', 'q', 'u', 'o', 't', ';']
  else if c = '\'' then ['&', '#', 'x', '2', '7', ';']
  else [c]

/-- A text as it is written in markup. -/
def escape (text : String) : String := String.ofList (text.toList.flatMap escapeChar)

@[simp] theorem toList_escape (text : String) :
    (escape text).toList = text.toList.flatMap escapeChar := by
  simp [escape]

end PageLayout.Markup
