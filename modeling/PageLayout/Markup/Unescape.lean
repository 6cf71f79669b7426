import PageLayout.Text.Search

/-!
# Entities

Reads text as it is written in markup. The five characters that escaping writes as
entities are restored, an apostrophe also from its decimal code. The ampersand comes
last, so what it restores is not read as an entity again.
-/

namespace PageLayout.Markup

/-- The entities that are read, in the order of their replacement. -/
def entities : List (List Char × Char) :=
  [(['&', 'q', 'u', 'o', 't', ';'], '"'), (['&', '#', 'x', '2', '7', ';'], '\''),
    (['&', '#', '3', '9', ';'], '\''), (['&', 'l', 't', ';'], '<'), (['&', 'g', 't', ';'], '>'),
    (['&', 'a', 'm', 'p', ';'], '&')]

/-- Restore the characters that are written as entities, one entity after another. -/
def unescapeChars (text : List Char) : List Char :=
  entities.foldl (fun text entity => Text.replaceAll entity.1 [entity.2] text) text

/-- Restore the characters that are written as entities. -/
def unescape (text : String) : String := String.ofList (unescapeChars text.toList)

@[simp] theorem toList_unescape (text : String) :
    (unescape text).toList = unescapeChars text.toList := by
  simp [unescape]

end PageLayout.Markup
