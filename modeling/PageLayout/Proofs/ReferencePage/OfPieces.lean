import PageLayout.Proofs.Assoc
import PageLayout.Proofs.Markup.Pieces
import PageLayout.ReferencePage

/-!
# Reference pages that begin in pieces

What a page shows is decided from its front. When markup begins with a row of pieces, the
first piece of a name supplies the class list, whatever follows the row, and the stylesheets
that the pieces link come before all others.
-/

namespace PageLayout.ReferencePage

open Markup

@[simp] theorem htmlClass_ofChars (base : Option Url) (markup : List Char) :
    (ofChars base markup).htmlClass = classOf? "html" (dropComments markup) := rfl

@[simp] theorem bodyClass_ofChars (base : Option Url) (markup : List Char) :
    (ofChars base markup).bodyClass = classOf? "body" (dropComments markup) := rfl

@[simp] theorem stylesheetUrls_ofChars (base : Option Url) (markup : List Char) :
    (ofChars base markup).stylesheetUrls = stylesheetUrlsOf base (dropComments markup) := rfl

theorem addUrl_eraseDups (urls : List String) (url : String) :
    addUrl urls.eraseDups url = (urls ++ [url]).eraseDups := by
  rw [Assoc.eraseDups_concat, addUrl]
  simp only [List.contains_iff_mem, List.mem_eraseDups]

theorem foldl_addUrl (before urls : List String) :
    urls.foldl addUrl before.eraseDups = (before ++ urls).eraseDups := by
  induction urls generalizing before with
  | nil => rw [List.foldl_nil, List.append_nil]
  | cons url urls ih =>
      rw [List.foldl_cons, addUrl_eraseDups, ih, List.append_assoc, List.singleton_append]

/-- The linked stylesheets are those of the tags, without the later duplicates. -/
theorem stylesheetUrlsOf_eq (base : Option Url) (markup : List Char) :
    stylesheetUrlsOf base markup =
      ((tags "link" markup).filterMap (stylesheetUrl? base)).eraseDups :=
  foldl_addUrl [] _

variable {pieces : List Piece} (plain : ∀ piece ∈ pieces, piece.Plain) (rest : List Char)

include plain

/-- The tags of markup that begins in pieces. -/
theorem tags_pieces {name : String} (h : '>' ∉ name.toList) :
    tags name (dropComments (pieces.flatMap Piece.chars ++ rest)) =
      (pieces.filter (Piece.isNamed name.toList)).map Piece.tag ++
        tags name (dropComments rest) := by
  rw [tags, dropComments_pieces plain, tagsFrom_pieces h plain]
  rfl

/-- The first piece of a name has the class list. -/
theorem classOf?_pieces {name : String} (h : '>' ∉ name.toList) {piece : Piece}
    {others : List Piece} (named : pieces.filter (Piece.isNamed name.toList) = piece :: others) :
    classOf? name (dropComments (pieces.flatMap Piece.chars ++ rest)) =
      (attribute? "class" piece.tag).map fun value =>
        Text.trim (String.ofList (unescapeChars value)) := by
  rw [classOf?, tags_pieces plain rest h, named]
  rfl

/-- The stylesheets that pieces link are the first ones. -/
theorem stylesheetUrls_pieces (base : Option Url) :
    ((pieces.filter (Piece.isNamed "link".toList)).filterMap fun piece =>
        stylesheetUrl? base piece.tag).eraseDups <+:
      (ofChars base (pieces.flatMap Piece.chars ++ rest)).stylesheetUrls := by
  rw [stylesheetUrls_ofChars, stylesheetUrlsOf_eq, tags_pieces plain rest (by decide),
    List.filterMap_append, List.filterMap_map, List.eraseDups_append]
  exact List.prefix_append _ _

end PageLayout.ReferencePage
