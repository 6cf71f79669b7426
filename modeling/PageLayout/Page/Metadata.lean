/-!
# Page metadata

What a page takes from the site it belongs to: classes for its two outermost
elements and the stylesheets it links.
-/

namespace PageLayout

/-- The class lists of the document and its body, and the addresses of stylesheets. -/
structure Metadata where
  htmlClass : String := ""
  bodyClass : String := ""
  stylesheetUrls : List String := []
deriving DecidableEq, Repr, Inhabited

end PageLayout
