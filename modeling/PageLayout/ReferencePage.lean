import PageLayout.Block.Basic
import PageLayout.Markup.Comment
import PageLayout.Markup.Tag
import PageLayout.Markup.Unescape
import PageLayout.Page.Metadata
import PageLayout.Url.Reader

/-!
# Reference pages

A saved copy of a page of the live site shows what the metadata of the site are: the
classes of the first `html` and `body` tags and the stylesheets that are linked. What
the copy does not show is taken from a fallback. Comments are not looked at.
-/

namespace PageLayout

/-- What a page shows of the metadata of its site. -/
structure ReferencePage where
  htmlClass : Option String := none
  bodyClass : Option String := none
  stylesheetUrls : List String := []
deriving DecidableEq, Repr, Inhabited

namespace ReferencePage

open Markup

/-- The class list of the first tag of that name, if it has one. -/
def classOf? (name : String) (markup : List Char) : Option String :=
  ((tags name markup).head?.bind (attribute? "class")).map fun value =>
    Text.trim (String.ofList (unescapeChars value))

/-- Whether a link tag is for a stylesheet and nothing else. -/
def linksStylesheet (tag : List Char) : Bool :=
  (attribute? "rel" tag).any fun value =>
    Block.sameIgnoringCase (String.ofList (Text.trimChars value)) "stylesheet"

/-- The address that a reference stands for: relative to the base if there is one and
the reference can be read, and otherwise as it is written. -/
def resolve (base : Option Url) (reference : String) : String :=
  match base with
  | none => reference
  | some base =>
    match base.join reference with
    | .ok url => url.text
    | .error _ => reference

/-- The address that a tag links as a stylesheet. -/
def stylesheetUrl? (base : Option Url) (tag : List Char) : Option String :=
  if linksStylesheet tag then
    (attribute? "href" tag).map fun value => resolve base (String.ofList (unescapeChars value))
  else none

/-- Append an address unless it is there already. -/
def addUrl (urls : List String) (url : String) : List String :=
  if urls.contains url then urls else urls ++ [url]

/-- The stylesheets that markup links, each once, at its first place. -/
def stylesheetUrlsOf (base : Option Url) (markup : List Char) : List String :=
  ((tags "link" markup).filterMap (stylesheetUrl? base)).foldl addUrl []

/-- What markup shows, its comments left out. -/
def ofChars (base : Option Url) (markup : List Char) : ReferencePage :=
  let visible := dropComments markup
  { htmlClass := classOf? "html" visible
    bodyClass := classOf? "body" visible
    stylesheetUrls := stylesheetUrlsOf base visible }

/-- What markup shows. -/
def ofText (base : Option Url) (markup : String) : ReferencePage := ofChars base markup.toList

/-- The metadata of the site, with the fallback for what the page does not show. -/
def metadata (page : ReferencePage) (fallback : Metadata) : Metadata where
  htmlClass := page.htmlClass.getD fallback.htmlClass
  bodyClass := page.bodyClass.getD fallback.bodyClass
  stylesheetUrls :=
    if page.stylesheetUrls.isEmpty then fallback.stylesheetUrls else page.stylesheetUrls

end ReferencePage

end PageLayout
