import PageLayout.Proofs.FirstOccurrences
import PageLayout.Proofs.Markup.Joined
import PageLayout.Proofs.ReferencePage.OfPieces

/-!
# Joined reference pages

When closed markup without comments is put before other markup, each part shows what it shows
alone: the first tag of a name is that of the first part if there is one, and otherwise that of the
second, and the stylesheets of the first part come before those of the second that are new. The
addresses of any page are distinct and none is empty, also when they are resolved.
-/

namespace PageLayout

/-! ## Addresses -/

theorem Url.text_ne_empty (url : Url) : url.text ≠ "" := by
  intro empty
  have colon : ':' ∈ url.text.toList := by
    simp only [Url.text, String.toList_append, List.mem_append]
    simp
  rw [empty] at colon
  cases colon

namespace Markup

theorem decode_ne_nil {text : List Char} (h : text ≠ []) : decode text ≠ [] := by
  cases text with
  | nil => exact absurd rfl h
  | cons c cs =>
      rw [decode, decodeFrom]
      split <;> exact List.cons_ne_nil _ _

end Markup

namespace ReferencePage

open Markup

theorem resolve_ne_empty {reference : String} (h : reference ≠ "") (base : Option Url) :
    resolve base reference ≠ "" := by
  cases base with
  | none => exact h
  | some base =>
      rw [resolve]
      cases base.join reference with
      | ok url => exact url.text_ne_empty
      | error error => exact h

/-- An address comes from a reference that is not empty. -/
theorem stylesheetUrl?_ne_empty {base : Option Url} {tag : List Char} {url : String}
    (linked : stylesheetUrl? base tag = some url) : url ≠ "" := by
  rw [stylesheetUrl?] at linked
  split at linked
  · obtain ⟨value, found, rfl⟩ := Option.map_eq_some_iff.mp linked
    rw [attribute?] at found
    have nonempty : value ≠ [] := by simpa using (Option.filter_eq_some_iff.mp found).2
    have decoded : String.ofList (unescapeChars value) ≠ "" := by
      rw [ne_eq, ← String.toList_eq_nil_iff, String.toList_ofList, unescapeChars_eq_decode]
      exact decode_ne_nil nonempty
    exact resolve_ne_empty decoded base
  · cases linked

theorem nodup_stylesheetUrlsOf (base : Option Url) (markup : List Char) :
    (stylesheetUrlsOf base markup).Nodup := by
  rw [stylesheetUrlsOf_eq]
  exact nodup_eraseDups _

theorem empty_not_mem_stylesheetUrlsOf (base : Option Url) (markup : List Char) :
    "" ∉ stylesheetUrlsOf base markup := by
  rw [stylesheetUrlsOf_eq, List.mem_eraseDups, List.mem_filterMap]
  rintro ⟨tag, -, linked⟩
  exact stylesheetUrl?_ne_empty linked rfl

/-! ## Joined markup -/

/-- What two parts show of a class when they are joined, depending on whether the first part has a
tag of the name. -/
structure JoinsClass (tagged : Prop) (front behind joined : Option String) : Prop where
  /-- A class that the first part shows is shown. -/
  kept : ∀ text, front = some text → joined = some text
  /-- A tag of the first part decides alone. -/
  first : tagged → joined = front
  /-- Without one it is the second part that decides. -/
  second : ¬ tagged → joined = behind

/-- What a page shows when closed markup without comments stands before other markup. -/
structure Joins (markup : String) (front behind joined : ReferencePage) : Prop where
  htmlClass : JoinsClass (HasTag "html" markup.toList) front.htmlClass behind.htmlClass
    joined.htmlClass
  bodyClass : JoinsClass (HasTag "body" markup.toList) front.bodyClass behind.bodyClass
    joined.bodyClass
  stylesheetUrls : joined.stylesheetUrls = front.stylesheetUrls ++
    behind.stylesheetUrls.filter fun url => url ∉ front.stylesheetUrls

section

variable {left : List Char} (closed : Closed left) (right : List Char)

include closed

theorem joinsClass_closed {name : String} (letters : '>' ∉ name.toList) :
    JoinsClass (HasTag name left) (classOf? name left) (classOf? name right)
      (classOf? name (left ++ right)) := by
  have joined := tags_closed letters closed right
  have decides : tags name left ≠ [] → classOf? name (left ++ right) = classOf? name left := by
    intro tagged
    obtain ⟨tag, others, split⟩ := List.exists_cons_of_ne_nil tagged
    rw [classOf?, classOf?, joined, split]
    rfl
  refine ⟨fun text shown => ?_, fun tagged => ?_, fun untagged => ?_⟩
  · have tagged : tags name left ≠ [] := by
      intro without
      rw [classOf?, without] at shown
      cases shown
    rw [decides tagged, shown]
  · exact decides fun without => tags_eq_nil_iff.mp without tagged
  · rw [classOf?, classOf?, joined, tags_eq_nil_iff.mpr untagged, List.nil_append]

theorem stylesheetUrlsOf_closed (base : Option Url) :
    stylesheetUrlsOf base (left ++ right) = stylesheetUrlsOf base left ++
      (stylesheetUrlsOf base right).filter fun url => url ∉ stylesheetUrlsOf base left := by
  rw [stylesheetUrlsOf_eq, stylesheetUrlsOf_eq, stylesheetUrlsOf_eq,
    tags_closed (by decide) closed right, List.filterMap_append, eraseDups_append_filter]

end

/-- Two parts of a page show what they show alone, the first part before the second, and whatever
the page is its addresses are distinct and not empty. -/
theorem ofText_append (base : Option Url) :
    (∀ front behind : String, Text.contains front "<!--" = false → Closed front.toList →
      Joins front (ofText base front) (ofText base behind) (ofText base (front ++ behind))) ∧
    ∀ markup : String, (ofText base markup).stylesheetUrls.Nodup ∧
      "" ∉ (ofText base markup).stylesheetUrls := by
  constructor
  · intro front behind fresh closed
    have fresh : ¬ commentOpening <:+: front.toList := by
      have opening : "<!--".toList = commentOpening := rfl
      rw [← opening, ← Text.contains_iff_infix, fresh]
      exact Bool.false_ne_true
    have kept (right : List Char) :
        dropComments (front.toList ++ right) = front.toList ++ dropComments right :=
      dropComments_closed fresh closed
    have alone := kept []
    rw [List.append_nil, dropComments_nil, List.append_nil] at alone
    have whole := kept behind.toList
    refine ⟨?_, ?_, ?_⟩
    · simp only [ofText, htmlClass_ofChars, String.toList_append, alone, whole]
      exact joinsClass_closed closed _ (by decide)
    · simp only [ofText, bodyClass_ofChars, String.toList_append, alone, whole]
      exact joinsClass_closed closed _ (by decide)
    · simp only [ofText, stylesheetUrls_ofChars, String.toList_append, alone, whole]
      exact stylesheetUrlsOf_closed closed _ base
  · intro markup
    rw [ofText, stylesheetUrls_ofChars]
    exact ⟨nodup_stylesheetUrlsOf base _, empty_not_mem_stylesheetUrlsOf base _⟩

/-- The address of a folder of a site. -/
def folderUrl : Url :=
  { scheme := "https", authority := some { host := "a.b" }, path := .rooted ["d", ""] }

/-- Two references to one address, and a class of each part. -/
theorem ofText_append_resolved :
    Text.contains "<body class=b><link rel=stylesheet href=../s>" "<!--" = false ∧
      Closed "<body class=b><link rel=stylesheet href=../s>".toList ∧
      ofText (some folderUrl) ("<body class=b><link rel=stylesheet href=../s>" ++
          "<html class=c><link rel=stylesheet href=/s>") =
        { htmlClass := some "c", bodyClass := some "b", stylesheetUrls := ["https://a.b/s"] } := by
  have fresh : Text.contains "<body class=b><link rel=stylesheet href=../s>" "<!--" = false := by
    decide
  have closed : Closed "<body class=b><link rel=stylesheet href=../s>".toList := by decide
  have front : ofText (some folderUrl) "<body class=b><link rel=stylesheet href=../s>" =
      { bodyClass := some "b", stylesheetUrls := ["https://a.b/s"] } := by decide +kernel
  have behind : ofText (some folderUrl) "<html class=c><link rel=stylesheet href=/s>" =
      { htmlClass := some "c", stylesheetUrls := ["https://a.b/s"] } := by decide +kernel
  have untagged : ¬ HasTag "html" "<body class=b><link rel=stylesheet href=../s>".toList :=
    tags_eq_nil_iff.mp (by decide)
  have joins := (ofText_append (some folderUrl)).1 _ "<html class=c><link rel=stylesheet href=/s>"
    fresh closed
  rw [front, behind] at joins
  refine ⟨fresh, closed, ?_⟩
  generalize ofText (some folderUrl) _ = joined at joins ⊢
  obtain ⟨htmlClass, bodyClass, stylesheetUrls⟩ := joined
  obtain rfl : htmlClass = some "c" := joins.htmlClass.second untagged
  obtain rfl : bodyClass = some "b" := joins.bodyClass.kept "b" rfl
  obtain rfl : stylesheetUrls = ["https://a.b/s"] := joins.stylesheetUrls.trans (by decide)
  rfl

end ReferencePage

end PageLayout
