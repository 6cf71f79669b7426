import PageLayout.Fixture.Check
import PageLayout.Proofs.Text.Search

/-!
# What a fixture expects

A fixture is met if all that its frontmatter expects is so. This is said here without an order in
which the expectations are looked at. The check looks at them one after the other and gives the
first that is not met, so it finds nothing wrong exactly if the fixture is met.
-/

namespace PageLayout

/-! ## Expectations -/

namespace Frontmatter

/-- The page is as expected: as a whole, apart from blanks around it, and by the texts that it
contains and does not contain. -/
structure FitsPage (front : Frontmatter) (page : String) : Prop where
  output : ∀ expected, front.output = some expected → Text.trim page = Text.trim expected
  contains : ∀ part ∈ front.contains, part.toList <:+: page.toList
  absent : ∀ part ∈ front.absent, ¬ part.toList <:+: page.toList

/-- The outcome of compiling is as expected: a failure with a certain message, or else a page. -/
def FitsCompiled (front : Frontmatter) (compiled : Except Page.Error String) : Prop :=
  match front.error with
  | some part => ∃ error, compiled = .error error ∧ part.toList <:+: error.message.toList
  | none => ∃ page, compiled = .ok page ∧ front.FitsPage page

/-- The layout is as expected: by the number of warnings about it, and by what comes of it. -/
structure FitsLayout (front : Frontmatter) (layout : Layout) : Prop where
  warnings : ∀ count, front.warnings = some count → layout.diagnostics.length = count
  compiled : front.FitsCompiled (Page.compile front.metadata layout)

end Frontmatter

namespace Fixture

/-- The export is as expected: it is none, or else its layout is as expected. -/
def Met (fixture : Fixture) : Prop :=
  if fixture.front.parseError then ∃ error, Layout.ofText fixture.layout 0 = .error error
  else ∃ layout, Layout.ofText fixture.layout 0 = .ok layout ∧ fixture.front.FitsLayout layout

/-! ## Checks -/

theorem checkWarnings_eq_none_iff {front : Frontmatter} {layout : Layout} :
    checkWarnings front layout = none ↔
      ∀ count, front.warnings = some count → layout.diagnostics.length = count := by
  rw [checkWarnings]
  cases front.warnings with
  | none => exact ⟨fun _ => nofun, fun _ => rfl⟩
  | some expected =>
      simp only [List.length_map, ite_eq_left_iff, reduceCtorEq, imp_false, Decidable.not_not,
        Option.some.injEq, forall_eq']

theorem checkOutput_eq_none_iff {front : Frontmatter} {page : String} :
    checkOutput front page = none ↔
      ∀ expected, front.output = some expected → Text.trim page = Text.trim expected := by
  rw [checkOutput]
  cases front.output with
  | none => exact ⟨fun _ => nofun, fun _ => rfl⟩
  | some expected =>
      simp only [ite_eq_left_iff, reduceCtorEq, imp_false, Decidable.not_not, Option.some.injEq,
        forall_eq']

theorem checkPage_eq_none_iff {front : Frontmatter} {page : String} :
    checkPage front page = none ↔ front.FitsPage page := by
  have contains : (front.contains.find? fun part => !Text.contains page part) = none ↔
      ∀ part ∈ front.contains, part.toList <:+: page.toList := by
    simp only [List.find?_eq_none, Bool.not_eq_true', Bool.not_eq_false, Text.contains_iff_infix]
  have absent : front.absent.find? (Text.contains page) = none ↔
      ∀ part ∈ front.absent, ¬ part.toList <:+: page.toList := by
    simp only [List.find?_eq_none, Text.contains_iff_infix]
  simp only [checkPage, Option.orElse_eq_orElse, Option.orElse_eq_or, Option.or_eq_none_iff,
    Option.map_eq_none_iff, checkOutput_eq_none_iff, contains, absent]
  exact ⟨fun ⟨output, contains, absent⟩ => ⟨output, contains, absent⟩,
    fun fits => ⟨fits.output, fits.contains, fits.absent⟩⟩

theorem checkCompiled_eq_none_iff {front : Frontmatter} {compiled : Except Page.Error String} :
    checkCompiled front compiled = none ↔ front.FitsCompiled compiled := by
  rw [Frontmatter.FitsCompiled]
  cases compiled with
  | error error =>
      rw [checkCompiled]
      cases front.error with
      | none => exact ⟨nofun, nofun⟩
      | some part =>
          have found : (if Text.contains error.message part then none
              else some (Failure.otherError part error.message)) = none ↔
                part.toList <:+: error.message.toList := by
            simp only [ite_eq_left_iff, reduceCtorEq, imp_false, Decidable.not_not,
              Text.contains_iff_infix]
          exact found.trans ⟨fun found => ⟨error, rfl, found⟩, fun ⟨_, rfl, found⟩ => found⟩
  | ok page =>
      rw [checkCompiled]
      cases front.error with
      | none => simp only [checkPage_eq_none_iff, Except.ok.injEq, exists_eq_left']
      | some part => exact ⟨nofun, nofun⟩

/-- Nothing is found wrong exactly if the fixture is met. -/
theorem failure?_eq_none_iff {fixture : Fixture} : fixture.failure? = none ↔ fixture.Met := by
  rw [failure?, Met]
  cases Layout.ofText fixture.layout 0 with
  | error error =>
      rw [checkParsed]
      cases fixture.front.parseError with
      | true => exact ⟨fun _ => ⟨error, rfl⟩, fun _ => rfl⟩
      | false => exact ⟨nofun, nofun⟩
  | ok layout =>
      rw [checkParsed]
      cases fixture.front.parseError with
      | true => exact ⟨nofun, nofun⟩
      | false =>
          simp only [Bool.false_eq_true, if_false, Option.orElse_eq_orElse, Option.orElse_eq_or,
            Option.or_eq_none_iff, checkWarnings_eq_none_iff, checkCompiled_eq_none_iff,
            Except.ok.injEq, exists_eq_left']
          exact ⟨fun fits => ⟨fits.1, fits.2⟩, fun fits => ⟨fits.warnings, fits.compiled⟩⟩

end Fixture

end PageLayout
