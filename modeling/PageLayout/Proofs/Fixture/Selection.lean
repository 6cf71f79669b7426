import PageLayout.Proofs.File.Below
import PageLayout.Proofs.FirstOccurrences
import PageLayout.Proofs.Fixture.Requests
import PageLayout.Proofs.Fixture.Verdict
import PageLayout.Proofs.Text.Order

/-!
# The selection of fixtures

The categories that a run selects hold every fixture below the folder that is asked for, each of
them once, and nothing else. They are listed in increasing order, and so are the fixtures in each.
All of this follows from which categories are asked for, so a run that is asked for them in another
way selects the same fixtures, reports the same on them and succeeds or fails as well.
-/

namespace PageLayout

namespace Fixture

variable {tree : FileTree} {path : String} {requests : List String} {files : List (List String)}

/-! ## The fixtures among files -/

/-- A file is a fixture of a category: its name has the ending of a fixture, and the category is the
folder that it lies in, with slashes for backslashes. -/
def FixtureOf (names : List String) (category : String) : Prop :=
  ∃ (folder : List String) (stem : String), names = folder ++ [stem ++ nameEnding] ∧
    category = String.ofList (("/".intercalate folder).toList.map fun c => if c = '\\' then '/' else c)

theorem isFixture_concat (folder : List String) (name : String) :
    isFixture (folder ++ [name]) = true ↔ ∃ stem, name = stem ++ nameEnding := by
  rw [isFixture, List.getLast?_concat, Option.any_some, List.isSuffixOf_iff_suffix]
  constructor
  · rintro ⟨stem, split⟩
    refine ⟨String.ofList stem, String.toList_inj.mp ?_⟩
    rw [String.toList_append, String.toList_ofList, split]
  · rintro ⟨stem, rfl⟩
    rw [String.toList_append]
    exact List.suffix_append _ _

theorem fixtureOf_iff {names : List String} {category : String} :
    FixtureOf names category ↔ isFixture names = true ∧ categoryOf names = category := by
  rcases List.eq_nil_or_concat' names with rfl | ⟨folder, name, rfl⟩
  · refine ⟨?_, nofun⟩
    rintro ⟨folder, stem, split, -⟩
    exact absurd split.symm (List.append_ne_nil_of_right_ne_nil _ (List.cons_ne_nil _ _))
  · rw [isFixture_concat, categoryOf, List.dropLast_concat, FixtureOf]
    constructor
    · rintro ⟨folder', stem, split, rfl⟩
      obtain ⟨rfl, same⟩ := List.append_inj' split rfl
      exact ⟨⟨stem, (List.cons.inj same).1⟩, rfl⟩
    · rintro ⟨⟨stem, rfl⟩, rfl⟩
      exact ⟨folder, stem, rfl, rfl⟩

/-- The fixtures among files, in order. -/
def fixturesOf (files : List (List String)) : List (List String) :=
  (files.filter isFixture).mergeSort Text.pathNotBehind

/-- The names of the categories of fixtures, each of them once and in order. -/
def categoryNames (fixtures : List (List String)) : List String :=
  ((fixtures.map categoryOf).mergeSort Text.notBehind).eraseDups

theorem categories_eq (files : List (List String)) : categories files =
    (categoryNames (fixturesOf files)).map fun name =>
      ⟨name, (fixturesOf files).filter fun file => categoryOf file == name⟩ := rfl

theorem mem_fixturesOf {names : List String} :
    names ∈ fixturesOf files ↔ names ∈ files ∧ isFixture names = true := by
  rw [fixturesOf, List.mem_mergeSort, List.mem_filter]

theorem mem_categoryNames {fixtures : List (List String)} {name : String} :
    name ∈ categoryNames fixtures ↔ ∃ names ∈ fixtures, categoryOf names = name := by
  rw [categoryNames, List.mem_eraseDups, List.mem_mergeSort, List.mem_map]

theorem pairwise_categoryNames (fixtures : List (List String)) :
    (categoryNames fixtures).Pairwise (· < ·) := by
  have sorted : (categoryNames fixtures).Pairwise (· ≤ ·) :=
    (Text.pairwise_sorted Text.notBehind_iff _).sublist (eraseDups_sublist _)
  have distinct : (categoryNames fixtures).Pairwise (· ≠ ·) := nodup_eraseDups _
  exact (sorted.and distinct).imp fun ⟨below, other⟩ => lt_of_le_of_ne below other

/-! ## Categories -/

theorem names_categories (files : List (List String)) :
    (categories files).map Category.name = categoryNames (fixturesOf files) := by
  rw [categories_eq, List.map_map]
  exact List.map_id _

theorem files_of_mem {category : Category} (listed : category ∈ categories files) :
    category.files = (fixturesOf files).filter fun file => categoryOf file == category.name := by
  rw [categories_eq] at listed
  obtain ⟨name, -, rfl⟩ := List.mem_map.mp listed
  rfl

/-- A category lists the fixtures that lie in it. -/
theorem mem_files {category : Category} (listed : category ∈ categories files)
    {names : List String} :
    names ∈ category.files ↔ names ∈ files ∧ FixtureOf names category.name := by
  rw [files_of_mem listed, List.mem_filter, mem_fixturesOf, beq_iff_eq, fixtureOf_iff, and_assoc]

/-- The category of a fixture is listed. -/
theorem exists_category {names : List String} {name : String} (found : names ∈ files)
    (lies : FixtureOf names name) : ∃ category ∈ categories files, category.name = name := by
  obtain ⟨fixture, rfl⟩ := fixtureOf_iff.mp lies
  have named : categoryOf names ∈ (categories files).map Category.name := by
    rw [names_categories, mem_categoryNames]
    exact ⟨names, mem_fixturesOf.mpr ⟨found, fixture⟩, rfl⟩
  exact List.mem_map.mp named

theorem mem_select {all : List Category} {category : Category} :
    category ∈ select requests all ↔ category ∈ all ∧ Asked requests category.name := by
  rw [select_eq_filter, List.mem_filter, asked_iff]

theorem select_sublist (requests : List String) (all : List Category) :
    (select requests all).Sublist all := by
  rw [select_eq_filter]
  exact List.filter_sublist

theorem pairwise_names (requests : List String) (files : List (List String)) :
    ((select requests (categories files)).map Category.name).Pairwise (· < ·) := by
  refine List.Pairwise.sublist ((select_sublist requests _).map _) ?_
  rw [names_categories]
  exact pairwise_categoryNames _

/-- No fixture lies in two categories, so none is selected twice. -/
theorem nodup_select (distinct : files.Nodup) (requests : List String) :
    ((select requests (categories files)).flatMap Category.files).Nodup := by
  rw [List.nodup_flatMap]
  constructor
  · intro category chosen
    rw [files_of_mem (mem_of_mem_select chosen)]
    exact ((List.mergeSort_perm _ _).nodup_iff.mpr (distinct.filter _)).filter _
  · have apart := List.pairwise_map.mp (pairwise_names requests files)
    refine apart.imp_of_mem fun {first second} one two below => ?_
    intro names here there
    have first_name := (mem_files (mem_of_mem_select one)).mp here
    have second_name := (mem_files (mem_of_mem_select two)).mp there
    rw [← (fixtureOf_iff.mp first_name.2).2, ← (fixtureOf_iff.mp second_name.2).2] at below
    exact lt_irrefl _ below

/-! ## The selection below a folder -/

/-- Categories that hold the fixtures below a folder that are asked for. -/
structure Selects (tree : FileTree) (path : String) (requests : List String)
    (selected : List Category) : Prop where
  chosen : ∀ names, names ∈ selected.flatMap Category.files ↔
    tree.HasBelow path names ∧ ∃ category, FixtureOf names category ∧ Asked requests category
  once : tree.Distinct → (selected.flatMap Category.files).Nodup
  grouped : ∀ category ∈ selected, category.files ≠ [] ∧
    ∀ names ∈ category.files, FixtureOf names category.name
  increasing : (selected.map Category.name).Pairwise (· < ·)
  ordered : ∀ category ∈ selected, category.files.Pairwise (· ≤ ·)

theorem selects_select (tree : FileTree) (path : String) (requests : List String) :
    Selects tree path requests (select requests (categories (tree.filesBelow path))) where
  chosen := by
    intro names
    rw [List.mem_flatMap, ← FileTree.mem_filesBelow]
    constructor
    · rintro ⟨category, chosen, listed⟩
      obtain ⟨among, asked⟩ := mem_select.mp chosen
      obtain ⟨found, lies⟩ := (mem_files among).mp listed
      exact ⟨found, category.name, lies, asked⟩
    · rintro ⟨found, name, lies, asked⟩
      obtain ⟨category, among, rfl⟩ := exists_category found lies
      exact ⟨category, mem_select.mpr ⟨among, asked⟩, (mem_files among).mpr ⟨found, lies⟩⟩
  once := fun distinct => nodup_select (FileTree.nodup_filesBelow distinct) requests
  grouped := fun category chosen => ⟨files_ne_nil (mem_of_mem_select chosen), fun names listed =>
    ((mem_files (mem_of_mem_select chosen)).mp listed).2⟩
  increasing := pairwise_names requests _
  ordered := by
    intro category chosen
    rw [files_of_mem (mem_of_mem_select chosen)]
    exact (Text.pairwise_sorted Text.pathNotBehind_iff _).sublist List.filter_sublist

theorem selection_of_restates {others : List String}
    (restated : Relation.EqvGen Restates requests others) :
    selection tree path others = selection tree path requests := by
  rw [selection, select_of_restates restated, selection]

/-! ## The run -/

/-- The status of a run that selects these fixtures. -/
def statusOf (tree : FileTree) (parts : List Part) : Nat :=
  if pathsOf parts ≠ [] ∧ ∀ file ∈ pathsOf parts, Satisfied tree file then 0 else 1

/-- The lines about the fixtures that a run selects. -/
def verdictLines (colored : Bool) (tree : FileTree) (path : String) (parts : List Part) :
    List String :=
  if pathsOf parts = [] then [nothingFound path] else reportLines colored tree parts

end Fixture

namespace Program

open Fixture

/-- What a run of fixtures leaves depends on its selection, apart from the warnings. -/
theorem run_test_eq (tree : FileTree) (path : String) (colored : Bool) (requests : List String) :
    (test path colored requests false : StateM FileTree Outcome).run tree =
      ({ status := statusOf tree (selection tree path requests)
         messages := warningsAt tree path requests ++
           verdictLines colored tree path (selection tree path requests) }, tree) := by
  obtain ⟨verdict, ran, passed, lines⟩ := run_run tree path colored requests
  rw [test, if_neg Bool.false_ne_true, FileTree.run_bind ran, statusOf, verdictLines, ← lines]
  simp only [← passed]
  rfl

/-- A run of fixtures selects each fixture below a folder that is asked for, once and in order, and
nothing else. It does not matter how the requests are made: in another order, with repetitions, or
with requests for categories below others that are asked for, the selection is the same, and so are
the status of the run and what it reports on the fixtures. -/
theorem test_restated (tree : FileTree) (path : String) (requests : List String) :
    Selects tree path requests (select requests (categories (tree.filesBelow path))) ∧
      ∀ others, Relation.EqvGen Restates requests others →
        select others (categories (tree.filesBelow path)) =
            select requests (categories (tree.filesBelow path)) ∧
          ∀ colored, (test path colored others false : StateM FileTree Outcome).run tree =
            ({ status := statusOf tree (selection tree path requests)
               messages := warningsAt tree path others ++
                 verdictLines colored tree path (selection tree path requests) }, tree) := by
  refine ⟨selects_select tree path requests, fun others restated => ⟨?_, fun colored => ?_⟩⟩
  · exact select_of_restates restated _
  · rw [run_test_eq, selection_of_restates restated]

/-- Fixtures of a category, of one below it, and of one that only begins alike. -/
def coloredCards : FileTree where
  files :=
    [(["cards", "red", "plain.test.json"], .text ""),
      (["cards", "redder", "odd.test.json"], .text ""),
      (["cards", "red", "dark", "wide.test.json"], .text ""),
      (["cards", "red", "notes.txt"], .text "")]

/-- A category and the one below it are asked for, and the first one again. -/
theorem test_restated_overlapping :
    select ["red", "/red/dark/", "red"] (categories (coloredCards.filesBelow "cards")) =
        select ["red"] (categories (coloredCards.filesBelow "cards")) ∧
      ((select ["red"] (categories (coloredCards.filesBelow "cards"))).flatMap
        Category.files).Perm
          [["red", "plain.test.json"], ["red", "dark", "wide.test.json"]] := by
  obtain ⟨selects, same⟩ := test_restated coloredCards "cards" ["red"]
  have covers : Covers "red" "/red/dark/" := by decide
  have restated : Relation.EqvGen Restates ["red"] ["red", "/red/dark/", "red"] := by
    refine .trans _ _ _ (.rel _ _ (.overlapping (List.mem_singleton_self "red") covers)) ?_
    exact .rel _ _ (.repeated (List.mem_cons_of_mem _ (List.mem_singleton_self "red")))
  have distinct : coloredCards.Distinct := by decide
  have below : coloredCards.filesBelow "cards" = [["red", "plain.test.json"],
      ["redder", "odd.test.json"], ["red", "dark", "wide.test.json"], ["red", "notes.txt"]] := by
    decide
  refine ⟨(same _ restated).1, ?_⟩
  rw [List.perm_ext_iff_of_nodup (selects.once distinct) (by decide)]
  intro names
  rw [selects.chosen, ← FileTree.mem_filesBelow, below]
  simp only [fixtureOf_iff, and_assoc, exists_and_left, exists_eq_left']
  constructor
  · rintro ⟨listed, fixture, asked⟩
    revert names
    decide
  · intro listed
    revert names
    decide

end Program

end PageLayout
