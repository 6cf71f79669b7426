import PageLayout.Config
import PageLayout.File.Tree

/-!
# Where metadata come from

Each field of the metadata has three sources: the command line, the reference page and the
configuration. The first of them that supplies the field decides it, whatever the others say about
this field or any other. What a source supplies depends on the field: an empty class is a class,
but an empty list of stylesheets says nothing.

Metadata are missing only if a reference page is to be used: when it cannot be read, and otherwise
when the base URL is none. The files can be any store, so nothing is said about the way in which
they lie there.
-/

namespace PageLayout.Config

/-! ## Sources -/

section

variable {α : Type} {flag flag' page page' : Option α} {fallback fallback' result result' : α}

/-- The value in force: what the command line gives, or else what the configuration gives. -/
def InForce (flag configured : Option α) (value : α) : Prop :=
  flag = some value ∨ flag = none ∧ configured = some value

theorem inForce_iff {configured : Option α} {value : α} :
    InForce flag configured value ↔ (flag <|> configured) = some value := by
  rw [InForce]
  cases flag with
  | none => exact ⟨fun given => given.elim nofun And.right, fun given => .inr ⟨rfl, given⟩⟩
  | some other => exact ⟨fun given => given.elim id nofun, .inl⟩

end

/-- What a list of stylesheets supplies. -/
def supplied (urls : List String) : Option (List String) := if urls = [] then none else some urls

section

variable (config : Config) (overrides : Overrides) (read : String → Except FileError String)

/-- The base URL that is used, if there is one. -/
inductive UsesBase : Option Url → Prop
  | none (silent : ∀ text, ¬ InForce overrides.baseUrl config.reference.baseUrl text) :
      UsesBase none
  | some {text : String} {url : Url}
      (given : InForce overrides.baseUrl config.reference.baseUrl text)
      (valid : Url.ofText text = .ok url) : UsesBase (some url)

/-- What the reference page shows. It is nothing if there is none. -/
inductive Shows : ReferencePage → Prop
  | nothing (unused : ∀ path, ¬ InForce overrides.reference config.reference.path path) : Shows {}
  | page {path markup : String} {base : Option Url}
      (used : InForce overrides.reference config.reference.path path)
      (readable : read path = .ok markup) (relative : UsesBase config overrides base) :
      Shows (ReferencePage.ofText base markup)

end

variable {config : Config} {overrides : Overrides} {read : String → Except FileError String}

theorem referencePath?_eq_some_iff {path : String} :
    config.referencePath? overrides = some path ↔
      InForce overrides.reference config.reference.path path := inForce_iff.symm

theorem referencePath?_eq_none_iff : config.referencePath? overrides = none ↔
    ∀ path, ¬ InForce overrides.reference config.reference.path path := by
  simp only [← referencePath?_eq_some_iff, Option.eq_none_iff_forall_ne_some, ne_eq]

theorem baseUrlText?_eq_some_iff {text : String} :
    config.baseUrlText? overrides = some text ↔
      InForce overrides.baseUrl config.reference.baseUrl text := inForce_iff.symm

theorem baseUrlText?_eq_none_iff : config.baseUrlText? overrides = none ↔
    ∀ text, ¬ InForce overrides.baseUrl config.reference.baseUrl text := by
  simp only [← baseUrlText?_eq_some_iff, Option.eq_none_iff_forall_ne_some, ne_eq]

theorem baseUrl_eq_ok_iff {base : Option Url} :
    config.baseUrl overrides = .ok base ↔ UsesBase config overrides base := by
  rw [baseUrl]
  constructor
  · intro found
    cases written : config.baseUrlText? overrides with
    | none =>
        rw [written] at found
        cases found
        exact .none (baseUrlText?_eq_none_iff.mp written)
    | some text =>
        rw [written] at found
        cases valid : Url.ofText text with
        | ok url =>
            simp only [valid] at found
            cases found
            exact .some (baseUrlText?_eq_some_iff.mp written) valid
        | error error =>
            simp only [valid] at found
            cases found
  · rintro (silent | ⟨given, valid⟩)
    · rw [baseUrlText?_eq_none_iff.mpr silent]
    · rw [baseUrlText?_eq_some_iff.mpr given]
      simp only [valid]

section

variable {path : String} (used : config.referencePath? overrides = some path)

include used

theorem eq_of_inForce {other : String}
    (also : InForce overrides.reference config.reference.path other) : other = path := by
  rw [← referencePath?_eq_some_iff, used] at also
  exact (Option.some.inj also).symm

theorem shows_iff {page : ReferencePage} : Shows config overrides read page ↔
    ∃ markup base, read path = .ok markup ∧ config.baseUrl overrides = .ok base ∧
      ReferencePage.ofText base markup = page := by
  constructor
  · intro shows
    cases shows with
    | nothing unused => exact absurd (referencePath?_eq_some_iff.mp used) (unused path)
    | page also readable relative =>
        obtain rfl := eq_of_inForce used also
        exact ⟨_, _, readable, baseUrl_eq_ok_iff.mpr relative, rfl⟩
  · rintro ⟨markup, base, readable, relative, rfl⟩
    exact .page (referencePath?_eq_some_iff.mp used) readable (baseUrl_eq_ok_iff.mp relative)

end

/-- There is one page that metadata can be taken from. -/
theorem Shows.unique {page page' : ReferencePage} (shows : Shows config overrides read page)
    (shows' : Shows config overrides read page') : page = page' := by
  cases reference : config.referencePath? overrides with
  | none =>
      have silent := referencePath?_eq_none_iff.mp reference
      cases shows with
      | page used readable relative => exact absurd used (silent _)
      | nothing unused =>
          cases shows' with
          | page used readable relative => exact absurd used (silent _)
          | nothing unused => rfl
  | some path =>
      obtain ⟨markup, base, readable, relative, rfl⟩ := (shows_iff reference).mp shows
      obtain ⟨markup', base', readable', relative', rfl⟩ := (shows_iff reference).mp shows'
      rw [readable] at readable'
      rw [relative] at relative'
      cases readable'
      cases relative'
      rfl

section

variable {σ : Type} [FileStore (StateM σ)]

/-- What is read at a path when the files are as they are. -/
def reading (files : σ) (path : String) : Except FileError String :=
  ((FileStore.readText path : StateM σ _).run files).1

/-- What resolving the metadata returns. -/
def resolved (config : Config) (overrides : Overrides) (files : σ) : Except Error Metadata :=
  ((config.resolve overrides : StateM σ _).run files).1

end

end PageLayout.Config
