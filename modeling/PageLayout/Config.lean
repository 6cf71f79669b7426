import PageLayout.File.Store
import PageLayout.ReferencePage
import PageLayout.Toml.Reader

/-!
# Configuration

A configuration file gives defaults for building pages: where the page goes, the
metadata of the site, and a reference page to take metadata from. What is given on the
command line overrides it.
-/

namespace PageLayout

/-- Where the reference page lies, and the address that it was saved from. -/
structure ReferenceSource where
  path : Option String := none
  baseUrl : Option String := none
deriving DecidableEq, Repr, Inhabited

/-- The contents of a configuration file. -/
structure Config where
  output : Option String := none
  metadata : Metadata := {}
  reference : ReferenceSource := {}
deriving DecidableEq, Repr, Inhabited

/-- Why there is no configuration, or no metadata. -/
inductive Config.Error where
  | unreadable (path : String) (error : FileError)
  | invalid (path : String)
  | invalidBaseUrl (url : String) (error : Url.Error)
deriving DecidableEq, Repr

/-- The error in words. -/
def Config.Error.message : Config.Error → String
  | .unreadable path error => "cannot read '" ++ path ++ "': " ++ error.message
  | .invalid path => "invalid config '" ++ path ++ "': no TOML document with the known fields"
  | .invalidBaseUrl url error => "invalid base URL '" ++ url ++ "': " ++ error.message

/-! ## Reading -/

/-- Read metadata. Unknown fields are ignored. -/
def Metadata.ofToml? (value : Toml) : Option Metadata := do
  let fields ← value.fields? ["html_class", "body_class", "stylesheet_urls"] false
  let htmlClass ← Toml.field? Toml.string? "html_class" fields
  let bodyClass ← Toml.field? Toml.string? "body_class" fields
  let stylesheetUrls ← Toml.field? Toml.strings? "stylesheet_urls" fields
  return ⟨htmlClass.getD "", bodyClass.getD "", stylesheetUrls.getD []⟩

/-- Read the source of a reference page. Unknown fields are refused. -/
def ReferenceSource.ofToml? (value : Toml) : Option ReferenceSource := do
  let fields ← value.fields? ["path", "base_url"] true
  let path ← Toml.field? Toml.string? "path" fields
  let baseUrl ← Toml.field? Toml.string? "base_url" fields
  return ⟨path, baseUrl⟩

namespace Config

/-- Read a configuration. Unknown fields are refused. -/
def ofToml? (value : Toml) : Option Config := do
  let fields ← value.fields? ["output", "metadata", "reference"] true
  let output ← Toml.field? Toml.string? "output" fields
  let metadata ← Toml.field? Metadata.ofToml? "metadata" fields
  let reference ← Toml.field? ReferenceSource.ofToml? "reference" fields
  return ⟨output, metadata.getD {}, reference.getD {}⟩

/-- Read the text of the configuration file at a path. -/
def ofText (path text : String) : Except Error Config :=
  match (Toml.ofText? text).bind ofToml? with
  | some config => .ok config
  | none => .error (.invalid path)

/-- The configuration file that is used if there is one and none is asked for. -/
def defaultPath : String := "blocks.toml"

/-- The file that a page is written to if nothing else is said. -/
def defaultOutput : String := "index.html"

section

variable {m : Type → Type} [Monad m] [FileStore m]

/-- Load the configuration file at a path. -/
def loadFrom (path : String) : m (Except Error Config) := do
  match ← FileStore.readText path with
  | .ok text => return ofText path text
  | .error error => return .error (.unreadable path error)

/-- Load a configuration: the file that is asked for, or the default file if it is
there, or else the empty configuration. -/
def load (path : Option String) : m (Except Error Config) := do
  match path with
  | some path => loadFrom path
  | none =>
    if ← FileStore.isFile defaultPath then loadFrom defaultPath else return .ok {}

end

/-! ## Overriding -/

/-- What the command line says about metadata. -/
structure Overrides where
  reference : Option String := none
  baseUrl : Option String := none
  htmlClass : Option String := none
  bodyClass : Option String := none
  stylesheets : List String := []
deriving DecidableEq, Repr, Inhabited

/-- Replace the metadata that the command line gives. An empty list of stylesheets says
nothing. -/
def Overrides.apply (overrides : Overrides) (metadata : Metadata) : Metadata where
  htmlClass := overrides.htmlClass.getD metadata.htmlClass
  bodyClass := overrides.bodyClass.getD metadata.bodyClass
  stylesheetUrls :=
    if overrides.stylesheets.isEmpty then metadata.stylesheetUrls else overrides.stylesheets

/-- The file that a page is written to. -/
def outputPath (config : Config) (flag : Option String) : String :=
  ((flag <|> config.output).getD defaultOutput)

/-- The path of the reference page, if one is to be used. -/
def referencePath? (config : Config) (overrides : Overrides) : Option String :=
  overrides.reference <|> config.reference.path

/-- The base URL as it is written, if there is one. -/
def baseUrlText? (config : Config) (overrides : Overrides) : Option String :=
  overrides.baseUrl <|> config.reference.baseUrl

/-- The base URL, if there is one. -/
def baseUrl (config : Config) (overrides : Overrides) : Except Error (Option Url) :=
  match config.baseUrlText? overrides with
  | none => .ok none
  | some text =>
    match Url.ofText text with
    | .ok url => .ok (some url)
    | .error error => .error (.invalidBaseUrl text error)

/-- The metadata that a reference page with that markup leads to, if one is used. -/
def metadataFrom (config : Config) (overrides : Overrides) (markup : Option String) :
    Except Error Metadata :=
  match markup with
  | none => .ok (overrides.apply config.metadata)
  | some markup => do
    let base ← config.baseUrl overrides
    return overrides.apply ((ReferencePage.ofText base markup).metadata config.metadata)

section

variable {m : Type → Type} [Monad m] [FileStore m]

/-- The metadata of a page: what the command line says, then what the reference page
shows, then what the configuration says. Without a reference page nobody looks at the
base URL. -/
def resolve (config : Config) (overrides : Overrides) : m (Except Error Metadata) := do
  match config.referencePath? overrides with
  | none => return config.metadataFrom overrides none
  | some path =>
    match ← FileStore.readText path with
    | .ok markup => return config.metadataFrom overrides (some markup)
    | .error error => return .error (.unreadable path error)

end

end Config

end PageLayout
