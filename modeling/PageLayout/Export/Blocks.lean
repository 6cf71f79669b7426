import PageLayout.Block.Basic
import PageLayout.Export.Warning
import PageLayout.Json.Compact

/-!
# Reading blocks from an export

An export is a JSON object with the blocks of a page under `data.blocks`. Reading
never fails: what does not have the expected shape is taken as absent and reported
by a warning, in the order in which the blocks stand, a block's own warnings before
those of the blocks below it. Absent and null are the same everywhere.
-/

namespace PageLayout.Export

/-- The text of a value in markup: null is absent, a string stands for itself, and
everything else is its compact JSON text. -/
def scalarText : Json → Option String
  | .null => none
  | .str value => some value
  | other => some other.compact

/-- Members as named texts. -/
def scalarTexts (members : List (String × Json)) : List (String × Option String) :=
  members.map (fun member => (member.1, scalarText member.2))

/-- A field that holds a string. -/
def readText (key : String) (path : Path) (fields : List (String × Json)) :
    Option String × List Warning :=
  match Assoc.get? key fields with
  | none | some .null => (none, [])
  | some (.str value) => (some value, [])
  | some other => (none, [⟨.fieldNotString key, path, other.kind⟩])

/-- A field that holds an object. -/
def readObject (key : String) (path : Path) (fields : List (String × Json)) :
    Option (List (String × Json)) × List Warning :=
  match Assoc.get? key fields with
  | none | some .null => (none, [])
  | some (.obj members) => (some members, [])
  | some other => (none, [⟨.fieldNotObject key, path, other.kind⟩])

/-- Add the styles of each breakpoint to `styles`. -/
def readStyles (path : Path) (styles : ResponsiveStyles) :
    List (String × Json) → ResponsiveStyles × List Warning
  | [] => (styles, [])
  | (key, value) :: rest =>
    match Breakpoint.ofName? key, value with
    | none, other =>
      let (styles, warnings) := readStyles path styles rest
      (styles, ⟨.unknownBreakpoint key, path, other.kind⟩ :: warnings)
    | some _, .null => readStyles path styles rest
    | some breakpoint, .obj members =>
      readStyles path (styles.set breakpoint (.ofPairs (scalarTexts members))) rest
    | some breakpoint, other =>
      let (styles, warnings) := readStyles path styles rest
      (styles, ⟨.stylesNotObject breakpoint, path, other.kind⟩ :: warnings)

/-- A component; a name or options of another shape count as missing. -/
def readComponent (fields : List (String × Json)) : Component where
  name := ((Assoc.get? "name" fields).bind Json.string?).getD ""
  options := ((Assoc.get? "options" fields).bind Json.members?).getD []

/-- Everything about a block but its children. -/
def readOwn (path : Path) (fields : List (String × Json)) : Block × List Warning :=
  let (tagName, tagWarnings) := readText "tagName" path fields
  let (id, idWarnings) := readText "id" path fields
  let (linkUrl, linkWarnings) := readText "linkUrl" path fields
  let (properties, propertyWarnings) := readObject "properties" path fields
  let (breakpoints, stylesWarnings) := readObject "responsiveStyles" path fields
  let (styles, breakpointWarnings) := readStyles path {} (breakpoints.getD [])
  let (component, componentWarnings) := readObject "component" path fields
  ({ id, tagName, linkUrl, styles
     properties := scalarTexts (properties.getD [])
     component := component.map readComponent },
    tagWarnings ++ idWarnings ++ linkWarnings ++ propertyWarnings ++ stylesWarnings ++
      breakpointWarnings ++ componentWarnings)

mutual

/-- The blocks among the entries of an array at `path`, the first of which has the
number `index`. -/
def readEntries (path : Path) (index : Nat) : List Json → List Block × List Warning
  | [] => ([], [])
  | .obj fields :: rest =>
    let here := path ++ [.item index]
    let (own, ownWarnings) := readOwn here fields
    let (children, childWarnings) := readChildren here fields
    let (others, otherWarnings) := readEntries path (index + 1) rest
    ({ own with children := children } :: others, ownWarnings ++ childWarnings ++ otherWarnings)
  | other :: rest =>
    let (others, otherWarnings) := readEntries path (index + 1) rest
    (others, ⟨.entryNotObject, path ++ [.item index], other.kind⟩ :: otherWarnings)

/-- The blocks in the field `children` of a block at `path`. -/
def readChildren (path : Path) : List (String × Json) → List Block × List Warning
  | [] => ([], [])
  | (key, value) :: rest =>
    if key = "children" then
      match value with
      | .null => ([], [])
      | .arr entries => readEntries (path ++ [.field "children"]) 0 entries
      | other => ([], [⟨.childrenNotArray, path, other.kind⟩])
    else readChildren path rest

end

/-- The blocks of an export document. -/
def readBlocks (document : List (String × Json)) : List Block × List Warning :=
  match Assoc.get? "data" document with
  | none | some .null => ([], [])
  | some (.obj fields) =>
    match Assoc.get? "blocks" fields with
    | none | some .null => ([], [])
    | some (.arr entries) => readEntries [.field "data", .field "blocks"] 0 entries
    | some other => ([], [⟨.blocksNotArray, [.field "data", .field "blocks"], other.kind⟩])
  | some other => ([], [⟨.dataNotObject, [.field "data"], other.kind⟩])

end PageLayout.Export
