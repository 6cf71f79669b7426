import PageLayout.Url.Basic

/-!
# Path segments

A path is read segment by segment. One dot means nothing and two dots go back one
segment, also when the dots are encoded. In the path of a file, a letter and a colon
or bar at the front name a drive, which is never left again. Segments are collected
last first.
-/

namespace PageLayout.Url

/-- Whether a segment means the place where it stands. -/
def isSingleDot (segment : List Char) : Bool :=
  let lowered := String.ofList (segment.map Char.toLower)
  lowered == "." || lowered == "%2e"

/-- Whether a segment means going back. -/
def isDoubleDot (segment : List Char) : Bool :=
  let lowered := String.ofList (segment.map Char.toLower)
  [ "..", "%2e.", ".%2e", "%2e%2e"].contains lowered

/-- Whether a segment names a drive. -/
def isDrive : List Char → Bool
  | [letter, mark] => letter.isAlpha && (mark == ':' || mark == '|')
  | _ => false

/-- Whether a segment names a drive in its normal form. -/
def isNormalDrive (segment : String) : Bool :=
  match segment.toList with
  | [letter, ':'] => letter.isAlpha
  | _ => false

/-- Go back one segment; a drive is kept. -/
def dropSegment (isFile : Bool) : List String → List String
  | [] => []
  | last :: before => if isFile && isNormalDrive last then last :: before else before

/-- The segments that an encoded segment adds at the root of a file path. -/
def driveSegments (segment : List Char) : List String :=
  match segment with
  | [letter, '|'] => if letter.isAlpha then [String.ofList [letter, ':']] else [String.ofList segment]
  | letter :: ':' :: c :: rest =>
    if letter.isAlpha then [String.ofList (c :: rest), String.ofList [letter, ':']]
    else [String.ofList segment]
  | _ => [String.ofList segment]

/-- Read segments behind those collected. The last one closes the path, so dots at the
end leave an empty segment. -/
def addSegments (isFile : Bool) : List String → List (List Char) → List String
  | collected, [] => collected
  | collected, segment :: rest =>
    let encoded := encode inPathSet segment
    let close (segments : List String) := if rest.isEmpty then "" :: segments else segments
    if isDoubleDot encoded then addSegments isFile (close (dropSegment isFile collected)) rest
    else if isSingleDot encoded then addSegments isFile (close collected) rest
    else if isFile && collected.isEmpty then addSegments isFile (driveSegments encoded) rest
    else addSegments isFile (String.ofList encoded :: collected) rest

/-- A file path does not begin with empty segments. -/
def dropEmptySegments (segments : List String) : List String :=
  match segments.dropWhile (· == "") with
  | [] => [""]
  | kept => kept

/-- Read a path behind the segments collected, which are given last first. -/
def readSegments (kind : SchemeKind) (collected : List String) (cs : List Char) : List String :=
  let isSeparator (c : Char) := c == '/' || (kind.isSpecial && c == '\\')
  let isFile := kind == .file
  let segments := (addSegments isFile collected (Text.splitOn isSeparator cs)).reverse
  if isFile then dropEmptySegments segments else segments

end PageLayout.Url
