import PageLayout.Url.Host

/-!
# URLs

A URL in its parts, each in the form in which it is written, and its text.
-/

namespace PageLayout

/-- Who answers for a URL: a user, a host and a port. -/
structure Url.Authority where
  username : String := ""
  password : String := ""
  host : String := ""
  port : Option Nat := none
deriving DecidableEq, Repr, Inhabited

/-- The path of a URL: a plain text, or segments below a root. -/
inductive Url.Path where
  | plain (text : String)
  | rooted (segments : List String)
deriving DecidableEq, Repr

/-- A URL in its parts. -/
structure Url where
  scheme : String
  authority : Option Url.Authority
  path : Url.Path
  query : Option String := none
  fragment : Option String := none
deriving DecidableEq, Repr

namespace Url

/-- The default port of a scheme. -/
def defaultPort? (scheme : String) : Option Nat :=
  if scheme = "http" ∨ scheme = "ws" then some 80
  else if scheme = "https" ∨ scheme = "wss" then some 443
  else if scheme = "ftp" then some 21
  else none

/-- The schemes whose URLs always have an authority, other than files. -/
def networkSchemes : List String := ["http", "https", "ws", "wss", "ftp"]

/-- How the rest of a URL is read depends on its scheme. -/
inductive SchemeKind where
  | file
  | network
  | other
deriving DecidableEq, Repr

/-- The kind of a scheme. -/
def SchemeKind.ofScheme (scheme : String) : SchemeKind :=
  if scheme = "file" then .file
  else if networkSchemes.contains scheme then .network
  else .other

/-- Whether a backslash separates segments like a slash. -/
def SchemeKind.isSpecial : SchemeKind → Bool
  | .other => false
  | _ => true

/-- The authority as it is written. -/
def Authority.text (authority : Authority) : String :=
  let user := authority.username ++
    (if authority.password = "" then "" else ":" ++ authority.password)
  let port := match authority.port with
    | some port => ":" ++ toString port
    | none => ""
  (if user = "" then "" else user ++ "@") ++ authority.host ++ port

/-- The path as it is written. -/
def Path.text : Path → String
  | .plain text => text
  | .rooted segments => String.join (segments.map fun segment => "/" ++ segment)

/-- Whether a path would be taken for an authority if nothing stood before it. -/
def Path.startsDouble : Path → Bool
  | .rooted ("" :: _ :: _) => true
  | _ => false

/-- The text of a URL. -/
def text (url : Url) : String :=
  let authority := match url.authority with
    | some authority => "//" ++ authority.text
    | none => if url.path.startsDouble then "/." else ""
  let query := match url.query with
    | some query => "?" ++ query
    | none => ""
  let fragment := match url.fragment with
    | some fragment => "#" ++ fragment
    | none => ""
  url.scheme ++ ":" ++ authority ++ url.path.text ++ query ++ fragment

/-- Whether the path is plain text, so that nothing can be relative to the URL. -/
def hasPlainPath (url : Url) : Bool :=
  match url.path with
  | .plain _ => true
  | .rooted _ => false

/-- The segments of a rooted path. -/
def segments (url : Url) : List String :=
  match url.path with
  | .plain _ => []
  | .rooted segments => segments

end Url

end PageLayout
