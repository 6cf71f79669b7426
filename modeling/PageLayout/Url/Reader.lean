import PageLayout.Url.Segments

/-!
# Reading URLs

Reads a text as a URL of its own or relative to a base. Control characters and
blanks around the text and line breaks and tabs inside it are left out. The rest is
read from the scheme on; what may follow depends on the kind of the scheme.
-/

namespace PageLayout.Url

/-- What may surround a URL. -/
def isPadding (c : Char) : Bool := decide (c.toNat ≤ 32)

/-- What may stand inside a URL without being part of it. -/
def isIgnored (c : Char) : Bool := c == '\t' || c == '\n' || c == '\r'

/-- The characters of a URL that count. -/
def significant (cs : List Char) : List Char :=
  (((cs.dropWhile isPadding).reverse.dropWhile isPadding).reverse).filter (fun c => !isIgnored c)

/-- Split behind the scheme, which is lowered. -/
def splitScheme (cs : List Char) : Option (String × List Char) :=
  let isPart (c : Char) := c.isAlphanum || c == '+' || c == '-' || c == '.'
  match cs, cs.dropWhile isPart with
  | first :: _, ':' :: rest =>
    if first.isAlpha then some (String.ofList ((cs.takeWhile isPart).map Char.toLower), rest)
    else none
  | _, _ => none

/-- Whether a path ends at the character. -/
def endsPath (c : Char) : Bool := c == '?' || c == '#'

/-- Whether the character is a slash of either kind. -/
def isSlash (c : Char) : Bool := c == '/' || c == '\\'

/-- Give a URL the query and the fragment that follow its path. -/
def withTail (kind : SchemeKind) (url : Url) (cs : List Char) : Url :=
  let fragment (cs : List Char) : Option String :=
    match cs with
    | '#' :: text => some (String.ofList (encode inFragmentSet text))
    | _ => none
  match cs with
  | '?' :: rest =>
    let query := rest.takeWhile (· != '#')
    { url with
      query := some (String.ofList (encode (inQuerySet kind.isSpecial) query))
      fragment := fragment (rest.dropWhile (· != '#')) }
  | _ => { url with query := none, fragment := fragment cs }

/-- Read a path and what follows it behind the segments collected. -/
def withPath (kind : SchemeKind) (url : Url) (collected : List String) (cs : List Char) : Url :=
  let path := cs.takeWhile (fun c => !endsPath c)
  withTail kind { url with path := .rooted (readSegments kind collected path) }
    (cs.dropWhile (fun c => !endsPath c))

/-! ## Authorities -/

/-- Whether an authority ends at the character. -/
def endsAuthority (special : Bool) (c : Char) : Bool :=
  c == '/' || c == '?' || c == '#' || (special && c == '\\')

/-- Split at the last at sign. -/
def splitUser (authority : List Char) : Option (List Char × List Char) :=
  if authority.contains '@' then
    let host := (authority.reverse.takeWhile (· != '@')).reverse
    some (authority.take (authority.length - host.length - 1), host)
  else none

/-- Split a host from what follows it: colons in brackets belong to the host. -/
def splitHost (special : Bool) : Bool → List Char → List Char × List Char
  | _, [] => ([], [])
  | inside, c :: cs =>
    if (c == ':' && !inside) || endsAuthority special c then ([], c :: cs)
    else
      let inside := if c == '[' then true else if c == ']' then false else inside
      let (host, rest) := splitHost special inside cs
      (c :: host, rest)

/-- Read the digits of a port. A port that goes without saying is left out. -/
def readPort (scheme : String) (cs : List Char) : Except Error (Option Nat × List Char) :=
  let digits := cs.takeWhile Char.isDigit
  let rest := cs.dropWhile Char.isDigit
  let number := (Text.numberIn? 10 digits).getD 0
  if 65535 < number then .error .invalidPort
  else
    match rest with
    | c :: _ =>
      if endsAuthority true c then
        .ok (if digits.isEmpty ∨ defaultPort? scheme = some number then none else some number, rest)
      else .error .invalidPort
    | [] =>
      .ok (if digits.isEmpty ∨ defaultPort? scheme = some number then none else some number, [])

/-- The user and password before an at sign. -/
def readUser (user : List Char) : Authority where
  username := String.ofList (encode inUserSet (user.takeWhile (· != ':')))
  password := String.ofList (encode inUserSet ((user.dropWhile (· != ':')).drop 1))

/-- Read the path behind an authority. A path below a special scheme is never empty. -/
def pathAfterAuthority (kind : SchemeKind) (url : Url) (cs : List Char) : Url :=
  match kind.isSpecial, cs with
  | true, c :: rest => if isSlash c then withPath kind url [] rest else withPath kind url [] cs
  | true, [] => withPath kind url [] []
  | false, [] => withTail kind { url with path := .rooted [] } []
  | false, c :: rest =>
    if endsPath c then withTail kind { url with path := .rooted [] } cs
    else if c == '/' then withPath kind url [] rest
    else withPath kind url [] cs

/-- Read what follows two slashes. -/
def readAuthority (kind : SchemeKind) (scheme : String) (cs : List Char) : Except Error Url := do
  let special := kind.isSpecial
  let extent := cs.takeWhile (fun c => !endsAuthority special c)
  let behind := cs.dropWhile (fun c => !endsAuthority special c)
  let (user, rest) := match splitUser extent with
    | some (user, host) => (some user, host ++ behind)
    | none => (none, cs)
  if user = some [] ∧ rest = behind ∧ behind ≠ [] then throw .emptyHost
  let (hostText, rest) := splitHost special false rest
  if special ∧ hostText = [] then throw .emptyHost
  let host ← if special then specialHost hostText else opaqueHost hostText
  let (port, rest) ←
    match rest with
    | ':' :: digits =>
      if host = "" then throw .emptyHost else readPort scheme digits
    | _ => pure (none, rest)
  let credentials := (user.map readUser).getD {}
  if host = "" ∧ (credentials.username ≠ "" ∨ credentials.password ≠ "") then throw .emptyHost
  let authority := { credentials with host := host, port := port }
  return pathAfterAuthority kind { scheme, authority := some authority, path := .rooted [] } rest

/-! ## Files -/

/-- Whether a path begins with a drive. -/
def startsWithDrive : List Char → Bool
  | a :: b :: rest =>
    isDrive [a, b] &&
      match rest with
      | [] => true
      | c :: _ => isSlash c || endsPath c
  | _ => false

/-- A file without a host. -/
def localFile : Url where
  scheme := "file"
  authority := some {}
  path := .rooted [""]

/-- Read what follows the two slashes of a file: a host, unless it is a drive. A host
before a drive is dropped, and so is the name of the machine itself. -/
def readFileHost (cs : List Char) : Except Error Url := do
  let hostText := cs.takeWhile (fun c => !(isSlash c || endsPath c))
  let rest := cs.dropWhile (fun c => !(isSlash c || endsPath c))
  if isDrive hostText then return withPath .file localFile [] cs
  else if hostText = [] then return withPath .file localFile [] rest
  else
    let host ← specialHost hostText
    if host = "localhost" then return withPath .file localFile [] rest
    else
      let named := { localFile with authority := some { host := host } }
      let url := pathAfterAuthority .file named rest
      match url.segments with
      | first :: _ => if isNormalDrive first then return { url with authority := some {} } else return url
      | [] => return url

/-- Read what follows the scheme of a file, or a reference relative to one. -/
def readFile (base : Option Url) (cs : List Char) : Except Error Url :=
  match cs, base with
  | a :: b :: rest, _ =>
    if isSlash a && isSlash b then readFileHost rest
    else if isSlash a then .ok (fromRoot (b :: rest))
    else .ok (fromBase cs)
  | [a], _ => if isSlash a then .ok (fromRoot []) else .ok (fromBase cs)
  | [], _ => .ok (fromBase cs)
where
  /-- A path from the root; the host and the drive are those of the base. -/
  fromRoot (rest : List Char) : Url :=
    match base with
    | none => withPath .file localFile [] rest
    | some base =>
      if startsWithDrive rest then withPath .file localFile [] rest
      else
        match base.segments with
        | first :: _ =>
          if isNormalDrive first then withPath .file localFile [first] rest
          else withPath .file { localFile with authority := base.authority } [] rest
        | [] => withPath .file { localFile with authority := base.authority } [] rest
  /-- A path that does not begin with a slash. -/
  fromBase (cs : List Char) : Url :=
    match base, cs with
    | none, _ => withPath .file localFile [] cs
    | some base, [] => { base with fragment := none }
    | some base, '?' :: _ => withTail .file base cs
    | some base, '#' :: _ => { withTail .file base cs with query := base.query }
    | some base, _ =>
      if startsWithDrive cs then withPath .file localFile [] cs
      else withPath .file base (dropSegment true base.segments.reverse) cs

/-! ## References -/

/-- Read a reference that has no scheme, or that of its base, which is not a file. -/
def readRelative (base : Url) (cs : List Char) : Except Error Url :=
  let kind := SchemeKind.ofScheme base.scheme
  match cs with
  | [] => .ok { base with fragment := none }
  | '?' :: _ => .ok (withTail kind base cs)
  | '#' :: _ => .ok { withTail kind base cs with query := base.query }
  | a :: rest =>
    if isSlash a then
      match rest with
      | b :: more =>
        if isSlash b then
          -- two slashes that are not both forward count with all that follow them
          readAuthority kind base.scheme
            (if a == '/' && b == '/' then more else more.dropWhile isSlash)
        else .ok (withPath kind base [] rest)
      | [] => .ok (withPath kind base [] [])
    else .ok (withPath kind base (dropSegment false base.segments.reverse) cs)

/-- Read what follows a scheme that is not special. -/
def readOther (scheme : String) (cs : List Char) : Except Error Url :=
  match cs with
  | '/' :: '/' :: rest => readAuthority .other scheme rest
  | '/' :: rest => .ok (withPath .other { scheme, authority := none, path := .rooted [] } [] rest)
  | _ =>
    let path := String.ofList (encode isControl (cs.takeWhile (fun c => !endsPath c)))
    .ok (withTail .other { scheme, authority := none, path := .plain path }
      (cs.dropWhile (fun c => !endsPath c)))

/-- Read a URL, relative to `base` if there is one. -/
def read (base : Option Url) (text : String) : Except Error Url :=
  let cs := significant text.toList
  match splitScheme cs with
  | some (scheme, rest) =>
    match SchemeKind.ofScheme scheme with
    | .file => readFile (base.filter (fun base => base.scheme == "file")) rest
    | .network =>
      let slashes := rest.takeWhile isSlash
      let behind := rest.dropWhile isSlash
      match base with
      | some base =>
        if base.scheme = scheme ∧ slashes.length < 2 then readRelative base rest
        else readAuthority .network scheme behind
      | none => readAuthority .network scheme behind
    | .other => readOther scheme rest
  | none =>
    match base with
    | none => .error .relativeWithoutBase
    | some base =>
      match cs with
      | '#' :: _ =>
        .ok { withTail (.ofScheme base.scheme) base cs with query := base.query }
      | _ =>
        if base.hasPlainPath then .error .relativeToOpaque
        else if base.scheme = "file" then readFile (some base) cs
        else readRelative base cs

/-- Read a URL of its own. -/
def ofText (text : String) : Except Error Url := read none text

/-- Read a reference relative to a URL. -/
def join (base : Url) (reference : String) : Except Error Url := read (some base) reference

end PageLayout.Url
