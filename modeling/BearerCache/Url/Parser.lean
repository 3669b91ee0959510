import BearerCache.Url.Basic

/-! # Reading addresses

Addresses are read as web browsers do: white space around them and line breaks in them do not
count, schemes and names of hosts are brought to lower case, a path is freed of its `.` and
`..` segments, and what a part cannot hold is percent-encoded.  A text without a scheme is
relative, and is read by way of a base address.

Each part is a prefix of what is left of the text, up to the first character that ends it. -/

namespace BearerCache.Url

/-! ## Dividing the text -/

/-- The characters of a text that count. -/
def significant (cs : List Char) : List Char :=
  let isEdge (c : Char) : Bool := c.toNat ≤ 0x20
  let inner := ((cs.dropWhile isEdge).reverse.dropWhile isEdge).reverse
  inner.filter fun c => c != '\t' && c != '\n' && c != '\r'

/-- Whether a character separates segments. -/
def isSlash (special : Bool) (c : Char) : Bool :=
  c == '/' || (special && c == '\\')

/-- Whether a character ends the path. -/
def endsPath (c : Char) : Bool :=
  c == '?' || c == '#'

/-- The scheme of a text, in lower case, and what follows the colon. -/
def scheme? (cs : List Char) : Option (String × List Char) :=
  let isSchemeChar (c : Char) : Bool :=
    c.isAlphanum || c == '+' || c == '-' || c == '.'
  match cs, cs.dropWhile isSchemeChar with
  | first :: _, ':' :: rest =>
    if first.isAlpha then
      some (String.ofList ((cs.takeWhile isSchemeChar).map Char.toLower), rest)
    else none
  | _, _ => none

/-! ## The path -/

/-- A segment with the escapes of the point undone, to see whether it has a meaning. -/
def plainPoints : List Char → List Char
  | '%' :: '2' :: 'e' :: rest | '%' :: '2' :: 'E' :: rest => '.' :: plainPoints rest
  | c :: rest => c :: plainPoints rest
  | [] => []

/-- Whether a segment is the letter of a drive. -/
def isDrive (segment : List Char) : Bool :=
  match segment with
  | [letter, mark] => letter.isAlpha && (mark == ':' || mark == '|')
  | _ => false

/-- Whether no `..` leads out of a segment: it is the letter of a drive, by itself or in front
of a backslash. -/
def isRoot (segment : String) : Bool :=
  isDrive (segment.toList.takeWhile (· != '\\'))

/-- The segments without the last; a root stays. -/
def stepBack (list : List String) : List String :=
  if list.getLast?.any isRoot then list else list.dropLast

/-- A segment after others.  `.` adds nothing and `..` takes one away, but at the end each
leaves an empty segment behind.  A drive at the front of the path of a file is written with a
colon. -/
def addSegment (isFile : Bool) (list : List String) (segment : List Char) (last : Bool) :
    List String :=
  let trailing (list : List String) : List String := if last then list ++ [""] else list
  match plainPoints segment with
  | ['.', '.'] => trailing (stepBack list)
  | ['.'] => trailing list
  | _ =>
    if isFile && list.isEmpty && isDrive segment then
      [String.ofList (segment.take 1 ++ [':'])]
    else list ++ [escape .path segment]

/-- Segments after others. -/
def addSegments (isFile : Bool) (list : List String) : List (List Char) → List String
  | [] => list
  | [segment] => addSegment isFile list segment true
  | segment :: more => addSegments isFile (addSegment isFile list segment false) more

/-- The segments that a text up to a query or a fragment leads to from others. -/
def segmentsFrom (scheme : String) (list : List String) (cs : List Char) : List String :=
  addSegments (scheme == "file") list (cs.splitOnP (isSlash (isSpecial scheme)))

/-- An address with a path of segments.  That of a file has no empty segments at its front, and
one that begins with a drive is on this computer. -/
def withSegments (url : Url) (list : List String) : Url :=
  if url.scheme = "file" then
    { url with
      host := if isDrive (list.headD "").toList then some (.domain "") else url.host
      path := .segments (match list.dropWhile (· == "") with | [] => [""] | list => list) }
  else { url with path := .segments list }

/-! ## Query and fragment -/

/-- An address with the query and the fragment at the front of a text, in place of its own. -/
def withQueryAndFragment (url : Url) (cs : List Char) : Url :=
  let set := if isSpecial url.scheme then EscapeSet.specialQuery else EscapeSet.query
  let query? (cs : List Char) : Option String :=
    match cs with
    | '?' :: rest => some (escape set (rest.takeWhile (· != '#')))
    | _ => none
  let fragment? (cs : List Char) : Option String :=
    match cs.dropWhile (· != '#') with
    | '#' :: rest => some (escape .fragment rest)
    | _ => none
  { url with query := query? cs, fragment := fragment? cs }

/-- An address with the path, the query and the fragment of a text, the path leading on from
some segments. -/
def withPath (url : Url) (list : List String) (cs : List Char) : Url :=
  withQueryAndFragment
    (url.withSegments (segmentsFrom url.scheme list (cs.takeWhile (!endsPath ·))))
    (cs.dropWhile (!endsPath ·))

/-! ## User, host and port -/

/-- What is before the last at sign, if there is one, and what is after it. -/
def splitAtSign (cs : List Char) : Option (List Char) × List Char :=
  match (cs.reverse.takeWhile (· != '@')).reverse, cs.reverse.dropWhile (· != '@') with
  | after, '@' :: before => (some before.reverse, after)
  | _, _ => (none, cs)

/-- The user name and the password of a text.  An empty password is none. -/
def credentials (cs : List Char) : String × Option String :=
  let name := cs.takeWhile (· != ':')
  match cs.dropWhile (· != ':') with
  | ':' :: password =>
    if password = [] then (escape .userInfo name, none)
    else (escape .userInfo name, some (escape .userInfo password))
  | _ => (escape .userInfo name, none)

/-- The characters of a host: up to a colon that is not in brackets. -/
def hostChars (inBrackets : Bool) : List Char → List Char
  | [] => []
  | c :: rest =>
    if c = ':' ∧ !inBrackets then []
    else c :: hostChars (c == '[' || (inBrackets && c != ']')) rest

/-- A port: digits, and nothing else.  The port of the scheme is none. -/
def port? (scheme : String) (cs : List Char) : Except Fault (Option Nat) :=
  match cs.foldlM (fun n c =>
      if '0' ≤ c ∧ c ≤ '9' ∧ n * 10 + (c.toNat - 0x30) ≤ 65535 then
        some (n * 10 + (c.toNat - 0x30))
      else none) 0 with
  | none => .error .invalidPort
  | some n => if cs = [] ∨ some n = defaultPort? scheme then .ok none else .ok (some n)

/-- The host of a text.  Under a special scheme there must be one. -/
def hostOf (scheme : String) (cs : List Char) : Except Fault Host :=
  if isSpecial scheme then
    if cs = [] then .error .emptyHost else Host.ofText cs
  else Host.ofPlainText cs

/-- The host of a file; it is empty for this computer. -/
def fileHost (cs : List Char) : Except Fault Host := do
  let host ← Host.ofText cs
  return if host = .domain "localhost" then .domain "" else host

/-- The address that follows two slashes. -/
def afterSlashes (scheme : String) (cs : List Char) : Except Fault Url := do
  let special := isSpecial scheme
  let endsAuthority (c : Char) : Bool := isSlash special c || endsPath c
  let authority := cs.takeWhile (!endsAuthority ·)
  let rest := cs.dropWhile (!endsAuthority ·)
  let (user, place) := splitAtSign authority
  if user = some [] ∧ place = [] ∧ rest ≠ [] then throw .emptyHost
  let (username, password) := credentials (user.getD [])
  let hostText := hostChars false place
  let host ← hostOf scheme hostText
  let afterHost := place.drop hostText.length
  if host = .domain "" ∧ afterHost ≠ [] then throw .emptyHost
  let port ← port? scheme ((afterHost.drop 1).takeWhile (· != '\\'))
  if host = .domain "" ∧ (username ≠ "" ∨ password ≠ none) then throw .emptyHost
  let url : Url := ⟨scheme, username, password, some host, port, .segments [], none, none⟩
  match afterHost.dropWhile (· != '\\') ++ rest with
  | [] => if special then return url.withPath [] [] else return url
  | c :: more =>
    if isSlash special c then return url.withPath [] more
    else if special || !endsPath c then return url.withPath [] (c :: more)
    else return url.withQueryAndFragment (c :: more)

/-! ## Whole addresses -/

/-- A text without a slash at its front. -/
def dropSlash : List Char → List Char
  | [] => []
  | c :: rest => if isSlash true c then rest else c :: rest

/-- The address of a file.  After two slashes comes the host, unless the letter of a drive is
there; where nothing is, the slash that follows belongs to the path. -/
def fileAddress (cs : List Char) : Except Fault Url :=
  let url : Url := ⟨"file", "", none, some (.domain ""), none, .segments [], none, none⟩
  if (cs.takeWhile (isSlash true)).length < 2 then .ok (url.withPath [] (dropSlash cs))
  else
    let after := cs.drop 2
    let place := after.takeWhile fun c => !(isSlash true c || endsPath c)
    if place = [] ∨ isDrive place then .ok (url.withPath [] after)
    else do
      let host ← fileHost place
      return { url with host := some host }.withPath [] (dropSlash (after.drop place.length))

/-- The address that a text without a scheme stands for beside a base. -/
def relativeTo (base : Url) (cs : List Char) : Except Fault Url :=
  let baseSegments := match base.path with | .segments list => list | .flat _ => []
  let slashes := cs.takeWhile (isSlash true)
  match cs with
  | [] => .ok { base with fragment := none }
  | '?' :: _ => .ok (base.withQueryAndFragment cs)
  | '#' :: rest => .ok { base with fragment := some (escape .fragment rest) }
  | c :: rest =>
    if 2 ≤ slashes.length then
      match cs with
      | '/' :: '/' :: after => afterSlashes base.scheme after
      | _ => afterSlashes base.scheme (cs.drop slashes.length)
    else if isSlash true c then .ok (base.withPath [] rest)
    else .ok (base.withPath baseSegments.dropLast cs)

/-- The address of a text with a scheme. -/
def ofScheme (base : Option Url) (scheme : String) (cs : List Char) : Except Fault Url :=
  let slashes := (cs.takeWhile (isSlash true)).length
  if scheme = "file" then fileAddress cs
  else if isSpecial scheme then
    match base.filter (·.scheme = scheme) with
    | some base => if slashes < 2 then relativeTo base cs else afterSlashes scheme (cs.drop slashes)
    | none => afterSlashes scheme (cs.drop slashes)
  else
    let url : Url := ⟨scheme, "", none, none, none, .flat "", none, none⟩
    match cs with
    | '/' :: '/' :: rest => afterSlashes scheme rest
    | '/' :: rest => .ok (url.withPath [] rest)
    | cs =>
      let text := escape .controls (cs.takeWhile (!endsPath ·))
      .ok ({ url with path := .flat text }.withQueryAndFragment (cs.dropWhile (!endsPath ·)))

/-- Reads a text beside a base, if there is one. -/
def parseBeside (base : Option Url) (text : String) : Except Fault Url :=
  let cs := significant text.toList
  match scheme? cs with
  | some (scheme, rest) => ofScheme base scheme rest
  | none =>
    match base with
    | none => .error .relativeWithoutBase
    | some base =>
      if base.isFlat then
        match cs with
        | '#' :: rest => .ok { base with fragment := some (escape .fragment rest) }
        | _ => .error .relativeToFlat
      else relativeTo base cs

/-- Reads an absolute address. -/
def parse (text : String) : Except Fault Url :=
  parseBeside none text

/-- Reads a text relative to an address. -/
def join (base : Url) (text : String) : Except Fault Url :=
  parseBeside (some base) text

/-- Reads an address from JSON. -/
def reader : Json.Reader Url :=
  (Json.Reader.textAs "a string representing an URL").refine fun text =>
    (parse text).mapError fun fault => s!"{fault.message}: {Text.quoted text}"

end BearerCache.Url
