import BearerCache.Json.Record
import BearerCache.Json.Value
import BearerCache.Url.Host

/-! # Addresses

An absolute address in its parts.  All parts are in their written form, so two addresses are
the same text exactly when their parts are equal.  The path is a list of segments, each
preceded by a slash; only an address without a host may have a path of another form. -/

namespace BearerCache

namespace Url

/-- The path of an address. -/
inductive Path where
  /-- A text without structure, as in an address of electronic mail. -/
  | flat (text : String)
  /-- The segments after each slash. -/
  | segments (list : List String)
  deriving DecidableEq, Repr

/-- The text of a path. -/
def Path.write : Path → String
  | flat text => text
  | segments list => String.join (list.map ("/" ++ ·))

/-- The port that is meant when an address with a scheme has none. -/
def defaultPort? (scheme : String) : Option Nat :=
  match scheme with
  | "http" | "ws" => some 80
  | "https" | "wss" => some 443
  | "ftp" => some 21
  | _ => none

/-- Whether a scheme is one whose addresses always have a host and a path. -/
def isSpecial (scheme : String) : Bool :=
  scheme == "file" || (defaultPort? scheme).isSome

end Url

/-- An address. -/
structure Url where
  scheme : String
  /-- The user name; empty if there is none. -/
  username : String
  password : Option String
  host : Option Url.Host
  /-- The port, if it is not the one of the scheme. -/
  port : Option Nat
  path : Url.Path
  query : Option String
  fragment : Option String
  deriving DecidableEq

namespace Url

/-- The user name and the password before a host. -/
def userInfo (url : Url) : String :=
  match url.password with
  | some password => s!"{url.username}:{password}@"
  | none => if url.username = "" then "" else url.username ++ "@"

/-- The port after a host. -/
def portText (url : Url) : String :=
  match url.port with
  | some port => s!":{port}"
  | none => ""

/-- The path, kept from being taken for a host where there is none. -/
def pathText (url : Url) : String :=
  match url.host, url.path with
  | none, .segments ("" :: _ :: _) => "/." ++ url.path.write
  | _, path => path.write

/-- The query with its question mark. -/
def queryText (url : Url) : String :=
  match url.query with
  | some query => "?" ++ query
  | none => ""

/-- The fragment with its number sign. -/
def fragmentText (url : Url) : String :=
  match url.fragment with
  | some fragment => "#" ++ fragment
  | none => ""

/-- The text of an address. -/
def write (url : Url) : String :=
  let authority :=
    match url.host with
    | some host => "//" ++ url.userInfo ++ host.write ++ url.portText
    | none => ""
  url.scheme ++ ":" ++ authority ++ url.pathText ++ url.queryText ++ url.fragmentText

/-- Whether nothing can be relative to an address. -/
def isFlat (url : Url) : Bool :=
  match url.path with
  | .flat _ => true
  | .segments _ => false

/-- The address with an empty segment at the end of its path, so that relative texts add to
the path and replace nothing. -/
def asDirectory (url : Url) : Url :=
  match url.path with
  | .segments list =>
    if list.getLast? = some "" then url else { url with path := .segments (list ++ [""]) }
  | .flat _ => url

/-- An address as it is shown in the description of a value. -/
def describe (url : Url) : String :=
  Text.described "Url"
    [("scheme", Text.quoted url.scheme),
      ("cannot_be_a_base", if url.isFlat then "true" else "false"),
      ("username", Text.quoted url.username),
      ("password", Text.optional (url.password.map Text.quoted)),
      ("host", Text.optional (url.host.bind Host.describe)),
      ("port", Text.optional (url.port.map toString)),
      ("path", Text.quoted url.path.write),
      ("query", Text.optional (url.query.map Text.quoted)),
      ("fragment", Text.optional (url.fragment.map Text.quoted))]

/-- An address in JSON. -/
def toJson (url : Url) : Json.Value :=
  .text url.write

end Url

end BearerCache
