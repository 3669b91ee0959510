import BearerCache.Json.Record
import BearerCache.NameMap
import BearerCache.Text.Blank
import BearerCache.Text.Utf8

/-! # Bodies of replies

What is read from the body of a reply: a token as it stands, the token in a JSON object, or
the tokens of many parties, each under its name. -/

namespace BearerCache

/-- Why a body holds no token. -/
inductive BodyFault where
  | empty
  | tokenResponse (fault : Json.Fault)
  | bulkTokens (fault : Json.Fault)

/-- The wording of a fault. -/
def BodyFault.message : BodyFault → String
  | .empty => "Token endpoint returned an empty body."
  | .tokenResponse fault => s!"Unable to parse token response at `{fault.pathText}`."
  | .bulkTokens _ => "Unable to parse bulk token payload."

namespace Body

/-- The token that a whole body is, without blanks around it. -/
def plainToken (body : String) : Except BodyFault String :=
  if Text.trim body = "" then .error .empty else .ok (Text.trim body)

/-- Reads the member of a token response that counts. -/
def accessTokenReader : Json.Reader String :=
  .record "struct AccessTokenResponse"
    [.of "access_token" id (fun token _ => token) .text]
    (none : Option String)
    (Json.required "access_token")

/-- The token of a token response.  The response is the value at the front of the body. -/
def accessToken (body : String) : Except BodyFault String :=
  if Text.isAllBlank body then .error .empty
  else
    match accessTokenReader.parseFront (Text.bytes body) with
    | .error fault => .error (.tokenResponse fault)
    | .ok token => if Text.isAllBlank token then .error .empty else .ok token

/-- The tokens of many parties; of several with one name the last one counts. -/
def bulkTokens (body : String) : Except BodyFault (NameMap String) :=
  match (Json.Reader.entries .text).parse (Text.bytes body) with
  | .error fault => .error (.bulkTokens fault)
  | .ok pairs => .ok (.ofList pairs)

end Body

end BearerCache
