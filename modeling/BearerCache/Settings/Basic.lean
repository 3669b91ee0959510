import BearerCache.Identifier
import BearerCache.Lease.Basic
import BearerCache.Request.Kind
import BearerCache.Url.Parser

/-! # Checks of settings

What the settings of both fetchers have in common: an address must be reached by HTTP, a
length of time must be positive, and a variable of the environment must not be blank.

A fault says why something could not be set up, or is set up in a way in which it cannot serve
a request. -/

namespace BearerCache

/-- Why something is not set up to work. -/
inductive SetupFault where
  /-- A variable of the environment is not there, or is blank. -/
  | missingVariable (name : String)
  /-- An address that cannot be used, or a blank text in place of one. -/
  | invalidUrl (field url : String)
  /-- An endpoint that has no address. -/
  | endpoint (name : String) (fault : Url.Fault)
  | nonPositive (field : String)
  | lease (fault : LeaseFault)
  | identifier (fault : IdentifierFault)
  | keyMaterial (reason : String)
  /-- The key does not sign. -/
  | signing
  /-- A fetcher does not serve a kind of token. -/
  | unsupported (fetcher : String) (kind : TokenKind)
  /-- The client that carries requests could not be made. -/
  | client
  deriving DecidableEq, Repr

/-- The wording of a fault. -/
def SetupFault.message : SetupFault → String
  | .missingVariable name => s!"Environment variable {name} is required."
  | .invalidUrl field url => s!"The {field} URL is invalid: {url}."
  | .endpoint name _ => s!"Unable to build the {name} URL."
  | .nonPositive field => s!"The {field} duration must be positive."
  | .lease _ => "Unable to build cached credential."
  | .identifier fault => fault.message
  | .keyMaterial reason => s!"Signing key material is unusable: {reason}."
  | .signing => "Unable to sign the JWT-bearer assertion."
  | .unsupported fetcher kind =>
    s!"The {fetcher} fetcher does not serve {kind.label} credentials."
  | .client => "HTTP client could not be constructed."

namespace Settings

/-- How long a reply is waited for unless something else is set. -/
def defaultTimeout : Span := ⟨30000000000, by decide⟩

/-- The address that is set for a field, or else the usual one. -/
def httpUrl (field : String) (url : Option Url) (usual : String) : Except SetupFault Url := do
  let url ←
    match url with
    | some url => pure url
    | none => (Url.parse usual).mapError fun _ => .invalidUrl field usual
  if (url.scheme = "http" ∨ url.scheme = "https") ∧ !url.isFlat then return url
  else throw (.invalidUrl field url.write)

/-- A span that must be positive. -/
def positive (field : String) (span : Span) : Except SetupFault Span :=
  if span.isPositive then .ok span else .error (.nonPositive field)

/-- The trimmed value of a variable that must not be blank. -/
def requiredVariable (lookup : String → Option String) (name : String) : Except SetupFault String :=
  match (lookup name).map Text.trim with
  | none | some "" => .error (.missingVariable name)
  | some value => .ok value

end Settings

end BearerCache
