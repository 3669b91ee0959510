import BearerCache.Json.Record
import BearerCache.Json.Value

/-! # Kinds of tokens

The four kinds of tokens that can be asked for, what options a request of each kind may have,
and where the test token generator hands them out. -/

namespace BearerCache

/-- A kind of token. -/
inductive TokenKind where
  | personal
  | enterprise
  | platform
  | maskinporten
  deriving DecidableEq, Repr

namespace TokenKind

/-- All kinds, in their order. -/
def all : List TokenKind := [personal, enterprise, platform, maskinporten]

/-- The label of a kind, which stands for it in keys, messages and logs. -/
def label : TokenKind → String
  | personal => "personal"
  | enterprise => "enterprise"
  | platform => "platform"
  | maskinporten => "maskinporten"

/-- A kind as it is shown in the description of a value. -/
def describe : TokenKind → String
  | personal => "Personal"
  | enterprise => "Enterprise"
  | platform => "Platform"
  | maskinporten => "Maskinporten"

/-- The place of a kind in the order, from zero. -/
def index : TokenKind → Nat
  | personal => 0
  | enterprise => 1
  | platform => 2
  | maskinporten => 3

/-- The options that a request may have. -/
def optionNames : TokenKind → List String
  | personal =>
    ["env", "scopes", "userId", "partyId", "pid", "bulkCount", "authLvl", "consumerOrgNo",
      "partyuuid", "userName", "clientAmr", "ttl", "delegationSource"]
  | enterprise =>
    ["env", "scopes", "org", "orgName", "orgNo", "supplierOrgNo", "partyId", "userId",
      "partyuuid", "userName", "ttl", "delegationSource"]
  | platform => ["env", "app", "ttl"]
  | maskinporten => ["scopes"]

/-- Whether a request may have an option of this name. -/
def allows (kind : TokenKind) (name : String) : Bool :=
  kind.optionNames.contains name

/-- The last segment of the address at which the token generator hands out this kind;
nothing for the kind that it does not serve. -/
def endpoint? : TokenKind → Option String
  | personal => some "GetPersonalToken"
  | enterprise => some "GetEnterpriseToken"
  | platform => some "GetPlatformToken"
  | maskinporten => none

/-- A kind in JSON: its label. -/
def toJson (kind : TokenKind) : Json.Value :=
  .text kind.label

/-- The alternatives by which a kind is read. -/
def choices : List (String × Json.Choice TokenKind) :=
  all.map fun kind => (kind.label, .bare kind)

/-- Reads a kind from JSON. -/
def reader : Json.Reader TokenKind :=
  .choice choices

/-- The kind that a JSON value stands for: its label, or an object whose only member has
that name and is null. -/
def ofJson : Json.Value → Except String TokenKind
  | .text name => Json.bareChoice choices name
  | .object [(name, value)] => do
    let kind ← Json.bareChoice choices name
    match value with
    | .null => return kind
    | value => throw (Json.wrongKind value.found "unit")
  | .object _ => .error "invalid value: map, expected map with a single key"
  | value => .error (Json.wrongKind value.found "string or map")

end TokenKind

end BearerCache
