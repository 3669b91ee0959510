import BearerCache.NameMap
import BearerCache.Request.Kind
import BearerCache.Scopes
import BearerCache.Time.Span

/-! # Requests for tokens

A request names a kind of token and its options.  Options are taken in one by one: the name
must belong to the kind, the value must not be blank, scopes are put into their normal text
and the lifetime, `ttl`, is trimmed.  They are kept by name, so their order does not matter
and a later value of one name replaces an earlier one. -/

namespace BearerCache

/-- Why a request cannot be made, or cannot be served. -/
inductive RequestFault where
  /-- The kind of token does not have this option. -/
  | unknownOption (kind : TokenKind) (name : String)
  /-- The value of an option is blank. -/
  | emptyValue (name : String)
  /-- The value of `scopes` is no scope set. -/
  | invalidScopes (fault : ScopeFault)
  /-- The value of `ttl` is no positive number of seconds. -/
  | invalidTtl (value : String)
  /-- An option that is needed is not there. -/
  | missingOption (kind : TokenKind) (name : String)
  deriving DecidableEq, Repr

/-- The wording of a fault. -/
def RequestFault.message : RequestFault → String
  | .unknownOption _ name => s!"TokenGeneratorOptions: \"{name}\" is not a valid option"
  | .emptyValue name => s!"TokenGeneratorOptions: \"{name}\" cannot be empty"
  | .invalidScopes fault =>
    "TokenGeneratorOptions: \"scopes\" is invalid: " ++ fault.message
  | .invalidTtl value =>
    s!"TokenGeneratorOptions: \"ttl\" must be a positive number of seconds, got {value}"
  | .missingOption kind name => s!"{kind.label} requests require the \"{name}\" option"

/-- A request for a token. -/
structure TokenRequest where
  kind : TokenKind
  options : NameMap String
  deriving DecidableEq

namespace TokenRequest

/-! ## Taking options in -/

/-- The option with the scopes that are asked for. -/
def scopesName : String := "scopes"

/-- The option with the lifetime that is asked for. -/
def ttlName : String := "ttl"

/-- The option with the environment that the token is for. -/
def envName : String := "env"

/-- Refuses names that a kind does not have; the first one is reported. -/
def checkNames (kind : TokenKind) (names : List String) : Except RequestFault Unit :=
  match names.find? (!kind.allows ·) with
  | some name => .error (.unknownOption kind name)
  | none => .ok ()

/-- The value that is kept for an option. -/
def keptValue (name value : String) : Except RequestFault String :=
  if Text.isAllBlank value then .error (.emptyValue name)
  else if name = scopesName then
    match Scopes.ofText value with
    | .error fault => .error (.invalidScopes fault)
    | .ok scopes => .ok scopes.normalText
  else if name = ttlName then
    match Text.positiveSeconds? value with
    | none => .error (.invalidTtl value)
    | some _ => .ok (Text.trim value)
  else .ok value

/-- Adds an option whose name is known to be allowed. -/
def put (request : TokenRequest) (pair : String × String) : Except RequestFault TokenRequest :=
  match keptValue pair.1 pair.2 with
  | .error fault => .error fault
  | .ok value => .ok { request with options := request.options.insert pair.1 value }

/-- The request of a kind with a list of options.  All names are checked before any value. -/
def ofPairs (kind : TokenKind) (pairs : List (String × String)) :
    Except RequestFault TokenRequest :=
  match checkNames kind (pairs.map (·.1)) with
  | .error fault => .error fault
  | .ok () => pairs.foldlM put ⟨kind, .empty⟩

/-- A request for the token of a machine client, with the text of its scopes. -/
def ofScopesText (scopes : String) : Except RequestFault TokenRequest :=
  ofPairs .maskinporten [(scopesName, scopes)]

/-- The scope that gives access to the administration of rights. -/
def accessManagementScope : String := "altinn:portal/enduser"

/-- A request for the token of a person who administers the rights of a party. -/
def accessManagement (partyUuid userId : String) : Except RequestFault TokenRequest :=
  ofPairs .personal
    [(scopesName, accessManagementScope), ("userId", userId), ("partyuuid", partyUuid)]

/-- The request with one more option. -/
def withOption (request : TokenRequest) (name value : String) :
    Except RequestFault TokenRequest :=
  match checkNames request.kind [name] with
  | .error fault => .error fault
  | .ok () => request.put (name, value)

/-- The request with a value for an option that has none; for the others it stays. -/
def orElse (request : TokenRequest) (name value : String) : TokenRequest :=
  if request.options.contains name then request
  else { request with options := request.options.insert name value }

/-- The request with an environment and a lifetime, where its kind has such an option, it has
none yet and there is one to give. -/
def withDefaults (request : TokenRequest) (env : String) (ttl : Span) : TokenRequest :=
  let request :=
    if request.kind.allows envName && env != "" then request.orElse envName env else request
  if request.kind.allows ttlName && ttl.isPositive then
    request.orElse ttlName (Text.decimal ttl.wholeSeconds)
  else request

/-! ## What a request asks for -/

/-- The value of an option. -/
def get? (request : TokenRequest) (name : String) : Option String :=
  request.options.get? name

/-- The scopes that are asked for. -/
def scopes? (request : TokenRequest) : Option Scopes :=
  (request.get? scopesName).bind fun text => (Scopes.ofText text).toOption

/-- The lifetime that is asked for. -/
def ttl? (request : TokenRequest) : Option Span :=
  (request.get? ttlName).bind fun text => (Text.positiveSeconds? text).bind Span.ofSeconds?

/-- A request as it is shown in the description of a value: the names of its options without
their values. -/
def describe (request : TokenRequest) : String :=
  Text.described "CredentialRequest"
    [("variant", request.kind.describe),
      ("options", Text.listed (request.options.names.map Text.quoted))]

end TokenRequest

end BearerCache
