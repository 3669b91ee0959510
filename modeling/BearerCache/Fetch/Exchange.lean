import BearerCache.Fetch.Basic
import BearerCache.Grant
import BearerCache.Http.Network
import BearerCache.Settings.Exchange
import BearerCache.Text.Form

/-! # The grant exchange

Fetches the token of a machine client: a grant for the scopes of the request is signed and
posted, and the reply is a JSON object with the token.  A request of another kind, one without
scopes, and a key that does not sign fail before anything is sent. -/

namespace BearerCache

/-- A client that exchanges grants. -/
structure GrantExchange where
  settings : ExchangeSettings
  signer : GrantSigner

namespace GrantExchange

/-- The exchange with some settings, whose key is read at once. -/
def ofSettings (settings : ExchangeSettings) : Except SetupFault GrantExchange := do
  let signer ← GrantSigner.ofEncodedJwk settings.clientId settings.keyId settings.audience
    settings.encodedJwk settings.assertionLifetime
  return ⟨settings, signer⟩

/-- What a grant is called where it is posted. -/
def grantType : String := "urn:ietf:params:oauth:grant-type:jwt-bearer"

/-- The form in which a grant is posted. -/
def form (grant : String) : String :=
  Text.Form.encode [("grant_type", grantType), ("assertion", grant)]

/-- What is sent for a request `now`; nothing at all where the grant has no end that can be
said. -/
def wireRequest? (exchange : GrantExchange) (request : TokenRequest) (now : Instant)
    (nonce : List UInt8) : Option (Except Failure Http.Request) :=
  if request.kind ≠ .maskinporten then
    some (.error (.setup (.unsupported "maskinporten" request.kind)))
  else
    match request.scopes? with
    | none =>
      some (.error (.request (.missingOption request.kind TokenRequest.scopesName)))
    | some scopes =>
      (exchange.signer.sign? scopes now nonce).map fun
        | .error fault => .error (.setup fault)
        | .ok grant => .ok (Http.postForm exchange.settings.tokenUrl (form grant))

/-- Fetches the token of a request. -/
def fetch (exchange : GrantExchange) (request : TokenRequest) (now : Instant)
    (nonce : List UInt8) (network : Http.Network) : FetchEnd × Http.Network :=
  match exchange.wireRequest? request now nonce with
  | none => (.broken, network)
  | some (.error failure) => (.failed failure, network)
  | some (.ok wire) =>
    let (response, network) := network.send wire
    match response with
    | none => (.failed .unreachable, network)
    | some response =>
      if response.status = 200 then
        match Body.accessToken response.body with
        | .ok token => (.token ⟨token⟩, network)
        | .error fault => (.failed (.body fault), network)
      else (.failed (.refused request.kind response.status response.body), network)

/-- The nonce with a number. -/
def nonceOf (number : Nat) : List UInt8 :=
  Rsa.toBytes 16 number

/-- The exchange as a source of tokens; the nonces are numbered. -/
def fetcher (exchange : GrantExchange) : Fetcher (Http.Network × Nat) where
  canonical := id
  rule _ := .expiryClaim
  call request now state :=
    let (outcome, network) := exchange.fetch request now (nonceOf state.2) state.1
    (.now outcome, (network, state.2 + 1))

/-- An exchange as it is shown in the description of a value. -/
def describe (exchange : GrantExchange) : String :=
  Text.described "MaskinportenFetcher"
    [("token_url", Text.quoted exchange.settings.tokenUrl.write),
      ("signer", exchange.signer.describe)]

end GrantExchange

end BearerCache
