import BearerCache.Fetch.Basic
import BearerCache.Http.Network
import BearerCache.Settings.Generator
import BearerCache.Text.Form

/-! # The token generator

Fetches test tokens: the kind of token decides the endpoint, the options of the canonical
request are the query, and the body of the reply is the token.  A request of a kind that the
generator does not serve fails before anything is sent. -/

namespace BearerCache.GeneratorSettings

/-- The request with the environment and the lifetime that the settings have for it. -/
def canonical (settings : GeneratorSettings) (request : TokenRequest) : TokenRequest :=
  match request.kind.endpoint? with
  | none => request
  | some _ => request.withDefaults settings.defaultEnv settings.defaultTtl

/-- How long the token of a request lives: as long as was asked for, or else as usual. -/
def lifetime (settings : GeneratorSettings) (request : TokenRequest) : Span :=
  request.ttl?.getD settings.defaultTtl

/-- The lifetime of a token is known before it is there. -/
def rule (settings : GeneratorSettings) (request : TokenRequest) : LifetimeRule :=
  .fixed (settings.lifetime request)

/-- What is sent for a request. -/
def wireRequest (settings : GeneratorSettings) (request : TokenRequest) :
    Except SetupFault Http.Request := do
  let some endpoint := request.kind.endpoint?
    | throw (.unsupported "token generator" request.kind)
  let url ← settings.endpointUrl endpoint
  let query := Text.Form.encode (settings.canonical request).options.entries
  let credentials :=
    Http.basicHeader (Text.bytes settings.username) (Text.bytes settings.password.expose)
  return Http.get { url with query := some query } [credentials]

/-- The body of the reply to a request. -/
def fetchBody (settings : GeneratorSettings) (request : TokenRequest) (network : Http.Network) :
    Except Failure String × Http.Network :=
  match settings.wireRequest request with
  | .error fault => (.error (.setup fault), network)
  | .ok wire =>
    let (response, network) := network.send wire
    match response with
    | none => (.error .unreachable, network)
    | some response =>
      if response.status = 200 then (.ok response.body, network)
      else (.error (.refused request.kind response.status response.body), network)

/-- Fetches the token of a request. -/
def fetch (settings : GeneratorSettings) (request : TokenRequest) (network : Http.Network) :
    Except Failure Secret × Http.Network :=
  let (body, network) := settings.fetchBody request network
  (body.bind fun body => ((Body.plainToken body).mapError .body).map Secret.mk, network)

/-- Fetches the tokens of many parties at once. -/
def fetchBulk (settings : GeneratorSettings) (request : TokenRequest) (network : Http.Network) :
    Except Failure (NameMap String) × Http.Network :=
  let (body, network) := settings.fetchBody request network
  (body.bind fun body => (Body.bulkTokens body).mapError .body, network)

/-- The token generator as a source of tokens. -/
def fetcher (settings : GeneratorSettings) : Fetcher Http.Network where
  canonical := settings.canonical
  rule := settings.rule
  call request _ network :=
    let (result, network) := settings.fetch request network
    (.now (.ofResult result), network)

end BearerCache.GeneratorSettings
