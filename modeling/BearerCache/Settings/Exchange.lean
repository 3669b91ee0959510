import BearerCache.Secret
import BearerCache.Settings.Basic

/-! # Settings of the grant exchange

Where grants are exchanged for tokens, as which client, and with which key they are
signed. -/

namespace BearerCache

/-- How grants are signed and exchanged. -/
structure ExchangeSettings where
  tokenUrl : Url
  audience : String
  clientId : Identifier .client
  keyId : Identifier .key
  encodedJwk : Secret
  assertionLifetime : Span
  requestTimeout : Span
  deriving DecidableEq

/-- Settings that have not been checked. -/
structure ExchangeDraft where
  /-- The address of the exchange, unless it is the usual one. -/
  tokenUrl : Option Url
  /-- The audience of the grants, unless it is the usual one. -/
  audience : Option String
  clientId : Identifier .client
  keyId : Identifier .key
  encodedJwk : Secret
  assertionLifetime : Span
  requestTimeout : Span
  deriving DecidableEq

namespace ExchangeDraft

/-- The usual address of the exchange. -/
def usualTokenUrl : String := "https://test.maskinporten.no/token"

/-- The usual audience. -/
def usualAudience : String := "https://test.maskinporten.no/"

/-- The usual lifetime of a grant, two minutes. -/
def usualLifetime : Span := ⟨120000000000, by decide⟩

/-- The usual settings for a client with its key. -/
def ofClient (clientId : Identifier .client) (keyId : Identifier .key) (encodedJwk : Secret) :
    ExchangeDraft :=
  ⟨none, none, clientId, keyId, encodedJwk, usualLifetime, Settings.defaultTimeout⟩

/-- Checks the settings. -/
def build (draft : ExchangeDraft) : Except SetupFault ExchangeSettings := do
  let audience := draft.audience.getD usualAudience
  if Text.isAllBlank audience then throw (.invalidUrl "audience" audience)
  let tokenUrl ← Settings.httpUrl "token_url" draft.tokenUrl usualTokenUrl
  let assertionLifetime ← Settings.positive "assertion_lifetime" draft.assertionLifetime
  let requestTimeout ← Settings.positive "request_timeout" draft.requestTimeout
  return ⟨tokenUrl, audience, draft.clientId, draft.keyId, draft.encodedJwk,
    assertionLifetime, requestTimeout⟩

end ExchangeDraft

namespace ExchangeSettings

/-- The variable with the identifier of the key. -/
def keyIdVariable : String := "MACHINEPORTEN_KID"

/-- The variable with the identifier of the client. -/
def clientIdVariable : String := "MACHINEPORTEN_CLIENT_ID"

/-- The variable with the key. -/
def encodedJwkVariable : String := "ENCODED_JWK"

/-- The settings that variables give. -/
def ofVariables (lookup : String → Option String) : Except SetupFault ExchangeSettings := do
  let keyId ← Settings.requiredVariable lookup keyIdVariable
  let keyId ← (Identifier.ofText .key keyId).mapError .identifier
  let clientId ← Settings.requiredVariable lookup clientIdVariable
  let clientId ← (Identifier.ofText .client clientId).mapError .identifier
  let encodedJwk ← Settings.requiredVariable lookup encodedJwkVariable
  (ExchangeDraft.ofClient clientId keyId ⟨encodedJwk⟩).build

/-- Settings as they are shown in the description of a value. -/
def describe (settings : ExchangeSettings) : String :=
  Text.described "MaskinportenConfig"
    [("token_url", settings.tokenUrl.describe), ("audience", Text.quoted settings.audience),
      ("client_id", settings.clientId.describe), ("key_id", settings.keyId.describe),
      ("encoded_jwk", settings.encodedJwk.describe),
      ("assertion_lifetime", settings.assertionLifetime.describe),
      ("request_timeout", settings.requestTimeout.describe)]

/-- Settings in JSON. -/
def toJson (settings : ExchangeSettings) : Json.Value :=
  .object
    [("token_url", settings.tokenUrl.toJson), ("audience", .text settings.audience),
      ("client_id", settings.clientId.toJson), ("key_id", settings.keyId.toJson),
      ("encoded_jwk", settings.encodedJwk.toJson),
      ("assertion_lifetime", settings.assertionLifetime.toJson),
      ("request_timeout", settings.requestTimeout.toJson)]

/-- The members of settings that have been read. -/
structure Parts where
  tokenUrl : Option Url
  audience : Option String
  clientId : Option (Identifier .client)
  keyId : Option (Identifier .key)
  encodedJwk : Option Secret
  assertionLifetime : Option Span
  requestTimeout : Option Span

/-- Reads settings from JSON.  They are taken as they are, without the checks of a draft. -/
def reader : Json.Reader ExchangeSettings :=
  .record "struct MaskinportenConfig"
    [.of "token_url" Parts.tokenUrl (fun a p => { p with tokenUrl := a }) Url.reader,
      .of "audience" Parts.audience (fun a p => { p with audience := a }) .text,
      .of "client_id" Parts.clientId (fun a p => { p with clientId := a })
        (Identifier.reader .client),
      .of "key_id" Parts.keyId (fun a p => { p with keyId := a }) (Identifier.reader .key),
      .of "encoded_jwk" Parts.encodedJwk (fun a p => { p with encodedJwk := a }) Secret.reader,
      .of "assertion_lifetime" Parts.assertionLifetime
        (fun a p => { p with assertionLifetime := a }) Span.reader,
      .of "request_timeout" Parts.requestTimeout (fun a p => { p with requestTimeout := a })
        Span.reader]
    ⟨none, none, none, none, none, none, none⟩
    fun p => do
      let tokenUrl ← Json.required "token_url" p.tokenUrl
      let audience ← Json.required "audience" p.audience
      let clientId ← Json.required "client_id" p.clientId
      let keyId ← Json.required "key_id" p.keyId
      let encodedJwk ← Json.required "encoded_jwk" p.encodedJwk
      let assertionLifetime ← Json.required "assertion_lifetime" p.assertionLifetime
      let requestTimeout ← Json.required "request_timeout" p.requestTimeout
      return ⟨tokenUrl, audience, clientId, keyId, encodedJwk, assertionLifetime,
        requestTimeout⟩

end ExchangeSettings

end BearerCache
