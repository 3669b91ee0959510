import BearerCache.Secret
import BearerCache.Settings.Basic

/-! # Settings of the token generator

Where the test token generator is, who asks it, and what it is asked for when a request does
not say: the environment and the lifetime of the token. -/

namespace BearerCache

/-- How the token generator is reached and asked. -/
structure GeneratorSettings where
  baseUrl : Url
  username : String
  password : Secret
  defaultEnv : String
  defaultTtl : Span
  requestTimeout : Span
  deriving DecidableEq

/-- Settings that have not been checked. -/
structure GeneratorDraft where
  /-- The base address, unless it is the usual one. -/
  baseUrl : Option Url
  username : String
  password : Secret
  defaultEnv : String
  defaultTtl : Span
  requestTimeout : Span
  deriving DecidableEq

namespace GeneratorDraft

/-- The usual base address. -/
def usualUrl : String := "https://altinn-testtools-token-generator.azurewebsites.net/api/"

/-- The usual environment. -/
def usualEnv : String := "yt01"

/-- The usual lifetime, an hour. -/
def usualTtl : Span := ⟨3600000000000, by decide⟩

/-- The usual settings for a user. -/
def ofUser (username password : String) : GeneratorDraft :=
  ⟨none, username, ⟨password⟩, usualEnv, usualTtl, Settings.defaultTimeout⟩

/-- Checks the settings.  The base address gets a slash at the end of its path, so that
endpoints add to it. -/
def build (draft : GeneratorDraft) : Except SetupFault GeneratorSettings := do
  let baseUrl ← Settings.httpUrl "base_url" draft.baseUrl usualUrl
  let defaultTtl ← Settings.positive "default_ttl" draft.defaultTtl
  let requestTimeout ← Settings.positive "request_timeout" draft.requestTimeout
  return ⟨baseUrl.asDirectory, draft.username, draft.password, draft.defaultEnv, defaultTtl,
    requestTimeout⟩

end GeneratorDraft

namespace GeneratorSettings

/-- The variable with the user name. -/
def usernameVariable : String := "TOKEN_GENERATOR_USERNAME"

/-- The variable with the password. -/
def passwordVariable : String := "TOKEN_GENERATOR_PASSWORD"

/-- The variable with the lifetime in seconds. -/
def ttlVariable : String := "TTL"

/-- The settings that variables give.  A lifetime that is not a positive number of seconds
counts as none. -/
def ofVariables (lookup : String → Option String) : Except SetupFault GeneratorSettings := do
  let username ← Settings.requiredVariable lookup usernameVariable
  let password ← Settings.requiredVariable lookup passwordVariable
  let ttl := ((lookup ttlVariable).bind Text.positiveSeconds?).bind Span.ofSeconds?
  let draft := GeneratorDraft.ofUser username password
  { draft with defaultTtl := ttl.getD draft.defaultTtl }.build

/-- The address of an endpoint. -/
def endpointUrl (settings : GeneratorSettings) (endpoint : String) : Except SetupFault Url :=
  (settings.baseUrl.join endpoint).mapError (.endpoint endpoint)

/-- Settings as they are shown in the description of a value. -/
def describe (settings : GeneratorSettings) : String :=
  Text.described "TokenGeneratorConfig"
    [("base_url", settings.baseUrl.describe), ("username", Text.quoted settings.username),
      ("password", settings.password.describe),
      ("default_env", Text.quoted settings.defaultEnv),
      ("default_ttl", settings.defaultTtl.describe),
      ("request_timeout", settings.requestTimeout.describe)]

/-- Settings in JSON. -/
def toJson (settings : GeneratorSettings) : Json.Value :=
  .object
    [("base_url", settings.baseUrl.toJson), ("username", .text settings.username),
      ("password", settings.password.toJson), ("default_env", .text settings.defaultEnv),
      ("default_ttl", settings.defaultTtl.toJson),
      ("request_timeout", settings.requestTimeout.toJson)]

/-- The members of settings that have been read. -/
structure Parts where
  baseUrl : Option Url
  username : Option String
  password : Option Secret
  defaultEnv : Option String
  defaultTtl : Option Span
  requestTimeout : Option Span

/-- Reads settings from JSON.  They are taken as they are, without the checks of a draft. -/
def reader : Json.Reader GeneratorSettings :=
  .record "struct TokenGeneratorConfig"
    [.of "base_url" Parts.baseUrl (fun a p => { p with baseUrl := a }) Url.reader,
      .of "username" Parts.username (fun a p => { p with username := a }) .text,
      .of "password" Parts.password (fun a p => { p with password := a }) Secret.reader,
      .of "default_env" Parts.defaultEnv (fun a p => { p with defaultEnv := a }) .text,
      .of "default_ttl" Parts.defaultTtl (fun a p => { p with defaultTtl := a }) Span.reader,
      .of "request_timeout" Parts.requestTimeout (fun a p => { p with requestTimeout := a })
        Span.reader]
    ⟨none, none, none, none, none, none⟩
    fun p => do
      let baseUrl ← Json.required "base_url" p.baseUrl
      let username ← Json.required "username" p.username
      let password ← Json.required "password" p.password
      let defaultEnv ← Json.required "default_env" p.defaultEnv
      let defaultTtl ← Json.required "default_ttl" p.defaultTtl
      let requestTimeout ← Json.required "request_timeout" p.requestTimeout
      return ⟨baseUrl, username, password, defaultEnv, defaultTtl, requestTimeout⟩

end GeneratorSettings

end BearerCache
