import BearerCache.Settings.Exchange
import BearerCache.Settings.Generator

/-! # Settings of load tests

Settings under which load tests run: all but the addresses and the key are fixed, and so is
the instant that their clock shows. -/

namespace BearerCache.LoadTest

/-- The user who asks the token generator. -/
def username : String := "loadtest-user"

/-- The password of that user. -/
def password : String := "loadtest-pass"

/-- The client that exchanges grants. -/
def clientId : Identifier .client := ⟨"loadtest-client", by decide⟩

/-- The key of that client. -/
def keyId : Identifier .key := ⟨"loadtest-signing-key", by decide⟩

theorem now_inRange :
    minInstantNanos ≤ 1740830400000000000 ∧ 1740830400000000000 ≤ maxInstantNanos := by
  decide

/-- What the clock shows, noon of the first of March 2025. -/
def now : Instant := ⟨1740830400000000000, now_inRange⟩

/-- An address that settings can hold, if the text is one. -/
def address? (text : String) : Option Url :=
  (Url.parse text).toOption

/-- The settings of a token generator, if it can be reached at the address. -/
def generator? (baseUrl : String) : Option GeneratorSettings :=
  (address? baseUrl).bind fun url =>
    { GeneratorDraft.ofUser username password with baseUrl := some url }.build.toOption

/-- The settings of a grant exchange, if it can be reached at the address. -/
def exchange? (tokenUrl : String) (encodedJwk : Secret) : Option ExchangeSettings :=
  (address? tokenUrl).bind fun url =>
    { ExchangeDraft.ofClient clientId keyId encodedJwk with tokenUrl := some url }.build.toOption

end BearerCache.LoadTest
