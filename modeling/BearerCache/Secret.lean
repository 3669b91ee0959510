import BearerCache.Json.Record
import BearerCache.Json.Value

/-! # Secrets

A text that is not to be shown: descriptions of a secret, and of everything that holds one,
have `redacted` in its place. -/

namespace BearerCache

/-- A text that is not to be shown. -/
structure Secret where
  expose : String
  deriving DecidableEq

namespace Secret

/-- What is shown in the place of a secret. -/
def redacted : String := "<redacted>"

/-- A secret as it is shown in the description of a value. -/
def describe (_ : Secret) : String :=
  Text.wrapped "TokenSecret" (Text.quoted redacted)

/-- The value of an `Authorization` header that presents the secret. -/
def bearerHeader (secret : Secret) : String :=
  "Bearer " ++ secret.expose

/-- A secret in JSON is not redacted. -/
def toJson (secret : Secret) : Json.Value :=
  .text secret.expose

/-- Reads a secret from JSON. -/
def reader : Json.Reader Secret :=
  Json.Reader.text.map Secret.mk

end Secret

end BearerCache
