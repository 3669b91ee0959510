import BearerCache.Crypto.Sha256
import BearerCache.Request.Basic
import BearerCache.Text.Base64
import BearerCache.Text.Form

/-! # Entry keys

The key under which the lease of a request is kept: the label of its kind, a bar, and its
options in form encoding.  Logs and descriptions show the fingerprint of a key in its place,
because option values may be personal. -/

namespace BearerCache

/-- A key of the store. -/
structure EntryKey where
  text : String
  deriving DecidableEq

namespace EntryKey

/-- The key of a request. -/
def ofRequest (request : TokenRequest) : EntryKey :=
  ⟨request.kind.label ++ "|" ++ Text.Form.encode request.options.entries⟩

/-- The Base64 form of the hash of a key. -/
def fingerprint (key : EntryKey) : String :=
  Text.Base64.encode .standard (Sha256.digest (Text.bytes key.text))

/-- A key as it is shown in the description of a value. -/
def describe (key : EntryKey) : String :=
  Text.wrapped "CacheKey" (Text.quoted key.fingerprint)

/-- A key in JSON. -/
def toJson (key : EntryKey) : Json.Value :=
  .text key.text

/-- Reads a key from JSON; any text is one. -/
def reader : Json.Reader EntryKey :=
  Json.Reader.text.map EntryKey.mk

end EntryKey

/-- The key under which the lease of a request is kept. -/
def TokenRequest.key (request : TokenRequest) : EntryKey :=
  .ofRequest request

end BearerCache
