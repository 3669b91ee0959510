import BearerCache.Crypto.Rsa
import BearerCache.Scopes
import BearerCache.Secret
import BearerCache.Settings.Basic
import BearerCache.Text.Base64

/-! # Signed grants

A grant is a JWT by which a client asks for a token: it says who asks, for which scopes, and
until when the grant itself is good.  It is signed with an RSA key that is kept as the Base64
of a JSON Web Key.

The claim `jti` makes each grant different from all others; what it is made of, the nonce, is
given from outside. -/

namespace BearerCache

/-! ## Claims -/

/-- What a grant says. -/
structure GrantClaims where
  aud : String
  scope : Scopes
  iss : String
  iat : Int
  exp : Int
  jti : String
  deriving DecidableEq

namespace GrantClaims

/-- Claims in JSON. -/
def toJson (claims : GrantClaims) : Json.Value :=
  .object
    [("aud", .text claims.aud), ("scope", claims.scope.toJson), ("iss", .text claims.iss),
      ("iat", .integer claims.iat), ("exp", .integer claims.exp), ("jti", .text claims.jti)]

/-- The claims that have been read. -/
structure Parts where
  aud : Option String
  scope : Option Scopes
  iss : Option String
  iat : Option Int
  exp : Option Int
  jti : Option String

/-- Reads claims from JSON. -/
def reader : Json.Reader GrantClaims :=
  let int64 := Json.Reader.whole "i64" Text.int64Min Text.int64Max
  .record "struct GrantClaims"
    [.of "aud" Parts.aud (fun a p => { p with aud := a }) .text,
      .of "scope" Parts.scope (fun a p => { p with scope := a }) Scopes.reader,
      .of "iss" Parts.iss (fun a p => { p with iss := a }) .text,
      .of "iat" Parts.iat (fun a p => { p with iat := a }) int64,
      .of "exp" Parts.exp (fun a p => { p with exp := a }) int64,
      .of "jti" Parts.jti (fun a p => { p with jti := a }) .text]
    ⟨none, none, none, none, none, none⟩
    fun p => do
      let aud ← Json.required "aud" p.aud
      let scope ← Json.required "scope" p.scope
      let iss ← Json.required "iss" p.iss
      let iat ← Json.required "iat" p.iat
      let exp ← Json.required "exp" p.exp
      let jti ← Json.required "jti" p.jti
      return ⟨aud, scope, iss, iat, exp, jti⟩

end GrantClaims

/-! ## Keys -/

/-- The members of a JSON Web Key that make an RSA key. -/
structure JsonWebKey where
  kty : String
  n : String
  e : String
  d : String
  p : Option String
  q : Option String

namespace JsonWebKey

/-- The members that have been read; the prime factors may be there and be null. -/
structure Parts where
  kty : Option String
  n : Option String
  e : Option String
  d : Option String
  p : Option (Option String)
  q : Option (Option String)

/-- Reads a key from JSON. -/
def reader : Json.Reader JsonWebKey :=
  .record "struct RsaJwk"
    [.of "kty" Parts.kty (fun a p => { p with kty := a }) .text,
      .of "n" Parts.n (fun a p => { p with n := a }) .text,
      .of "e" Parts.e (fun a p => { p with e := a }) .text,
      .of "d" Parts.d (fun a p => { p with d := a }) .text,
      .of "p" Parts.p (fun a p => { p with p := a }) (.option .text),
      .of "q" Parts.q (fun a p => { p with q := a }) (.option .text)]
    ⟨none, none, none, none, none, none⟩
    fun p => do
      let kty ← Json.required "kty" p.kty
      let n ← Json.required "n" p.n
      let e ← Json.required "e" p.e
      let d ← Json.required "d" p.d
      return ⟨kty, n, e, d, p.p.join, p.q.join⟩

/-- The number that a member holds. -/
def number (member value : String) : Except String Nat :=
  match Text.Base64.decode .urlSafe .forbidden (Text.bytes value) with
  | .error fault => .error s!"JWK member {member}: {fault.message}"
  | .ok bytes => .ok (Rsa.ofBytes bytes)

/-- The RSA key of a JSON Web Key, or the reason why there is none. -/
def toRsaKey (jwk : JsonWebKey) : Except String RsaKey := do
  if jwk.kty ≠ "RSA" then throw s!"expected an RSA key, got kty {jwk.kty}"
  match jwk.p, jwk.q with
  | some p, some q => do
    let n ← number "n" jwk.n
    let e ← number "e" jwk.e
    let d ← number "d" jwk.d
    let p ← number "p" p
    let q ← number "q" q
    let key : RsaKey := ⟨n, e, d, p, q⟩
    match key.fault? with
    | some fault => throw fault.message
    | none => return key
  | _, _ => throw "the JWK is missing its prime factors"

end JsonWebKey

/-- The RSA key of a text that is the Base64 of a JSON Web Key, or the reason why there is
none. -/
def RsaKey.ofEncodedJwk (encoded : Secret) : Except String RsaKey :=
  match Text.Base64.decode .standard .indifferent (Text.bytes (Text.trim encoded.expose)) with
  | .error fault => .error fault.message
  | .ok json =>
    match JsonWebKey.reader.parse json with
    | .error fault => .error (fault.message json)
    | .ok jwk => jwk.toRsaKey

/-! ## Signing -/

/-- Signs the grants of a client. -/
structure GrantSigner where
  clientId : Identifier .client
  keyId : Identifier .key
  audience : String
  lifetime : Span
  key : RsaKey

namespace GrantSigner

/-- The signer of a client with an encoded key. -/
def ofEncodedJwk (clientId : Identifier .client) (keyId : Identifier .key) (audience : String)
    (encoded : Secret) (lifetime : Span) : Except SetupFault GrantSigner :=
  if lifetime.isPositive then
    match RsaKey.ofEncodedJwk encoded with
    | .error reason => .error (.keyMaterial reason)
    | .ok key => .ok ⟨clientId, keyId, audience, lifetime, key⟩
  else .error (.nonPositive "assertion_lifetime")

/-- The claims of a grant made `now`; nothing if the grant would be good for longer than can
be said in 64 bits. -/
def claims? (signer : GrantSigner) (scope : Scopes) (now : Instant) (nonce : List UInt8) :
    Option GrantClaims :=
  let iat := now.unixSeconds
  let exp := iat + signer.lifetime.wholeSeconds
  if Text.int64Min ≤ exp ∧ exp ≤ Text.int64Max then
    some ⟨signer.audience, scope, signer.clientId.text, iat, exp,
      Text.Base64.encode .urlSafe nonce⟩
  else none

/-- The header of the grants that a key signs. -/
def header (keyId : Identifier .key) : Json.Value :=
  .object [("typ", .text "JWT"), ("alg", .text "RS256"), ("kid", .text keyId.text)]

/-- The Base64 form of a JSON value, as it stands in a grant. -/
def segment (value : Json.Value) : String :=
  Text.Base64.encode .urlSafe (Text.bytes value.write)

/-- The grant with some claims, if the key signs. -/
def signClaims (signer : GrantSigner) (claims : GrantClaims) : Except SetupFault String :=
  let content := segment (header signer.keyId) ++ "." ++ segment claims.toJson
  match Rsa.sign? signer.key (Text.bytes content) with
  | some signature => .ok (content ++ "." ++ Text.Base64.encode .urlSafe signature)
  | none => .error .signing

/-- The grant for some scopes made `now`; nothing if it cannot be said for how long it is
good. -/
def sign? (signer : GrantSigner) (scope : Scopes) (now : Instant) (nonce : List UInt8) :
    Option (Except SetupFault String) :=
  (signer.claims? scope now nonce).map signer.signClaims

/-- A signer as it is shown in the description of a value. -/
def describe (signer : GrantSigner) : String :=
  Text.described "AssertionSigner"
    [("client_id", signer.clientId.describe), ("key_id", signer.keyId.describe),
      ("audience", Text.quoted signer.audience), ("lifetime", signer.lifetime.describe),
      ("key", Text.quoted Secret.redacted)]

end GrantSigner

end BearerCache
