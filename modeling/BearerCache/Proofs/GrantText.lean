import BearerCache.Proofs.JsonValues
import BearerCache.Proofs.ScopeWords
import BearerCache.Proofs.Signatures
import BearerCache.Proofs.WireQuery

/-! # A signed grant is read back

A grant is three segments with points between them, each the Base64 form of some bytes: the header,
the claims, and the signature.  `GrantText.read?` takes a grant apart without the key.  What it
finds is what was signed: no text in the claims, whatever its characters are, changes where a
segment, a member or a text ends.

## Key results

- `GrantClaims.reads_toJson`: claims are read back from JSON
- `GrantSigner.read?_of_signClaims`: a signed grant is read back
- `RsaKey.ofEncodedJwk_encode`: a key is read back from its encoded form
- `GrantSigner.signed_grant_round_trip`: the grants of a signer, and what is posted
-/

namespace BearerCache

/-! ## Claims -/

/-- Scopes are read back from JSON. -/
theorem Scopes.reads_toJson (scopes : Scopes) : Json.Reads reader scopes.toJson scopes := by
  refine (Json.Reads.text scopes.normalText).refine ?_
  rw [ofText_normalText]
  rfl

/-- Claims whose numbers fit in 64 bits are read back from JSON. -/
theorem GrantClaims.reads_toJson {claims : GrantClaims}
    (hiat : Text.int64Min ≤ claims.iat ∧ claims.iat ≤ Text.int64Max)
    (hexp : Text.int64Min ≤ claims.exp ∧ claims.exp ≤ Text.int64Max) :
    Json.Reads reader claims.toJson claims := by
  have hwhole : ∀ n : Int, Text.int64Min ≤ n ∧ n ≤ Text.int64Max →
      Json.Reads (.whole "i64" Text.int64Min Text.int64Max) (.integer n) n := by
    rintro n ⟨hmin, hmax⟩
    refine .whole hmin hmax hmin (Int.le_trans hmax (by decide))
  -- The members stand in the order in which they are declared.
  refine .record (.put rfl rfl (.text claims.aud) <| .put rfl rfl claims.scope.reads_toJson <|
    .put rfl rfl (.text claims.iss) <| .put rfl rfl (hwhole _ hiat) <|
    .put rfl rfl (hwhole _ hexp) <| .put rfl rfl (.text claims.jti) .nil) rfl

/-- The header of a grant is read back as its three members. -/
theorem GrantSigner.reads_header (keyId : Identifier .key) :
    Json.Reads (.entries .text) (header keyId)
      [("typ", "JWT"), ("alg", "RS256"), ("kid", keyId.text)] :=
  Json.Reads.entries Json.Reads.text [("typ", "JWT"), ("alg", "RS256"), ("kid", keyId.text)]

/-! ## Grants and what is in them -/

/-- What a grant says to those who do not have the key. -/
structure GrantText where
  /-- The members of the header, in order. -/
  header : List (String × String)
  claims : GrantClaims
  signature : List UInt8

namespace GrantText

/-- The bytes of a segment, which is Base64 for URLs without padding. -/
def segmentBytes? (segment : List Char) : Option (List UInt8) :=
  (Text.Base64.decode .urlSafe .forbidden (Text.bytes (String.ofList segment))).toOption

/-- Reads a grant: three segments between points, the first two of which are JSON. -/
def read? (grant : String) : Option GrantText :=
  match grant.toList.splitOn '.' with
  | [header, claims, signature] =>
    match segmentBytes? header, segmentBytes? claims, segmentBytes? signature with
    | some header, some claims, some signature =>
      match (Json.Reader.entries .text).parse header, GrantClaims.reader.parse claims with
      | .ok header, .ok claims => some ⟨header, claims, signature⟩
      | _, _ => none
    | _, _, _ => none
  | _ => none

/-- The Base64 form of some bytes is a segment. -/
theorem segmentBytes?_encode (bs : List UInt8) :
    segmentBytes? (Text.Base64.encode .urlSafe bs).toList = some bs := by
  rw [segmentBytes?, String.ofList_toList, Text.Base64.decode_encode]
  rfl

/-- Three Base64 forms with points between them are three segments. -/
theorem splitOn_segments (a b c : List UInt8) :
    (Text.Base64.encode .urlSafe a ++ "." ++ Text.Base64.encode .urlSafe b ++ "." ++
        Text.Base64.encode .urlSafe c).toList.splitOn '.' =
      [(Text.Base64.encode .urlSafe a).toList, (Text.Base64.encode .urlSafe b).toList,
        (Text.Base64.encode .urlSafe c).toList] := by
  -- The alphabet has no point in it, so the text is split where the segments meet.
  have hplain (bs : List UInt8) : '.' ∉ (Text.Base64.encode .urlSafe bs).toList :=
    Text.Base64.not_mem_encode .urlSafe bs
  have hpoint : ".".toList = ['.'] := rfl
  simp only [String.toList_append, hpoint, List.append_assoc, List.cons_append,
    List.nil_append]
  rw [List.splitOn_append_cons_self_of_not_mem (hplain a),
    List.splitOn_append_cons_self_of_not_mem (hplain b), List.splitOn_eq_singleton (hplain c)]

end GrantText

/-- A grant that is signed is read back: its header, its claims and its signature, which is one of
the two segments before it. -/
theorem GrantSigner.read?_of_signClaims {signer : GrantSigner} (hsound : signer.key.IsSound)
    {claims : GrantClaims} {grant : String} (h : signer.signClaims claims = .ok grant)
    (hiat : Text.int64Min ≤ claims.iat ∧ claims.iat ≤ Text.int64Max)
    (hexp : Text.int64Min ≤ claims.exp ∧ claims.exp ≤ Text.int64Max) :
    ∃ content signature, grant = content ++ "." ++ Text.Base64.encode .urlSafe signature ∧
      Rsa.verifies signer.key.n signer.key.e (Text.bytes content) signature ∧
      GrantText.read? grant =
        some ⟨[("typ", "JWT"), ("alg", "RS256"), ("kid", signer.keyId.text)], claims,
          signature⟩ := by
  unfold signClaims at h
  dsimp only at h
  split at h
  -- The signature is that of the header and the claims, and the segments are read back one by one.
  next signature hsigned =>
    obtain rfl := Except.ok.inj h
    refine ⟨_, signature, rfl, hsound.verifies_of_sign? hsigned, ?_⟩
    have hheader := (reads_header signer.keyId).parse
    have hclaims := (GrantClaims.reads_toJson hiat hexp).parse
    simp only [GrantText.read?, segment, GrantText.splitOn_segments,
      GrantText.segmentBytes?_encode, hheader, hclaims]
  next => cases h

/-! ## Keys -/

namespace RsaKey

/-- A key, or the wording of its fault. -/
def checked (key : RsaKey) : Except String RsaKey :=
  match key.fault? with
  | some fault => .error fault.message
  | none => .ok key

theorem checked_eq_ok_iff {key key' : RsaKey} :
    key.checked = .ok key' ↔ key = key' ∧ key.fault? = none := by
  unfold checked
  split
  next fault hfault => simp [hfault]
  next hfault => simp [hfault]

end RsaKey

/-- What is read in steps is read if each of them gives something. -/
private theorem bind_eq_ok_iff {ε α β : Type} {x : Except ε α} {f : α → Except ε β} {b : β} :
    x >>= f = .ok b ↔ ∃ a, x = .ok a ∧ f a = .ok b := by
  cases x with
  | error fault => exact ⟨nofun, nofun⟩
  | ok a => exact ⟨fun h => ⟨a, rfl, h⟩, fun ⟨_, h, hf⟩ => Except.ok.inj h ▸ hf⟩

namespace JsonWebKey

variable {kty n e d p q : String} {key : RsaKey}

/-- What is made of a key all of whose members can be read. -/
theorem toRsaKey_of_numbers (hn : number "n" n = .ok key.n) (he : number "e" e = .ok key.e)
    (hd : number "d" d = .ok key.d) (hp : number "p" p = .ok key.p)
    (hq : number "q" q = .ok key.q) :
    (⟨"RSA", n, e, d, some p, some q⟩ : JsonWebKey).toRsaKey = key.checked := by
  simp only [toRsaKey, hn, he, hd, hp, hq]
  rfl

/-- A key is made of members all of which can be read. -/
theorem exists_of_toRsaKey {jwk : JsonWebKey} (h : jwk.toRsaKey = .ok key) :
    ∃ n e d p q, jwk = ⟨"RSA", n, e, d, some p, some q⟩ ∧ number "n" n = .ok key.n ∧
      number "e" e = .ok key.e ∧ number "d" d = .ok key.d ∧ number "p" p = .ok key.p ∧
      number "q" q = .ok key.q ∧ key.fault? = none := by
  obtain ⟨kty, n, e, d, p?, q?⟩ := jwk
  have hkty : kty = "RSA" := by
    by_contra hne
    simp [toRsaKey, hne] at h
    cases h
  subst hkty
  -- With a prime missing the key is refused, and the order of the checks does not matter here.
  cases p? with
  | none => cases q? <;> cases h
  | some p =>
    cases q? with
    | none => cases h
    | some q =>
      simp only [toRsaKey, ne_eq, not_true_eq_false, if_false, bind_eq_ok_iff] at h
      obtain ⟨n', hn, e', he, d', hd, p', hp, q', hq, hkey⟩ := h
      obtain ⟨rfl, hfault⟩ := RsaKey.checked_eq_ok_iff.mp hkey
      exact ⟨n, e, d, p, q, rfl, hn, he, hd, hp, hq, hfault⟩

end JsonWebKey

namespace RsaKey

/-- A key that is handed over has no faults. -/
theorem fault?_of_ofEncodedJwk {key : RsaKey} {encoded : Secret}
    (h : ofEncodedJwk encoded = .ok key) : key.fault? = none := by
  unfold ofEncodedJwk at h
  split at h
  next => cases h
  next =>
    split at h
    next => cases h
    next =>
      obtain ⟨_, _, _, _, _, -, -, -, -, -, -, hfault⟩ := JsonWebKey.exists_of_toRsaKey h
      exact hfault

/-- In a key without faults no number but the private exponent exceeds the modulus. -/
theorem le_of_fault?_eq_none {key : RsaKey} (h : key.fault? = none) :
    key.e < key.n ∧ key.p ≤ key.n ∧ key.q ≤ key.n := by
  simp only [fault?, ite_eq_iff, reduceCtorEq, and_false, false_or, not_or, not_le, not_not] at h
  obtain ⟨-, -, ⟨he, -⟩, -, -, -, ⟨hp, hq⟩, hfactors, -⟩ := h
  rw [← hfactors] at he ⊢
  exact ⟨he, Nat.le_mul_of_pos_right _ (by omega), Nat.le_mul_of_pos_left _ (by omega)⟩

/-- The text of a number in a JSON Web Key, which is Base64 of `size` bytes. -/
def numberText (size n : Nat) : String :=
  Text.Base64.encode .urlSafe (Rsa.toBytes size n)

/-- A key as a JSON Web Key, with `size` bytes for each number. -/
def toJwk (size : Nat) (key : RsaKey) : Json.Value :=
  .object [("kty", .text "RSA"), ("n", .text (numberText size key.n)),
    ("e", .text (numberText size key.e)), ("d", .text (numberText size key.d)),
    ("p", .text (numberText size key.p)), ("q", .text (numberText size key.q))]

/-- A key as it is handed over. -/
def encode (size : Nat) (key : RsaKey) : Secret :=
  ⟨Text.Base64.encode .standard (Text.bytes (key.toJwk size).write)⟩

/-- The members of a JSON Web Key are read back. -/
theorem reads_toJwk (size : Nat) (key : RsaKey) :
    Json.Reads JsonWebKey.reader (key.toJwk size)
      ⟨"RSA", numberText size key.n, numberText size key.e, numberText size key.d,
        some (numberText size key.p), some (numberText size key.q)⟩ := by
  refine .record (.put rfl rfl (.text _) <| .put rfl rfl (.text _) <| .put rfl rfl (.text _) <|
    .put rfl rfl (.text _) <| .put rfl rfl (.option_text _) <| .put rfl rfl (.option_text _) .nil)
    rfl

theorem number_numberText {size n : Nat} (h : n < 256 ^ size) (member : String) :
    JsonWebKey.number member (numberText size n) = .ok n := by
  rw [JsonWebKey.number, numberText, Text.Base64.decode_encode]
  exact congrArg Except.ok (Rsa.ofBytes_toBytes h)

/-- A key without faults is read back from its encoded form. -/
theorem ofEncodedJwk_encode {key : RsaKey} (h : key.fault? = none) {size : Nat}
    (hn : key.n < 256 ^ size) (hd : key.d < 256 ^ size) :
    ofEncodedJwk (key.encode size) = .ok key := by
  -- The factors are below the modulus, so all numbers fit the size that it fits.
  obtain ⟨he, hp, hq⟩ := le_of_fault?_eq_none h
  have hnumbers := JsonWebKey.toRsaKey_of_numbers (number_numberText hn "n")
    (number_numberText (Nat.lt_trans he hn) "e") (number_numberText hd "d")
    (number_numberText (Nat.lt_of_le_of_lt hp hn) "p")
    (number_numberText (Nat.lt_of_le_of_lt hq hn) "q")
  simp only [ofEncodedJwk, encode, Text.Base64.trim_encode, Text.Base64.decode_encode,
    (reads_toJwk size key).parse, hnumbers]
  exact checked_eq_ok_iff.mpr ⟨rfl, h⟩

end RsaKey

/-! ## The grants of a signer -/

/-- The instants there are have seconds that fit in 64 bits, with room for more. -/
theorem Instant.unixSeconds_bounds (t : Instant) :
    Text.int64Min ≤ t.unixSeconds ∧ t.unixSeconds ≤ Text.int64Max := by
  have hrange := t.inRange
  simp only [minInstantNanos, maxInstantNanos] at hrange
  simp only [unixSeconds, nanosPerSecond, Text.int64Min, Text.int64Max]
  omega

/-- A signer is made of what it is given, with a positive lifetime. -/
theorem GrantSigner.ofEncodedJwk_eq_ok {clientId : Identifier .client} {keyId : Identifier .key}
    {audience : String} {encoded : Secret} {lifetime : Span} {signer : GrantSigner}
    (h : ofEncodedJwk clientId keyId audience encoded lifetime = .ok signer) :
    0 < lifetime.nanoseconds ∧ ∃ key, RsaKey.ofEncodedJwk encoded = .ok key ∧
      signer = ⟨clientId, keyId, audience, lifetime, key⟩ := by
  unfold ofEncodedJwk at h
  split at h
  next hpositive =>
    refine ⟨of_decide_eq_true hpositive, ?_⟩
    split at h
    next => cases h
    next key hkey => exact ⟨key, hkey, (Except.ok.inj h).symm⟩
  next => cases h

/-- A signer is made of a key without faults. -/
theorem GrantSigner.isSound_of_ofEncodedJwk {clientId : Identifier .client}
    {keyId : Identifier .key} {audience : String} {encoded : Secret} {lifetime : Span}
    {signer : GrantSigner}
    (h : ofEncodedJwk clientId keyId audience encoded lifetime = .ok signer) :
    signer.key.IsSound := by
  obtain ⟨-, key, hkey, rfl⟩ := ofEncodedJwk_eq_ok h
  exact RsaKey.isSound_of_fault?_eq_none (RsaKey.fault?_of_ofEncodedJwk hkey)

/-- What a signer signs is read back.  The grant is three segments, its header names the key, and
its claims are the audience, the scopes, the client, the second of the signing, the second in which
the grant ends, and sixteen bytes.  The third segment is a signature of the first two, which the
public numbers of the key verify.  Form decoding gives the grant back from what is posted. -/
theorem GrantSigner.signed_grant_round_trip {clientId : Identifier .client}
    {keyId : Identifier .key} {audience : String} {encoded : Secret} {lifetime : Span}
    {signer : GrantSigner}
    (hsigner : ofEncodedJwk clientId keyId audience encoded lifetime = .ok signer)
    {scopes : Scopes} {now : Instant} {nonce : List UInt8} (hnonce : nonce.length = 16)
    (hmax : now.unixSeconds + lifetime.wholeSeconds ≤ Text.int64Max)
    (hsigns : signer.sign? scopes now nonce ≠ some (.error .signing)) :
    ∃ grant content signature jti, signer.sign? scopes now nonce = some (.ok grant) ∧
      grant = content ++ "." ++ Text.Base64.encode .urlSafe signature ∧
      Rsa.verifies signer.key.n signer.key.e (Text.bytes content) signature ∧
      GrantText.read? grant = some
        { header := [("typ", "JWT"), ("alg", "RS256"), ("kid", keyId.text)]
          claims := ⟨audience, scopes, clientId.text, now.unixSeconds,
            now.unixSeconds + lifetime.wholeSeconds, jti⟩
          signature := signature } ∧
      (∃ bytes, Text.Base64.decode .urlSafe .forbidden (Text.bytes jti) = .ok bytes ∧
        bytes.length = 16) ∧
      ∀ settings request, request.kind = .maskinporten → request.scopes? = some scopes →
        ∃ wire, GrantExchange.wireRequest? ⟨settings, signer⟩ request now nonce =
            some (.ok wire) ∧
          Text.Form.decode wire.body =
            [("grant_type", "urn:ietf:params:oauth:grant-type:jwt-bearer"),
              ("assertion", grant)] := by
  have hsound := isSound_of_ofEncodedJwk hsigner
  obtain ⟨hpositive, key, -, rfl⟩ := ofEncodedJwk_eq_ok hsigner
  have hiat := now.unixSeconds_bounds
  have hexp : Text.int64Min ≤ now.unixSeconds + lifetime.wholeSeconds ∧
      now.unixSeconds + lifetime.wholeSeconds ≤ Text.int64Max := by
    have hnonneg : 0 ≤ lifetime.wholeSeconds := Int.tdiv_nonneg (Int.le_of_lt hpositive) (by decide)
    omega
  -- Signing fails, which is excluded, or gives the grant whose claims are these.
  rcases sign?_cases ⟨clientId, keyId, audience, lifetime, key⟩ scopes nonce hexp with
    hfailed | ⟨claims, grant, hclaims, hgrant, hsign⟩
  · exact absurd hfailed hsigns
  · obtain ⟨-, rfl⟩ := claims?_eq_some_iff.mp hclaims
    obtain ⟨content, signature, hgrant, hverifies, hread⟩ :=
      read?_of_signClaims hsound hgrant hiat hexp
    have hjti := Text.Base64.decode_encode .urlSafe .forbidden nonce
    refine ⟨grant, content, signature, _, hsign, hgrant, hverifies, hread,
      ⟨nonce, hjti, hnonce⟩, ?_⟩
    intro settings request hkind hscopes
    exact ⟨_, GrantExchange.wireRequest?_of_sign? hkind hscopes hsign, Text.Form.decode_encode _⟩

namespace Sample

theorem signingKey_fault? : signingKey.fault? = none := by decide +kernel

/-- A signer for an audience with a quote in it. -/
def signer : GrantSigner :=
  { exchange.signer with audience := "an \"audience\"" }

/-- The key is read back from its encoded form. -/
theorem ofEncodedJwk_signingKey : RsaKey.ofEncodedJwk (signingKey.encode 256) = .ok signingKey :=
  RsaKey.ofEncodedJwk_encode signingKey_fault? (by decide +kernel) (by decide +kernel)

/-- The signer is made of the encoded key. -/
theorem signer_accepted :
    GrantSigner.ofEncodedJwk signer.clientId signer.keyId signer.audience (signingKey.encode 256)
      signer.lifetime = .ok signer := by
  rw [GrantSigner.ofEncodedJwk, if_pos (by decide), ofEncodedJwk_signingKey]
  rfl

/-- Two scopes. -/
def scopes : Scopes :=
  ⟨["a:1", "b:2"], by decide, by decide, by decide⟩

/-- The audience is read back with its quotes, the scopes in their order, and the end of the grant
after two minutes. -/
theorem signed_grant_of_quoted_audience :
    ∃ grant read, signer.sign? scopes ⟨0, by decide⟩ (List.replicate 16 0) = some (.ok grant) ∧
      GrantText.read? grant = some read ∧ read.claims.aud = "an \"audience\"" ∧
      read.claims.scope.elements = ["a:1", "b:2"] ∧ read.claims.exp = 120 := by
  -- This is the one computation with the key: it signs.
  have hsigns : signer.sign? scopes ⟨0, by decide⟩ (List.replicate 16 0) ≠
      some (.error .signing) := by
    have hsigned : ((signer.sign? scopes ⟨0, by decide⟩ (List.replicate 16 0)).bind
        Except.toOption).isSome = true := by decide +kernel
    intro hfailed
    rw [hfailed] at hsigned
    cases hsigned
  obtain ⟨grant, content, signature, jti, hsign, -, -, hread, -⟩ :=
    GrantSigner.signed_grant_round_trip signer_accepted (by decide) (by decide) hsigns
  exact ⟨grant, _, hsign, hread, rfl, rfl, rfl⟩

end Sample

end BearerCache
