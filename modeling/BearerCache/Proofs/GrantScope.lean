import Mathlib.Data.List.Basic
import BearerCache.Fetch.Exchange
import BearerCache.Proofs.Base64Text
import BearerCache.Proofs.JsonStrings
import BearerCache.Proofs.RequestRules
import BearerCache.Proofs.TextParts

/-! # What a grant asks for

A request that posts a grant asks for the scopes that the claims of the grant name.  It cannot
ask for two of them: the body is a form that tells the grant, the points in the grant divide it,
its second part tells the claims, and their text tells the claim `scope`.

## Key results

- `Http.Request.AsksFor.unique`: a request asks for one scope at most
- `GrantExchange.asksFor_iff`: what is posted for a request asks for the scopes of the request
-/

namespace BearerCache

/-- A request posts a grant with a claim `scope`: the second part of the grant is the Base64 form
of claims with these scopes. -/
def Http.Request.AsksFor (wire : Http.Request) (scope : String) : Prop :=
  ∃ (header signature : String) (claims : GrantClaims),
    '.' ∉ header.toList ∧
    Text.Form.decode wire.body =
      [("grant_type", GrantExchange.grantType),
        ("assertion", header ++ "." ++ GrantSigner.segment claims.toJson ++ "." ++ signature)] ∧
    claims.scope.normalText = scope

/-! ## Claims and their text -/

/-- The text of claims begins with the audience and the scopes. -/
theorem GrantClaims.toList_write (claims : GrantClaims) :
    ∃ rest, claims.toJson.write.toList =
      '\x7b' :: (Json.quote "aud" ++ ':' :: (Json.quote claims.aud ++
        ',' :: (Json.quote "scope" ++ ':' :: (Json.quote claims.scope.normalText ++ rest)))) := by
  refine ⟨Json.Value.memberChars [("iss", .text claims.iss), ("iat", .integer claims.iat),
    ("exp", .integer claims.exp), ("jti", .text claims.jti)], ?_⟩
  rw [Json.Value.write, String.toList_ofList]
  simp only [GrantClaims.toJson, Scopes.toJson, Json.Value.chars, Json.Value.memberChars,
    List.cons_append, List.append_assoc]

/-- The text of claims tells their scopes. -/
theorem GrantClaims.scope_of_write {claims others : GrantClaims}
    (h : claims.toJson.write = others.toJson.write) :
    claims.scope.normalText = others.scope.normalText := by
  obtain ⟨rest, hclaims⟩ := claims.toList_write
  obtain ⟨rest', hothers⟩ := others.toList_write
  rw [h, hothers] at hclaims
  have haud := List.append_cancel_left (List.cons_injective hclaims)
  obtain ⟨-, hscope⟩ := Json.quote_append_injective (List.cons_injective haud)
  have hvalue := List.append_cancel_left (List.cons_injective hscope)
  exact (Json.quote_append_injective (List.cons_injective hvalue)).1.symm

/-! ## Grants and their parts -/

/-- The second part of a grant tells the value that it is the Base64 form of. -/
theorem GrantSigner.segment_injective {value other : Json.Value}
    (h : segment value = segment other) : value.write = other.write :=
  Json.bytes_injective (Text.Base64.encode_injective h)

/-- No point is in the Base64 form of a value. -/
theorem GrantSigner.not_mem_segment (value : Json.Value) : '.' ∉ (segment value).toList :=
  Text.Base64.not_mem_encode _ _

/-- The points of a grant divide it. -/
theorem eq_of_parts {header header' middle middle' signature signature' : String}
    (hheader : '.' ∉ header.toList) (hheader' : '.' ∉ header'.toList)
    (hmiddle : '.' ∉ middle.toList) (hmiddle' : '.' ∉ middle'.toList)
    (h : header ++ "." ++ middle ++ "." ++ signature =
      header' ++ "." ++ middle' ++ "." ++ signature') : middle = middle' := by
  have hpoint : ".".toList = ['.'] := rfl
  have hchars := congrArg String.toList h
  simp only [String.toList_append, hpoint, List.append_assoc, List.singleton_append] at hchars
  obtain ⟨-, hrest⟩ := Text.append_cons_inj hheader hheader' hchars
  exact String.toList_injective (Text.append_cons_inj hmiddle hmiddle' hrest).1

/-- A request asks for one scope at most. -/
theorem Http.Request.AsksFor.unique {wire : Http.Request} {scope other : String}
    (h : wire.AsksFor scope) (h' : wire.AsksFor other) : scope = other := by
  obtain ⟨header, signature, claims, hheader, hbody, rfl⟩ := h
  obtain ⟨header', signature', claims', hheader', hbody', rfl⟩ := h'
  rw [hbody] at hbody'
  simp only [List.cons.injEq, Prod.mk.injEq, true_and, and_true] at hbody'
  have hsegments := eq_of_parts hheader hheader' (GrantSigner.not_mem_segment _)
    (GrantSigner.not_mem_segment _) hbody'
  exact GrantClaims.scope_of_write (GrantSigner.segment_injective hsegments)

/-! ## What is posted for a request -/

/-- A grant that is signed has its claims as its second part. -/
theorem GrantSigner.eq_of_signClaims {signer : GrantSigner} {claims : GrantClaims} {grant : String}
    (h : signer.signClaims claims = .ok grant) :
    ∃ signature, grant =
      segment (header signer.keyId) ++ "." ++ segment claims.toJson ++ "." ++ signature := by
  unfold signClaims at h
  dsimp only at h
  split at h
  next => exact ⟨_, (Except.ok.inj h).symm⟩
  next => cases h

/-- A grant has claims if its end can be said in 64 bits. -/
theorem GrantSigner.claims?_eq_some_iff {signer : GrantSigner} {scopes : Scopes} {now : Instant}
    {nonce : List UInt8} {claims : GrantClaims} :
    signer.claims? scopes now nonce = some claims ↔
      (Text.int64Min ≤ now.unixSeconds + signer.lifetime.wholeSeconds ∧
        now.unixSeconds + signer.lifetime.wholeSeconds ≤ Text.int64Max) ∧
      claims = ⟨signer.audience, scopes, signer.clientId.text, now.unixSeconds,
        now.unixSeconds + signer.lifetime.wholeSeconds, Text.Base64.encode .urlSafe nonce⟩ := by
  unfold claims?
  dsimp only
  split
  next hrange => simp [hrange, eq_comm]
  next hrange => simp [hrange]

/-- A grant whose end can be said is signed, unless the key does not sign. -/
theorem GrantSigner.sign?_cases (signer : GrantSigner) (scopes : Scopes) {now : Instant}
    (nonce : List UInt8)
    (hexp : Text.int64Min ≤ now.unixSeconds + signer.lifetime.wholeSeconds ∧
      now.unixSeconds + signer.lifetime.wholeSeconds ≤ Text.int64Max) :
    signer.sign? scopes now nonce = some (.error .signing) ∨
      ∃ claims grant, signer.claims? scopes now nonce = some claims ∧
        signer.signClaims claims = .ok grant ∧
        signer.sign? scopes now nonce = some (.ok grant) := by
  obtain ⟨claims, hclaims⟩ : ∃ claims, signer.claims? scopes now nonce = some claims :=
    ⟨_, claims?_eq_some_iff.mpr ⟨hexp, rfl⟩⟩
  have hsign : signer.sign? scopes now nonce = some (signer.signClaims claims) := by
    rw [sign?, hclaims, Option.map_some]
  -- The numbers fit, so what is left to fail is the key.
  cases hsigned : signer.signClaims claims with
  | error fault =>
    -- There is no other fault.
    have hsigning : fault = .signing := by
      unfold signClaims at hsigned
      dsimp only at hsigned
      split at hsigned
      next => cases hsigned
      next => exact (Except.error.inj hsigned).symm
    exact .inl (by rw [hsign, hsigned, hsigning])
  | ok grant => exact .inr ⟨claims, grant, hclaims, hsigned, hsigned ▸ hsign⟩

theorem GrantSigner.scope_of_claims? {signer : GrantSigner} {scopes : Scopes} {now : Instant}
    {nonce : List UInt8} {claims : GrantClaims}
    (h : signer.claims? scopes now nonce = some claims) : claims.scope = scopes := by
  obtain ⟨-, rfl⟩ := claims?_eq_some_iff.mp h
  rfl

/-- A request to a machine client that is well formed is its scopes. -/
theorem TokenRequest.WellFormed.key_eq_iff {a b : TokenRequest} {text other : String}
    (ha : a.WellFormed) (hb : b.WellFormed) (hkind : a.kind = .maskinporten)
    (hkind' : b.kind = .maskinporten) (htext : a.get? scopesName = some text)
    (hother : b.get? scopesName = some other) : a.key = b.key ↔ text = other := by
  constructor
  · intro hkey
    rw [key_injective hkey, hother] at htext
    exact (Option.some.inj htext).symm
  · rintro rfl
    -- No other option is allowed.
    have honly : ∀ request : TokenRequest, request.WellFormed → request.kind = .maskinporten →
        ∀ name, name ≠ scopesName → request.get? name = none := by
      -- A well-formed request of this kind has no other option than its scopes.
      intro request hwell hmachine name hname
      cases hvalue : request.get? name with
      | none => rfl
      | some value =>
        have hallowed := hwell.allowed name value hvalue
        rw [hmachine, TokenKind.allows, TokenKind.optionNames, List.contains_iff_mem,
          List.mem_singleton] at hallowed
        exact absurd hallowed hname
    have hoptions : a.options = b.options := by
      refine NameMap.ext fun name => ?_
      by_cases hname : name = scopesName
      · rw [hname]
        exact htext.trans hother.symm
      · exact (honly a ha hkind name hname).trans (honly b hb hkind' name hname).symm
    obtain ⟨kind, options⟩ := a
    obtain ⟨kind', options'⟩ := b
    cases hkind
    cases hkind'
    cases hoptions
    rfl

namespace GrantExchange

/-- What is posted for a request, at some instant and with some nonce. -/
def Posts (exchange : GrantExchange) (request : TokenRequest) (wire : Http.Request) : Prop :=
  ∃ now nonce, exchange.wireRequest? request now nonce = some (.ok wire)

variable {exchange : GrantExchange} {request : TokenRequest} {now : Instant} {nonce : List UInt8}
  {wire : Http.Request}

/-- Only for the scopes of a machine client is anything posted. -/
theorem Posts.exists_scopes (h : exchange.Posts request wire) :
    request.kind = .maskinporten ∧ ∃ text, request.get? TokenRequest.scopesName = some text := by
  obtain ⟨now, nonce, h⟩ := h
  unfold wireRequest? at h
  split at h
  next => cases h
  next hkind =>
    refine ⟨not_not.mp hkind, ?_⟩
    -- Without scopes there would be an error in place of the request.
    cases htext : request.get? TokenRequest.scopesName with
    | some text => exact ⟨text, rfl⟩
    | none =>
      have hnone : request.scopes? = none := by
        rw [TokenRequest.scopes?, htext]
        rfl
      rw [hnone] at h
      cases h

/-- A grant for the scopes of a machine client is posted. -/
theorem wireRequest?_of_sign? {scopes : Scopes} {grant : String}
    (hkind : request.kind = .maskinporten) (hscopes : request.scopes? = some scopes)
    (hsign : exchange.signer.sign? scopes now nonce = some (.ok grant)) :
    exchange.wireRequest? request now nonce =
      some (.ok (Http.postForm exchange.settings.tokenUrl (form grant))) := by
  simp [wireRequest?, hkind, hscopes, hsign]

/-- What is posted is posted to the address of the settings. -/
theorem isPlain_of_wireRequest? (h : exchange.wireRequest? request now nonce = some (.ok wire)) :
    wire.isPlain = (exchange.settings.tokenUrl.scheme == "http") := by
  unfold wireRequest? at h
  -- Each step on the way may break off; only the last gives a request.
  split at h
  next => cases h
  next =>
    split at h
    next => cases h
    next =>
      obtain ⟨signed, -, hposted⟩ := Option.map_eq_some_iff.mp h
      split at hposted
      next => cases hposted
      next =>
        cases hposted
        rfl

/-- What is posted to a plain address is the one request that is sent. -/
theorem sent_fetch (h : exchange.wireRequest? request now nonce = some (.ok wire))
    (hscheme : exchange.settings.tokenUrl.scheme = "http") (decode : Http.Decoder)
    (replies : List Http.Reply) (sent : List Http.Request) :
    (exchange.fetch request now nonce (.replying decode replies sent)).2.sent =
      sent ++ [wire] := by
  have hplain : wire.isPlain := by
    rw [isPlain_of_wireRequest? h, hscheme]
    rfl
  simp only [fetch, h, Http.Network.send_of_isPlain hplain]
  -- Whatever the reply is, the network is the one after the request.
  split
  next => rfl
  next =>
    split
    next => split <;> rfl
    next => rfl

/-- What is posted for a request is a grant for its scopes. -/
theorem asksFor_of_wireRequest? {scopes : Scopes} (hscopes : request.scopes? = some scopes)
    (h : exchange.wireRequest? request now nonce = some (.ok wire)) :
    wire.AsksFor scopes.normalText := by
  unfold wireRequest? at h
  split at h
  next => cases h
  next =>
    rw [hscopes] at h
    -- There are scopes, so the request is the one around the signed grant.
    simp only [GrantSigner.sign?, Option.map_map, Option.map_eq_some_iff] at h
    obtain ⟨claims, hclaims, hposted⟩ := h
    cases hsigned : exchange.signer.signClaims claims with
    | error fault =>
      rw [Function.comp_apply, hsigned] at hposted
      cases hposted
    | ok grant =>
      rw [Function.comp_apply, hsigned] at hposted
      cases hposted
      obtain ⟨signature, hgrant⟩ := GrantSigner.eq_of_signClaims hsigned
      refine ⟨GrantSigner.segment (GrantSigner.header exchange.signer.keyId), signature, claims,
        GrantSigner.not_mem_segment _, ?_, ?_⟩
      · rw [← hgrant]
        exact Text.Form.decode_encode _
      · rw [GrantSigner.scope_of_claims? hclaims]

/-- What is posted for a well-formed request asks for the scopes as the request has them, and for
nothing else. -/
theorem Posts.asksFor_iff {text : String} (h : exchange.Posts request wire)
    (hwell : request.WellFormed) (htext : request.get? TokenRequest.scopesName = some text)
    (scope : String) : wire.AsksFor scope ↔ scope = text := by
  obtain ⟨scopes, hscopes, hnormal⟩ := hwell.scopes text htext
  obtain ⟨now, nonce, h⟩ := h
  have hasks := asksFor_of_wireRequest? hscopes h
  rw [hnormal] at hasks
  -- The request asks for one scope, which is the normal text.
  constructor
  · exact fun hscope => hscope.unique hasks
  · rintro rfl
    exact hasks

/-- Well-formed requests have the same entry if and only if the same scopes are asked for. -/
theorem Posts.key_eq_iff {a b : TokenRequest} {wire other : Http.Request}
    (ha : exchange.Posts a wire) (hb : exchange.Posts b other) (hwell : a.WellFormed)
    (hwell' : b.WellFormed) :
    a.key = b.key ↔ ∃ scope, wire.AsksFor scope ∧ other.AsksFor scope := by
  -- Both kinds ask for exactly the text under their scopes, which is all that the keys depend on.
  obtain ⟨hkind, text, htext⟩ := ha.exists_scopes
  obtain ⟨hkind', text', htext'⟩ := hb.exists_scopes
  have hasks := ha.asksFor_iff hwell htext
  have hasks' := hb.asksFor_iff hwell' htext'
  rw [hwell.key_eq_iff hwell' hkind hkind' htext htext']
  constructor
  · rintro rfl
    exact ⟨text, (hasks text).mpr rfl, (hasks' text).mpr rfl⟩
  · rintro ⟨scope, hscope, hscope'⟩
    exact ((hasks scope).mp hscope).symm.trans ((hasks' scope).mp hscope')

end GrantExchange

end BearerCache
