import BearerCache.Proofs.FetchOutcomes
import BearerCache.Proofs.GrantLifetime
import BearerCache.Proofs.KeyMembers
import Mathlib.Tactic.NormNum.Prime

/-! # Keys that sign

A key is looked at twice: once when a signer is made of it, and again each time it signs.  The
second look asks for more than the first: for two factors of one of three sizes, the greater one
first, and for exponents that are large enough.  So there are keys of which signers are made that
never sign.  A key with prime factors that passes the second look signs everything.

## Main definitions

- `RsaKey.IsSigning`: what the second look asks for
- `GrantSigner.Signs`: that there is a grant

## Key results

- `RsaKey.isUsual_iff`: the second look at a key that has passed the first
- `GrantSigner.signs_iff_isSigning`: which signers sign which grants
-/

namespace BearerCache

namespace RsaKey

variable {key : RsaKey}

/-! ## Keys that pass the second look -/

/-- What the second look asks for: two factors of one of three sizes, the greater one first, a
public exponent that is not too small, and a private one that is longer than a factor and less than
the modulus. -/
structure IsSigning (key : RsaKey) : Prop where
  factors : ∃ size ∈ [1024, 1536, 2048],
    Rsa.bits key.p = size ∧ Rsa.bits key.q = size ∧ 2 ^ size ≤ key.d
  order : key.q < key.p
  exponent : 65537 ≤ key.e
  lt_modulus : key.d < key.n

/-- The product of two numbers of the same size has twice as many bits, or one less. -/
theorem bits_mul {p q size : Nat} (hp : Rsa.bits p = size) (hq : Rsa.bits q = size)
    (hpos : 0 < size) : Rsa.bits (p * q) ≤ 2 * size ∧ 2 * size - 2 < Rsa.bits (p * q) := by
  have hlow {n : Nat} (h : Rsa.bits n = size) : 2 ^ (size - 1) ≤ n :=
    Rsa.lt_bits_iff.mp (by omega)
  have hhigh {n : Nat} (h : Rsa.bits n = size) : n < 2 ^ size := Rsa.bits_le_iff.mp (by omega)
  constructor
  · rw [Rsa.bits_le_iff, Nat.two_mul, Nat.pow_add]
    exact Nat.mul_lt_mul'' (hhigh hp) (hhigh hq)
  · rw [Rsa.lt_bits_iff, show 2 * size - 2 = (size - 1) + (size - 1) by omega, Nat.pow_add]
    exact Nat.mul_le_mul (hlow hp) (hlow hq)

/-- The private exponent of a key without faults is odd, and so is what is left of it by a factor
less one. -/
theorem IsSound.odd_private (h : key.IsSound) :
    key.d % 2 = 1 ∧ key.d % (key.p - 1) % 2 = 1 ∧ key.d % (key.q - 1) % 2 = 1 := by
  obtain ⟨hp, hq⟩ := h.two_dvd
  have hd : key.d % 2 = 1 := by
    have hinverse := congrArg (· % 2) h.inverse.1
    simp only [Nat.mod_mod_of_dvd _ hp] at hinverse
    exact Nat.odd_iff.mp (Nat.odd_mul.mp (Nat.odd_iff.mpr hinverse)).1
  exact ⟨hd, by rw [Nat.mod_mod_of_dvd _ hp, hd], by rw [Nat.mod_mod_of_dvd _ hq, hd]⟩

/-- Of a key without faults the second look asks just for what makes it sign. -/
theorem isUsual_iff (h : key.IsSound) : key.isUsual ↔ key.IsSigning := by
  obtain ⟨hd, hdp, hdq⟩ := h.odd_private
  have hsize := h.size
  simp only [isUsual, Bool.and_eq_true, decide_eq_true_eq, beq_iff_eq, hd, hdp, hdq, and_true,
    Rsa.lt_bits_iff]
  constructor
  -- The lengths that are asked for are those of the factors, one by one.
  · rintro ⟨⟨⟨⟨⟨⟨⟨he, hbytes⟩, hp⟩, hq⟩, hhalf⟩, horder⟩, hlong⟩, hlt⟩
    have hsizes : (Rsa.bits key.n + 1) / 2 ∈ [1024, 1536, 2048] := by
      simp only [List.mem_cons, List.not_mem_nil, or_false]
      omega
    exact ⟨⟨_, hsizes, hp, hq, hlong⟩, horder, he, hlt⟩
  · rintro ⟨⟨size, hmem, hp, hq, hlong⟩, horder, he, hlt⟩
    have hsizes : size = 1024 ∨ size = 1536 ∨ size = 2048 := by simpa using hmem
    have hbits := bits_mul hp hq (by omega)
    rw [h.factors] at hbits
    have hhalf : (Rsa.bits key.n + 1) / 2 = size := by omega
    rw [hhalf]
    exact ⟨⟨⟨⟨⟨⟨⟨he, by omega⟩, hp⟩, hq⟩, by omega⟩, horder⟩, hlong⟩, hlt⟩

/-- The message whose number comes back is signed by a key of the right kind, and no other is. -/
theorem isSome_sign?_iff (h : key.IsSound) (message : List UInt8) :
    (Rsa.sign? key message).isSome ↔
      key.IsSigning ∧ key.Restores (Rsa.ofBytes (Rsa.block (Rsa.blockSize key.n) message)) := by
  have hsome : (Rsa.sign? key message).isSome ↔ key.isUsual ∧
      Rsa.powMod key.n
          (key.privatePower (Rsa.ofBytes (Rsa.block (Rsa.blockSize key.n) message))) key.e =
        Rsa.ofBytes (Rsa.block (Rsa.blockSize key.n) message) := by
    unfold Rsa.sign?
    dsimp only
    split
    next hsigned => exact iff_of_true rfl hsigned
    next hnot => exact iff_of_false Bool.false_ne_true hnot
  rw [hsome, isUsual_iff h]
  refine and_congr_right fun hsigning => ?_
  -- The block is as long as the modulus, but its first byte is zero.
  have hlarge : 54 ≤ Rsa.blockSize key.n := by
    obtain ⟨size, hmem, hp, hq, -⟩ := hsigning.factors
    have hsizes : size = 1024 ∨ size = 1536 ∨ size = 2048 := by simpa using hmem
    have hbits := bits_mul hp hq (by omega)
    rw [h.factors] at hbits
    unfold Rsa.blockSize
    omega
  have hlt := Rsa.ofBytes_block_lt hlarge message
  rw [← h.pow_privatePower_iff hsigning.order, Rsa.powMod_eq, Nat.ModEq, Nat.mod_eq_of_lt hlt]

end RsaKey

/-! ## Signers -/

namespace GrantSigner

/-- There is a grant for some scopes. -/
def Signs (signer : GrantSigner) (scope : Scopes) (now : Instant) (nonce : List UInt8) : Prop :=
  ∃ grant, signer.sign? scope now nonce = some (.ok grant)

/-- The number that is signed for some claims. -/
def blockOf (signer : GrantSigner) (claims : GrantClaims) : Nat :=
  Rsa.ofBytes (Rsa.block (Rsa.blockSize signer.key.n)
    (Text.bytes (segment (header signer.keyId) ++ "." ++ segment claims.toJson)))

variable {signer : GrantSigner} {scope : Scopes} {now : Instant} {nonce : List UInt8}

/-- A grant with claims is signed if the key is of the right kind and the number that is signed
comes back. -/
theorem signs_iff (h : signer.key.IsSound) {claims : GrantClaims}
    (hclaims : signer.claims? scope now nonce = some claims) :
    signer.Signs scope now nonce ↔
      signer.key.IsSigning ∧ signer.key.Restores (signer.blockOf claims) := by
  rw [blockOf, ← RsaKey.isSome_sign?_iff h]
  simp only [Signs, sign?, hclaims, Option.map_some, Option.some.injEq]
  unfold signClaims
  dsimp only
  cases Rsa.sign? signer.key
      (Text.bytes (segment (header signer.keyId) ++ "." ++ segment claims.toJson)) with
  | none => simp
  | some signature => simp

/-- A grant that is not signed is refused as such. -/
theorem not_signs_iff {claims : GrantClaims}
    (hclaims : signer.claims? scope now nonce = some claims) :
    ¬signer.Signs scope now nonce ↔ signer.sign? scope now nonce = some (.error .signing) := by
  obtain ⟨hrange, -⟩ := claims?_eq_some_iff.mp hclaims
  rcases sign?_cases signer scope nonce hrange with hfailed | ⟨_, grant, -, -, hsigned⟩
  · exact iff_of_true (fun ⟨grant, hsigned⟩ => by rw [hfailed] at hsigned; cases hsigned) hfailed
  · exact iff_of_false (fun hnot => hnot ⟨grant, hsigned⟩) (by rw [hsigned]; exact nofun)

/-- Of a key with prime factors, whether it signs depends on nothing else. -/
theorem signs_iff_of_prime (h : signer.key.IsSound) (hp : signer.key.p.Prime)
    (hq : signer.key.q.Prime) {claims : GrantClaims}
    (hclaims : signer.claims? scope now nonce = some claims) :
    signer.Signs scope now nonce ↔ signer.key.IsSigning := by
  rw [signs_iff h hclaims, and_iff_left (h.restores_of_prime hp hq _)]

end GrantSigner

/-- Among the fetches of an exchange for some scopes, those that are refused for the key are those
whose grant is not signed. -/
theorem GrantExchange.fetch_eq_signing_iff {exchange : GrantExchange} {request : TokenRequest}
    {scope : Scopes} {now : Instant} {nonce : List UInt8} {claims : GrantClaims}
    (hkind : request.kind = .maskinporten) (hscopes : request.scopes? = some scope)
    (hclaims : exchange.signer.claims? scope now nonce = some claims) (network : Http.Network) :
    (exchange.fetch request now nonce network).1 = .failed (.setup .signing) ↔
      ¬exchange.signer.Signs scope now nonce := by
  -- The grant is signed or not, and only the second ends in this failure before anything is sent.
  obtain ⟨hrange, -⟩ := GrantSigner.claims?_eq_some_iff.mp hclaims
  rcases exchange.signer.sign?_cases scope nonce hrange with hfailed | ⟨_, grant, -, -, hsigned⟩
  · refine iff_of_true ?_ ((GrantSigner.not_signs_iff hclaims).mpr hfailed)
    have hwire : exchange.wireRequest? request now nonce = some (.error (.setup .signing)) := by
      simp [wireRequest?, hkind, hscopes, hfailed]
    rw [fetch_of_wireRequest?_error hwire]
  · refine iff_of_false (fun hend => ?_) (fun hnot => hnot ⟨grant, hsigned⟩)
    simp only [fetch, wireRequest?_of_sign? hkind hscopes hsigned] at hend
    -- What comes back is refused for other reasons.
    split at hend
    next => cases hend
    next response _ =>
      split at hend
      next =>
        split at hend
        next => cases hend
        next => cases hend
      next => cases hend

/-- Which of the signers that are made sign which grants.  A grant is signed if the key passes the
second look and the number that is signed comes back; if not, it is refused as not signed.  If the
factors of the key are prime, then it is the second look alone that decides, for all scopes and at
all instants, and a fetch for some scopes ends with a refusal for the key if the key does not pass
it. -/
theorem GrantSigner.signs_iff_isSigning {clientId : Identifier .client} {keyId : Identifier .key}
    {audience : String} {encoded : Secret} {lifetime : Span} {signer : GrantSigner}
    (hsigner : ofEncodedJwk clientId keyId audience encoded lifetime = .ok signer) :
    (∀ scope now nonce claims, signer.claims? scope now nonce = some claims →
      (signer.Signs scope now nonce ↔
        signer.key.IsSigning ∧ signer.key.Restores (signer.blockOf claims)) ∧
      (¬signer.Signs scope now nonce ↔ signer.sign? scope now nonce = some (.error .signing))) ∧
    (signer.key.p.Prime → signer.key.q.Prime →
      ∀ scope now nonce, now.unixSeconds + lifetime.wholeSeconds ≤ Text.int64Max →
        (signer.Signs scope now nonce ↔ signer.key.IsSigning) ∧
        ∀ settings request network, request.kind = .maskinporten →
          request.scopes? = some scope →
          ((GrantExchange.fetch ⟨settings, signer⟩ request now nonce network).1 =
            .failed (.setup .signing) ↔ ¬signer.key.IsSigning)) := by
  have hsound := isSound_of_ofEncodedJwk hsigner
  obtain ⟨hpositive, key, -, rfl⟩ := ofEncodedJwk_eq_ok hsigner
  refine ⟨fun scope now nonce claims hclaims => ⟨signs_iff hsound hclaims, not_signs_iff hclaims⟩,
    -- The instants are in the range of numbers, so there are claims to be signed.
    fun hp hq scope now nonce hmax => ?_⟩
  obtain ⟨claims, hclaims⟩ : ∃ claims,
      claims? ⟨clientId, keyId, audience, lifetime, key⟩ scope now nonce = some claims :=
    (exists_claims?_iff hpositive).mpr hmax
  have hsigns := signs_iff_of_prime hsound hp hq hclaims
  refine ⟨hsigns, fun settings request network hkind hscopes => ?_⟩
  rw [← hsigns]
  exact GrantExchange.fetch_eq_signing_iff hkind hscopes hclaims network

/-! ## A key that signs and one that does not -/

namespace Sample

/-- A key that signs.  For its factors it is easily proved that they are prime. -/
def provenKey : RsaKey :=
  let p := 3931 * 2 ^ 1012 + 1
  let q := 11 ^ 3 * 2 ^ 1013 + 1
  ⟨p * q, 65537, (1 + 19918 * (3931 * 11 ^ 3 * 2 ^ 1013)) / 65537, p, q⟩

/-- A key of the same kind that is half as long. -/
def shortKey : RsaKey :=
  let p := 2713 * 2 ^ 500 + 1
  let q := 7 ^ 4 * 2 ^ 500 + 1
  ⟨p * q, 65537, (1 + 61485 * (2713 * 7 ^ 4 * 2 ^ 500)) / 65537, p, q⟩

theorem provenKey_p_prime : provenKey.p.Prime :=
  @Rsa.prime_of_powMod provenKey.p 3931 1 1012 3 (by norm_num) (by decide +kernel)
    (by decide +kernel) (by decide +kernel) (by decide +kernel) (by decide +kernel)

theorem provenKey_q_prime : provenKey.q.Prime :=
  @Rsa.prime_of_powMod provenKey.q 11 3 1013 3 (by norm_num) (by decide +kernel)
    (by decide +kernel) (by decide +kernel) (by decide +kernel) (by decide +kernel)

/-- A signer with the sample's settings is made of an encoded key without faults. -/
theorem ofEncodedJwk_key {key : RsaKey} (h : key.fault? = none) {size : Nat}
    (hn : key.n < 256 ^ size) (hd : key.d < 256 ^ size) :
    GrantSigner.ofEncodedJwk signer.clientId signer.keyId signer.audience (key.encode size)
      signer.lifetime = .ok { signer with key := key } := by
  rw [GrantSigner.ofEncodedJwk, if_pos (by decide), RsaKey.ofEncodedJwk_encode h hn hd]

/-- The key signs whatever the scopes are, at all instants, and no fetch is refused for it. -/
theorem provenKey_signs :
    ∃ signer : GrantSigner, signer.key = provenKey ∧ ∀ scope now nonce,
      signer.Signs scope now nonce ∧
      ∀ settings request network, request.kind = .maskinporten → request.scopes? = some scope →
        (GrantExchange.fetch ⟨settings, signer⟩ request now nonce network).1 ≠
          -- The key is accepted, and has the form that is asked for; that its factors are prime is
          -- proved.
          .failed (.setup .signing) := by
  have haccepted := @ofEncodedJwk_key provenKey (by decide +kernel) 256 (by decide +kernel)
    (by decide +kernel)
  have hsigning : provenKey.IsSigning :=
    ⟨⟨1024, by decide, by decide +kernel, by decide +kernel, by decide +kernel⟩, by decide +kernel,
      by decide +kernel, by decide +kernel⟩
  obtain ⟨-, hprime⟩ := GrantSigner.signs_iff_isSigning haccepted
  refine ⟨{ signer with key := provenKey }, rfl, fun scope now nonce => ?_⟩
  have hmax : now.unixSeconds + signer.lifetime.wholeSeconds ≤ Text.int64Max := by
    have hlast := now.unixSeconds_le_last
    have hend : Instant.last.unixSeconds + signer.lifetime.wholeSeconds ≤ Text.int64Max := by decide
    omega
  obtain ⟨hsigns, hfetch⟩ := hprime provenKey_p_prime provenKey_q_prime scope now nonce hmax
  exact ⟨hsigns.mpr hsigning, fun settings request network hkind hscopes hend =>
    (hfetch settings request network hkind hscopes).mp hend hsigning⟩

/-- A signer is made of the short key, but it does not sign. -/
theorem shortKey_does_not_sign :
    ¬∀ clientId keyId audience encoded lifetime signer,
      GrantSigner.ofEncodedJwk clientId keyId audience encoded lifetime = .ok signer →
      ∀ scope now nonce, now.unixSeconds + lifetime.wholeSeconds ≤ Text.int64Max →
        signer.Signs scope now nonce := by
  intro h
  let short : GrantSigner := { signer with key := shortKey }
  have haccepted : GrantSigner.ofEncodedJwk short.clientId short.keyId short.audience
      (shortKey.encode 128) short.lifetime = .ok short :=
    ofEncodedJwk_key (by decide +kernel) (by decide +kernel) (by decide +kernel)
  have hsound := GrantSigner.isSound_of_ofEncodedJwk haccepted
  have hpositive : 0 < short.lifetime.nanoseconds := by decide
  let now : Instant := ⟨0, by decide⟩
  have hmax : now.unixSeconds + short.lifetime.wholeSeconds ≤ Text.int64Max := by decide
  obtain ⟨claims, hclaims⟩ : ∃ claims, short.claims? scopes now [] = some claims :=
    (GrantSigner.exists_claims?_iff hpositive).mpr hmax
  -- Its factors have 512 bits each, which is no size that signs.
  have hsigns := h _ _ _ _ _ _ haccepted scopes now [] hmax
  have hunusual : ¬shortKey.IsSigning := by
    rw [← RsaKey.isUsual_iff hsound]
    decide +kernel
  exact hunusual ((GrantSigner.signs_iff hsound hclaims).mp hsigns).1

end Sample

end BearerCache
