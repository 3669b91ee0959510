import BearerCache.Proofs.GrantText

/-! # The lifetime of a grant

A signer is made with any positive lifetime.  A grant is issued at a whole second, and it is good
until as many whole seconds later as its lifetime has.  So a fraction of a second is cut off, and
nothing is left of a lifetime that is shorter than one: its grants are issued at the very second at
which they end.  A lifetime that is too long has no grants at all, as the second at which one ends
has to fit in 64 bits.

## Key results

- `exists_claims?_iff`: when a grant has claims
- `lt_exp_iff`, `lifetime_exact_iff`: when a grant is good for any time, and for just its lifetime
- `lifetime_of_grants`: all of this for every signer that is made, and for which lifetimes all
  grants are good when they are issued
-/

namespace BearerCache

/-! ## Whole seconds -/

namespace Instant

/-- The last instant. -/
def last : Instant := ⟨maxInstantNanos, by decide⟩

/-- No instant is at a later second than the last one. -/
theorem unixSeconds_le_last (now : Instant) : now.unixSeconds ≤ last.unixSeconds :=
  Int.ediv_le_ediv (by decide) now.inRange.2

end Instant

namespace Span

variable {span : Span}

/-- A span has a whole second in it if it is not shorter than one. -/
theorem wholeSeconds_pos_iff (h : 0 < span.nanoseconds) :
    0 < span.wholeSeconds ↔ nanosPerSecond ≤ span.nanoseconds := by
  rw [wholeSeconds_eq (Int.le_of_lt h)]
  simp only [nanosPerSecond]
  omega

/-- A span is as long as its whole seconds if it has no fraction. -/
theorem wholeSeconds_mul_eq_iff :
    span.wholeSeconds * nanosPerSecond = span.nanoseconds ↔ span.subsecond = 0 := by
  have hparts : span.subsecond + span.wholeSeconds * nanosPerSecond = span.nanoseconds :=
    Int.tmod_add_tdiv_mul span.nanoseconds nanosPerSecond
  omega

end Span

/-! ## The grants of a signer -/

namespace GrantSigner

variable {signer : GrantSigner} {scope : Scopes} {now : Instant} {nonce : List UInt8}
  {claims : GrantClaims}

/-- A grant has claims if the second at which it ends fits in 64 bits. -/
theorem exists_claims?_iff (hlifetime : 0 < signer.lifetime.nanoseconds) :
    (∃ claims, signer.claims? scope now nonce = some claims) ↔
      now.unixSeconds + signer.lifetime.wholeSeconds ≤ Text.int64Max := by
  have hnonneg : 0 ≤ signer.lifetime.wholeSeconds :=
    Int.tdiv_nonneg (Int.le_of_lt hlifetime) (by decide)
  have hmin := now.unixSeconds_bounds.1
  -- The clock is within its own bounds, so only the later end can be missed.
  constructor
  · rintro ⟨claims, hclaims⟩
    exact (claims?_eq_some_iff.mp hclaims).1.2
  · intro hmax
    exact ⟨_, claims?_eq_some_iff.mpr ⟨⟨by omega, hmax⟩, rfl⟩⟩

/-- A grant ends as many whole seconds after it is issued as its lifetime has. -/
theorem exp_of_claims? (h : signer.claims? scope now nonce = some claims) :
    claims.iat = now.unixSeconds ∧ claims.exp = claims.iat + signer.lifetime.wholeSeconds := by
  obtain ⟨-, rfl⟩ := claims?_eq_some_iff.mp h
  exact ⟨rfl, rfl⟩

/-- A grant is good for any time if its lifetime is not shorter than a second. -/
theorem lt_exp_iff (hlifetime : 0 < signer.lifetime.nanoseconds)
    (h : signer.claims? scope now nonce = some claims) :
    claims.iat < claims.exp ↔ nanosPerSecond ≤ signer.lifetime.nanoseconds := by
  rw [(exp_of_claims? h).2, ← Span.wholeSeconds_pos_iff hlifetime]
  omega

/-- A grant is good for its lifetime if that has no fraction of a second. -/
theorem lifetime_exact_iff (h : signer.claims? scope now nonce = some claims) :
    (claims.exp - claims.iat) * nanosPerSecond = signer.lifetime.nanoseconds ↔
      signer.lifetime.subsecond = 0 := by
  have hseconds : claims.exp - claims.iat = signer.lifetime.wholeSeconds := by
    rw [(exp_of_claims? h).2]
    omega
  rw [hseconds, Span.wholeSeconds_mul_eq_iff]

/-- Whenever a grant is issued, it is good for some time, if its lifetime has a whole second in it
and, added to the last second of the calendar, fits in 64 bits. -/
theorem always_lt_exp_iff (hlifetime : 0 < signer.lifetime.nanoseconds) :
    (∀ now, ∃ claims, signer.claims? scope now nonce = some claims ∧ claims.iat < claims.exp) ↔
      nanosPerSecond ≤ signer.lifetime.nanoseconds ∧
        Instant.last.unixSeconds + signer.lifetime.wholeSeconds ≤ Text.int64Max := by
  constructor
  · intro h
    -- The last instant is the one at which the most is asked for.
    obtain ⟨claims, hclaims, hlt⟩ := h .last
    exact ⟨(lt_exp_iff hlifetime hclaims).mp hlt,
      (exists_claims?_iff hlifetime).mp ⟨claims, hclaims⟩⟩
  · rintro ⟨hsecond, hmax⟩ now
    have hle := now.unixSeconds_le_last
    obtain ⟨claims, hclaims⟩ : ∃ claims, signer.claims? scope now nonce = some claims :=
      (exists_claims?_iff hlifetime).mpr (by omega)
    exact ⟨claims, hclaims, (lt_exp_iff hlifetime hclaims).mpr hsecond⟩

/-- The grants of a signer that is made.  One has claims if the second at which it ends fits in 64
bits; it then ends as many whole seconds after it is issued as the lifetime has, which is later if
the lifetime is not shorter than a second, and by just the lifetime if that has no fraction.  All of
them are good when they are issued if the lifetime is neither too short nor too long. -/
theorem lifetime_of_grants {clientId : Identifier .client} {keyId : Identifier .key}
    {audience : String} {encoded : Secret} {lifetime : Span} {signer : GrantSigner}
    (hsigner : ofEncodedJwk clientId keyId audience encoded lifetime = .ok signer) :
    (∀ scope now nonce, (∃ claims, signer.claims? scope now nonce = some claims) ↔
      now.unixSeconds + lifetime.wholeSeconds ≤ Text.int64Max) ∧
    (∀ scope now nonce claims, signer.claims? scope now nonce = some claims →
      claims.iat = now.unixSeconds ∧ claims.exp = claims.iat + lifetime.wholeSeconds ∧
      (claims.iat < claims.exp ↔ nanosPerSecond ≤ lifetime.nanoseconds) ∧
      ((claims.exp - claims.iat) * nanosPerSecond = lifetime.nanoseconds ↔
        lifetime.subsecond = 0)) ∧
    (∀ scope nonce,
      (∀ now, ∃ claims, signer.claims? scope now nonce = some claims ∧ claims.iat < claims.exp) ↔
        nanosPerSecond ≤ lifetime.nanoseconds ∧
          Instant.last.unixSeconds + lifetime.wholeSeconds ≤ Text.int64Max) := by
  -- The signer has the lifetime it was made with, so all three parts are about its own.
  obtain ⟨hpositive, key, -, rfl⟩ := ofEncodedJwk_eq_ok hsigner
  refine ⟨fun scope now nonce => exists_claims?_iff hpositive, fun scope now nonce claims h => ?_,
    fun scope nonce => always_lt_exp_iff hpositive⟩
  obtain ⟨hiat, hexp⟩ := exp_of_claims? h
  exact ⟨hiat, hexp, lt_exp_iff hpositive h, lifetime_exact_iff h⟩

end GrantSigner

namespace Sample

/-- A grant for two minutes is good when it is issued, at the last instant as well. -/
theorem grant_at_the_end_is_good :
    ∃ claims, signer.claims? scopes .last [] = some claims ∧ claims.iat < claims.exp := by
  obtain ⟨-, -, halways⟩ := GrantSigner.lifetime_of_grants signer_accepted
  exact (halways scopes []).mpr (by decide) .last

/-- A lifetime of half a second is positive, but its grants end at the second at which they are
issued. -/
theorem half_a_second_is_no_time :
    ¬∀ clientId keyId audience encoded lifetime signer,
      GrantSigner.ofEncodedJwk clientId keyId audience encoded lifetime = .ok signer →
      ∀ scope now nonce, ∃ claims, signer.claims? scope now nonce = some claims ∧
        claims.iat < claims.exp := by
  intro h
  let brief : GrantSigner := { signer with lifetime := ⟨500000000, by decide⟩ }
  have haccepted : GrantSigner.ofEncodedJwk brief.clientId brief.keyId brief.audience
      (signingKey.encode 256) brief.lifetime = .ok brief := by
    rw [GrantSigner.ofEncodedJwk, if_pos (by decide), ofEncodedJwk_signingKey]
    rfl
  -- Half a second has no whole second in it, so the claims end when they begin.
  obtain ⟨claims, hclaims, hlt⟩ := h _ _ _ _ _ _ haccepted scopes ⟨0, by decide⟩ []
  obtain ⟨-, rfl⟩ := GrantSigner.claims?_eq_some_iff.mp hclaims
  exact absurd hlt (by decide)

end Sample

end BearerCache
