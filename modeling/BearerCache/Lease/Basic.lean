import BearerCache.Secret
import BearerCache.Time.Stamp

/-! # Leases

A lease is a token together with when it was issued and when it expires.  It is fresh while
there is more than a safety margin left until it expires.

Instants end with the year 9999, so the difference of an instant and a span need not exist.
Where it does not, the question whether a lease is fresh has no answer.

The instants here are in universal time, as all those are that a cache makes.  Leases with local
times are the documents of `LeaseDocument`. -/

namespace BearerCache

/-- A token with the time for which it is good. -/
structure Lease where
  token : Secret
  issuedAt : Instant
  expiresAt : Instant
  deriving DecidableEq

namespace Lease

/-- Whether a lease is good for longer than the margin at an instant; nothing if the margin
leads out of the calendar. -/
def isFreshAt? (lease : Lease) (now : Instant) (margin : Span) : Option Bool :=
  (lease.expiresAt.sub? margin).map fun limit => decide (now < limit)

theorem isFreshAt?_eq_some_true_iff {lease : Lease} {now : Instant} {margin : Span} :
    lease.isFreshAt? now margin = some true ↔
      ∃ limit, lease.expiresAt.sub? margin = some limit ∧ now < limit := by
  simp [isFreshAt?]

theorem isFreshAt?_eq_some_false_iff {lease : Lease} {now : Instant} {margin : Span} :
    lease.isFreshAt? now margin = some false ↔
      ∃ limit, lease.expiresAt.sub? margin = some limit ∧ limit ≤ now := by
  simp [isFreshAt?, Instant.lt_def, Instant.le_def]

/-- A lease as it is shown in the description of a value. -/
def describe (lease : Lease) : String :=
  Text.described "CachedCredential"
    [("token", Text.quoted Secret.redacted),
      ("issued_at", Calendar.textOf lease.issuedAt),
      ("expires_at", Calendar.textOf lease.expiresAt)]

end Lease

/-! ## Drafts -/

/-- Why a draft is not a lease yet. -/
inductive LeaseFault where
  | missingToken
  | missingExpiry
  deriving DecidableEq, Repr

namespace LeaseFault

/-- The wording of a fault. -/
def message : LeaseFault → String
  | missingToken => "Token is required."
  | missingExpiry => "Expiry must be supplied via expires_at or expires_in."

/-- The name of a fault in JSON. -/
def name : LeaseFault → String
  | missingToken => "MissingToken"
  | missingExpiry => "MissingExpiry"

/-- A fault in JSON. -/
def toJson (fault : LeaseFault) : Json.Value :=
  .text fault.name

/-- Reads a fault from JSON. -/
def reader : Json.Reader LeaseFault :=
  .choice ([missingToken, missingExpiry].map fun fault => (fault.name, .bare fault))

end LeaseFault

/-- What is known so far of a lease to be made. -/
structure LeaseDraft where
  token : Option Secret
  issuedAt : Option Instant
  expiresAt : Option Instant
  expiresIn : Option Span
  deriving DecidableEq

namespace LeaseDraft

/-- The draft that nothing is known of. -/
def empty : LeaseDraft := ⟨none, none, none, none⟩

/-- The lease of a draft.  One without an instant of issue is issued `now`; a given instant of
expiry counts more than a lifetime.  There is no outcome at all if the lifetime leads out of
the calendar. -/
def build? (draft : LeaseDraft) (now : Instant) : Option (Except LeaseFault Lease) :=
  match draft.token with
  | none => some (.error .missingToken)
  | some token =>
    let issuedAt := draft.issuedAt.getD now
    match draft.expiresAt, draft.expiresIn with
    | some expiresAt, _ => some (.ok ⟨token, issuedAt, expiresAt⟩)
    | none, some lifetime => (issuedAt.add? lifetime).map fun expiresAt =>
        .ok ⟨token, issuedAt, expiresAt⟩
    | none, none => some (.error .missingExpiry)

/-- A draft as it is shown in the description of a value. -/
def describe (draft : LeaseDraft) : String :=
  Text.described "CachedCredentialBuilder"
    [("token", Text.optional (draft.token.map Secret.describe)),
      ("issued_at", Text.optional (draft.issuedAt.map Calendar.textOf)),
      ("expires_at", Text.optional (draft.expiresAt.map Calendar.textOf)),
      ("expires_in", Text.optional (draft.expiresIn.map Span.describe))]

end LeaseDraft

end BearerCache
