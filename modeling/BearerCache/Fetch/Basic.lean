import BearerCache.Failure
import BearerCache.Request.Basic

/-! # Fetchers

Where the cache gets tokens from.  A fetcher brings requests into a canonical form, so that
requests for the same token are kept under the same key, says how the lifetime of a token is
found, and fetches. -/

namespace BearerCache

/-- How the lifetime of a token is found. -/
inductive LifetimeRule where
  /-- It is fixed, and counts from when the token was asked for. -/
  | fixed (ttl : Span)
  /-- The token says when it expires. -/
  | expiryClaim
  deriving DecidableEq

/-- How a fetch ends. -/
inductive FetchEnd where
  | token (secret : Secret)
  | failed (failure : Failure)
  /-- It breaks off without a result. -/
  | broken

/-- A fetch that has been started. -/
structure FetchCall where
  /-- How often it has to wait before it ends. -/
  waits : Nat
  /-- How much time passes until it ends. -/
  latency : Span
  outcome : FetchEnd

/-- A fetch that ends at once. -/
def FetchCall.now (outcome : FetchEnd) : FetchCall :=
  ⟨0, .zero, outcome⟩

/-- The end of a fetch with a result. -/
def FetchEnd.ofResult : Except Failure Secret → FetchEnd
  | .ok secret => .token secret
  | .error failure => .failed failure

/-- A source of tokens.  What it keeps between fetches is of type `σ`. -/
structure Fetcher (σ : Type) where
  canonical : TokenRequest → TokenRequest
  rule : TokenRequest → LifetimeRule
  /-- Starts a fetch at an instant. -/
  call : TokenRequest → Instant → σ → FetchCall × σ

end BearerCache
