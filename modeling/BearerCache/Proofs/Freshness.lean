import BearerCache.Cache.Machine
import BearerCache.Proofs.TimeText

/-! # When a lease is fresh

A lease is fresh at an instant if it expires later than the margin after that instant.  What is
compared is the instant and the one that is the margin before the expiry.  That is the same, as long
as there is such an instant: a margin that reaches from the expiry to before the first instant of
the calendar leaves the question without an answer, at whichever instant it is asked.

Of a lease that was read with an offset, it is the local date and time of the expiry from which the
margin must not reach out of the calendar.

## Key results

- `isFreshAt?_eq_true_iff`, `isFreshAt?_eq_false_iff`, `isFreshAt?_eq_none_iff`: the answers
- `freshness_exact`: the answers to the question, and that a lease is fresh no longer once it is not
- `LeaseDocument.isFreshAt?_iff`: the answers for a lease with an offset
- `freshLease?_eq_none_iff`: when a cache does not come to an answer
-/

namespace BearerCache

/-! ## Margins -/

namespace Span

/-- A negative span is none in its place. -/
theorem nanoseconds_clamped_nonneg (span : Span) : 0 ≤ span.clamped.nanoseconds := by
  unfold clamped
  split
  next => exact Int.le_refl 0
  next hneg => exact Int.not_lt.mp hneg

end Span

/-- An instant a margin earlier is in the calendar unless it is before the first one. -/
theorem Instant.exists_sub?_iff {t : Instant} {margin : Span} (hmargin : 0 ≤ margin.nanoseconds) :
    (∃ limit, t.sub? margin = some limit) ↔
      minInstantNanos + margin.nanoseconds ≤ t.nanoseconds := by
  have hmax := t.inRange.2
  rw [sub?, exists_ofNanoseconds?_iff]
  omega

/-! ## The answers -/

namespace Lease

variable {lease : Lease} {now : Instant} {margin : Span}

/-- There is no answer if the margin before the expiry is before the first instant. -/
theorem isFreshAt?_eq_none_iff (hmargin : 0 ≤ margin.nanoseconds) :
    lease.isFreshAt? now margin = none ↔
      lease.expiresAt.nanoseconds < minInstantNanos + margin.nanoseconds := by
  rw [isFreshAt?, Option.map_eq_none_iff, ← Int.not_le, ← Instant.exists_sub?_iff hmargin,
    Option.eq_none_iff_forall_ne_some, not_exists]

/-- A lease is fresh if it expires after the margin. -/
theorem isFreshAt?_eq_true_iff (hmargin : 0 ≤ margin.nanoseconds) :
    lease.isFreshAt? now margin = some true ↔
      now.nanoseconds + margin.nanoseconds < lease.expiresAt.nanoseconds := by
  rw [isFreshAt?_eq_some_true_iff]
  constructor
  · rintro ⟨limit, hlimit, hlt⟩
    have hnanos := Instant.ofNanoseconds?_nanoseconds hlimit
    rw [Instant.lt_def] at hlt
    omega
  · intro hlt
    -- The instant itself is in the calendar, and what is after it is not before the first one.
    have hmin := now.inRange.1
    obtain ⟨limit, hlimit⟩ : ∃ limit, lease.expiresAt.sub? margin = some limit :=
      (Instant.exists_sub?_iff hmargin).mpr (by omega)
    have hnanos := Instant.ofNanoseconds?_nanoseconds hlimit
    refine ⟨limit, hlimit, ?_⟩
    rw [Instant.lt_def]
    omega

/-- A lease is not fresh if it expires within the margin, and the margin before its expiry is not
before the first instant. -/
theorem isFreshAt?_eq_false_iff (hmargin : 0 ≤ margin.nanoseconds) :
    lease.isFreshAt? now margin = some false ↔
      minInstantNanos + margin.nanoseconds ≤ lease.expiresAt.nanoseconds ∧
        lease.expiresAt.nanoseconds ≤ now.nanoseconds + margin.nanoseconds := by
  rw [isFreshAt?_eq_some_false_iff, ← Instant.exists_sub?_iff hmargin]
  -- The record is past its limit exactly where the limit exists.
  constructor
  · rintro ⟨limit, hlimit, hle⟩
    have hnanos := Instant.ofNanoseconds?_nanoseconds hlimit
    rw [Instant.le_def] at hle
    exact ⟨⟨limit, hlimit⟩, by omega⟩
  · rintro ⟨⟨limit, hlimit⟩, hle⟩
    have hnanos := Instant.ofNanoseconds?_nanoseconds hlimit
    refine ⟨limit, hlimit, ?_⟩
    rw [Instant.le_def]
    omega

/-- A lease that is fresh has not expired, if the margin is not negative. -/
theorem lt_expiresAt_of_isFreshAt? (hmargin : 0 ≤ margin.nanoseconds)
    (h : lease.isFreshAt? now margin = some true) : now < lease.expiresAt := by
  have hlt := (isFreshAt?_eq_true_iff hmargin).mp h
  rw [Instant.lt_def]
  omega

/-- For a margin that is not negative, a lease is fresh just if it expires after the margin, and
there is an answer just if the margin before its expiry is in the calendar.  A lease that is fresh
has been fresh before, and is so with a smaller margin. -/
theorem freshness_exact (lease : Lease) (margin : Span) (hmargin : 0 ≤ margin.nanoseconds) :
    (∀ now, lease.isFreshAt? now margin = some true ↔
      now.nanoseconds + margin.nanoseconds < lease.expiresAt.nanoseconds) ∧
    (∀ now, lease.isFreshAt? now margin = some false ↔
      minInstantNanos + margin.nanoseconds ≤ lease.expiresAt.nanoseconds ∧
        lease.expiresAt.nanoseconds ≤ now.nanoseconds + margin.nanoseconds) ∧
    (∀ now, lease.isFreshAt? now margin = none ↔
      lease.expiresAt.nanoseconds < minInstantNanos + margin.nanoseconds) ∧
    (∀ now later, now ≤ later → lease.isFreshAt? later margin = some true →
      lease.isFreshAt? now margin = some true) ∧
    (∀ now wider, margin.nanoseconds ≤ wider.nanoseconds →
      lease.isFreshAt? now wider = some true → lease.isFreshAt? now margin = some true) := by
  -- All five parts come down to comparing numbers of nanoseconds.
  refine ⟨fun now => isFreshAt?_eq_true_iff hmargin, fun now => isFreshAt?_eq_false_iff hmargin,
    fun now => isFreshAt?_eq_none_iff hmargin, fun now later hle hfresh => ?_,
    fun now wider hle hfresh => ?_⟩
  · rw [isFreshAt?_eq_true_iff hmargin] at hfresh ⊢
    rw [Instant.le_def] at hle
    omega
  · have hwider : 0 ≤ wider.nanoseconds := Int.le_trans hmargin hle
    rw [isFreshAt?_eq_true_iff hwider] at hfresh
    rw [isFreshAt?_eq_true_iff hmargin]
    omega

end Lease

namespace LeaseDocument

/-- Among leases with an offset, one is fresh just if it expires after the margin, as long as there
is an answer.  There is one just if the local date and time of the expiry is the margin after the
first instant. -/
theorem isFreshAt?_iff (document : LeaseDocument) (hvalid : document.expiresAt.IsValid)
    (now : Instant) {margin : Span} (hmargin : 0 ≤ margin.nanoseconds) :
    (document.isFreshAt? now margin = none ↔
      document.expiresAt.localNanoseconds < minInstantNanos + margin.nanoseconds) ∧
    ∀ isFresh, document.isFreshAt? now margin = some isFresh ↔
      minInstantNanos + margin.nanoseconds ≤ document.expiresAt.localNanoseconds ∧
        isFresh = decide (now.nanoseconds + margin.nanoseconds <
          document.expiresAt.nanoseconds) := by
  obtain ⟨-, hmax⟩ := hvalid.localNanoseconds_bounds
  rw [isFreshAt?]
  cases hof : Instant.ofNanoseconds?
      (document.expiresAt.localNanoseconds - margin.nanoseconds) with
  -- There is no limit in the calendar, which can only be as it lies before the first instant.
  | none =>
    have hout : document.expiresAt.localNanoseconds < minInstantNanos + margin.nanoseconds := by
      by_contra hin
      obtain ⟨limit, hlimit⟩ := (@Instant.exists_ofNanoseconds?_iff
        (document.expiresAt.localNanoseconds - margin.nanoseconds)).mpr (by omega)
      rw [hof] at hlimit
      cases hlimit
    refine ⟨iff_of_true rfl hout, fun isFresh => iff_of_false nofun fun ⟨hin, _⟩ => ?_⟩
    exact Int.not_le.mpr hout hin
  | some limit =>
    have hnanos := Instant.ofNanoseconds?_nanoseconds hof
    have hmin := limit.inRange.1
    have hsame : now.nanoseconds <
          limit.nanoseconds - document.expiresAt.aheadSeconds * nanosPerSecond ↔
        now.nanoseconds + margin.nanoseconds < document.expiresAt.nanoseconds := by
      rw [Stamp.nanoseconds]
      omega
    simp only [Option.map_some, reduceCtorEq, false_iff, Option.some.injEq,
      decide_eq_decide.mpr hsame]
    refine ⟨by omega, fun isFresh => ?_⟩
    rw [and_iff_right (by omega), eq_comm]

/-- A lease that is written is fresh when its document is. -/
theorem isFreshAt?_document (lease : Lease) (now : Instant) (margin : Span) :
    lease.document.isFreshAt? now margin = lease.isFreshAt? now margin := by
  have hexpiry : (Stamp.ofInstant lease.expiresAt).localNanoseconds = lease.expiresAt.nanoseconds :=
    Stamp.localNanoseconds_ofInstant lease.expiresAt
  have hahead : (Stamp.ofInstant lease.expiresAt).aheadSeconds * nanosPerSecond = 0 := rfl
  simp only [isFreshAt?, Lease.document, hexpiry, hahead, Int.sub_zero]
  rfl

end LeaseDocument

/-- A cache does not come to an answer if it has a lease that expires less than the margin after the
first instant. -/
theorem Cache.State.freshLease?_eq_none_iff {state : Cache.State} {key : EntryKey} {margin : Span}
    {now : Instant} (hmargin : 0 ≤ margin.nanoseconds) :
    state.freshLease? key margin now = none ↔
      ∃ lease, state.store.fetch? key = some lease ∧
        lease.expiresAt.nanoseconds < minInstantNanos + margin.nanoseconds := by
  unfold freshLease?
  cases hstore : state.store.fetch? key with
  | none => simp
  | some lease => simp [Lease.isFreshAt?_eq_none_iff hmargin]

namespace Sample

/-- A lease from noon to one o'clock. -/
def hourLease : Lease :=
  { token := ⟨"token"⟩
    issuedAt := ⟨1735732800000000000, by decide⟩
    expiresAt := ⟨1735736400000000000, by decide⟩ }

/-- With a margin of ten seconds the lease is fresh until ten seconds before one o'clock, and so it
is without a margin. -/
theorem fresh_until_the_margin :
    (∀ now, hourLease.isFreshAt? now ⟨10000000000, by decide⟩ = some true ↔
      now.nanoseconds + 10000000000 < 1735736400000000000) ∧
    hourLease.isFreshAt? ⟨1735736389999999999, by decide⟩ ⟨0, by decide⟩ = some true := by
  obtain ⟨htrue, -⟩ := hourLease.freshness_exact ⟨10000000000, by decide⟩ (by decide)
  obtain ⟨-, -, -, -, hnarrower⟩ := hourLease.freshness_exact ⟨0, by decide⟩ (by decide)
  have hfresh := (htrue ⟨1735736389999999999, by decide⟩).mpr (by decide)
  exact ⟨htrue, hnarrower _ _ (by decide) hfresh⟩

/-- The longest margin leads out of the calendar, also from a lease of our time. -/
theorem longest_margin_has_no_answer :
    ¬∀ (lease : Lease) (now : Instant) (margin : Span), 0 ≤ margin.nanoseconds →
      ∃ isFresh, lease.isFreshAt? now margin = some isFresh := by
  intro h
  obtain ⟨isFresh, hanswer⟩ := h hourLease hourLease.issuedAt ⟨maxSpanNanos, by decide⟩ (by decide)
  rw [show hourLease.isFreshAt? hourLease.issuedAt ⟨maxSpanNanos, by decide⟩ = none by rfl]
    at hanswer
  cases hanswer

end Sample

end BearerCache
