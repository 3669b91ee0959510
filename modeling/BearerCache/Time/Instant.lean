import BearerCache.Time.Span

/-! # Instants

A point in time in nanoseconds since the start of 1970, from the year -9999 to the year
9999.  Sums and differences that leave that range do not exist, so `add?` and `sub?` may give
nothing; whoever uses them says what happens then. -/

namespace BearerCache

/-- The start of the year -9999. -/
def minInstantNanos : Int := -377705116800000000000

/-- The last nanosecond of the year 9999. -/
def maxInstantNanos : Int := 253402300799999999999

/-- A point in time. -/
structure Instant where
  nanoseconds : Int
  inRange : minInstantNanos ≤ nanoseconds ∧ nanoseconds ≤ maxInstantNanos := by decide
  deriving DecidableEq

namespace Instant

/-- The instant some nanoseconds after the start of 1970. -/
def ofNanoseconds? (n : Int) : Option Instant :=
  if h : minInstantNanos ≤ n ∧ n ≤ maxInstantNanos then some ⟨n, h⟩ else none

theorem ofNanoseconds?_nanoseconds {n : Int} {t : Instant} (h : ofNanoseconds? n = some t) :
    t.nanoseconds = n := by
  unfold ofNanoseconds? at h
  split at h
  · cases h; rfl
  · cases h

/-- An instant is that of its nanoseconds, and of no others. -/
theorem ofNanoseconds?_eq_some_iff {n : Int} {t : Instant} :
    ofNanoseconds? n = some t ↔ t.nanoseconds = n := by
  constructor
  · exact ofNanoseconds?_nanoseconds
  · rintro rfl
    exact dif_pos t.inRange

/-- There are instants from the first to the last one. -/
theorem exists_ofNanoseconds?_iff {n : Int} :
    (∃ t, ofNanoseconds? n = some t) ↔ minInstantNanos ≤ n ∧ n ≤ maxInstantNanos := by
  constructor
  · rintro ⟨t, h⟩
    rw [← ofNanoseconds?_nanoseconds h]
    exact t.inRange
  · intro h
    exact ⟨⟨n, h⟩, dif_pos h⟩

/-- The instant some seconds, and nanoseconds on top, after the start of 1970. -/
def ofUnix? (seconds nanoseconds : Int) : Option Instant :=
  ofNanoseconds? (seconds * nanosPerSecond + nanoseconds)

/-- The whole seconds since the start of 1970, rounded down. -/
def unixSeconds (t : Instant) : Int :=
  t.nanoseconds / nanosPerSecond

/-- The nanoseconds since the last whole second. -/
def subsecond (t : Instant) : Int :=
  t.nanoseconds % nanosPerSecond

/-- The instant a span later. -/
def add? (t : Instant) (s : Span) : Option Instant :=
  ofNanoseconds? (t.nanoseconds + s.nanoseconds)

/-- No time later it is the same instant. -/
theorem add?_zero (t : Instant) : t.add? .zero = some t := by
  have hrange := t.inRange
  simp only [add?, ofNanoseconds?, Span.zero, Int.add_zero]
  exact dif_pos hrange

/-- The instant a span earlier. -/
def sub? (t : Instant) (s : Span) : Option Instant :=
  ofNanoseconds? (t.nanoseconds - s.nanoseconds)

/-- Time passes from smaller to greater instants. -/
instance : LT Instant := ⟨fun a b => a.nanoseconds < b.nanoseconds⟩

instance : LE Instant := ⟨fun a b => a.nanoseconds ≤ b.nanoseconds⟩

instance (a b : Instant) : Decidable (a < b) := Int.decLt a.nanoseconds b.nanoseconds

instance (a b : Instant) : Decidable (a ≤ b) := Int.decLe a.nanoseconds b.nanoseconds

theorem lt_def {a b : Instant} : a < b ↔ a.nanoseconds < b.nanoseconds := Iff.rfl

theorem le_def {a b : Instant} : a ≤ b ↔ a.nanoseconds ≤ b.nanoseconds := Iff.rfl

/-- The time from one instant to a later one; negative if it is earlier. -/
def spanTo (a b : Instant) : Span :=
  ⟨b.nanoseconds - a.nanoseconds, by
    have ha := a.inRange
    have hb := b.inRange
    simp only [minInstantNanos, maxInstantNanos, minSpanNanos, maxSpanNanos] at *
    omega⟩

end Instant

end BearerCache
