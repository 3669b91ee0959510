import BearerCache.Time.Instant

/-! # Clocks

A clock is read; what it then shows may be later.  One that is moved by hand shows the same
until it is moved, and cannot be moved out of the calendar. -/

namespace BearerCache

/-- A clock. -/
structure Clock where
  now : Instant
  /-- How much time passes with each reading. -/
  tick : Span

namespace Clock

/-- A clock that is moved by hand. -/
def manual (now : Instant) : Clock := ⟨now, .zero⟩

/-- A clock that runs. -/
def running (now : Instant) : Clock := ⟨now, ⟨1000, by decide⟩⟩

/-- Reads a clock. -/
def read (clock : Clock) : Instant × Clock :=
  (clock.now, { clock with now := (clock.now.add? clock.tick).getD clock.now })

/-- Puts a clock to an instant. -/
def set (clock : Clock) (now : Instant) : Clock :=
  { clock with now := now }

/-- Moves a clock by a span, if that does not lead out of the calendar. -/
def advance? (clock : Clock) (span : Span) : Option Clock :=
  (clock.now.add? span).map clock.set

/-- A clock moved by hand stands still while it is read. -/
theorem read_manual (now : Instant) : (manual now).read = (now, manual now) := by
  simp [manual, read, Instant.add?_zero]

end Clock

end BearerCache
