import BearerCache.Json.Record
import BearerCache.Json.Value
import BearerCache.Text.Digits

/-! # Spans of time

A signed length of time in nanoseconds.  It is shown and written as whole seconds and the
nanoseconds that remain, both with the sign of the span; the seconds fit in 64 bits. -/

namespace BearerCache

/-- How many nanoseconds a second has. -/
def nanosPerSecond : Int := 1000000000

/-- The least span in nanoseconds. -/
def minSpanNanos : Int := -9223372036854775808999999999

/-- The greatest span in nanoseconds. -/
def maxSpanNanos : Int := 9223372036854775807999999999

/-- A signed length of time. -/
structure Span where
  nanoseconds : Int
  inRange : minSpanNanos ≤ nanoseconds ∧ nanoseconds ≤ maxSpanNanos := by decide
  deriving DecidableEq

namespace Span

/-- The span of some nanoseconds, if it is one. -/
def ofNanoseconds? (n : Int) : Option Span :=
  if h : minSpanNanos ≤ n ∧ n ≤ maxSpanNanos then some ⟨n, h⟩ else none

/-- The span of some seconds and further nanoseconds, of any signs. -/
def ofParts? (seconds nanoseconds : Int) : Option Span :=
  ofNanoseconds? (seconds * nanosPerSecond + nanoseconds)

/-- The span of some whole seconds. -/
def ofSeconds? (seconds : Int) : Option Span :=
  ofParts? seconds 0

theorem ofNanoseconds?_nanoseconds {n : Int} {s : Span} (h : ofNanoseconds? n = some s) :
    s.nanoseconds = n := by
  unfold ofNanoseconds? at h
  split at h
  · cases h; rfl
  · cases h

/-- No time at all. -/
def zero : Span := ⟨0, by decide⟩

/-- The whole seconds of a span, without its fraction. -/
def wholeSeconds (s : Span) : Int :=
  s.nanoseconds.tdiv nanosPerSecond

/-- The nanoseconds beyond the whole seconds, with the sign of the span. -/
def subsecond (s : Span) : Int :=
  s.nanoseconds.tmod nanosPerSecond

/-- Whether a span is longer than none. -/
def isPositive (s : Span) : Bool :=
  decide (0 < s.nanoseconds)

/-- A span that is not negative: zero in place of every negative one. -/
def clamped (s : Span) : Span :=
  if s.nanoseconds < 0 then zero else s

/-- A span as it is shown in the description of a value. -/
def describe (s : Span) : String :=
  Text.described "SignedDuration"
    [("seconds", Text.decimal s.wholeSeconds), ("nanoseconds", Text.decimal s.subsecond)]

/-- A span in JSON: seconds and nanoseconds. -/
def toJson (s : Span) : Json.Value :=
  .list [.integer s.wholeSeconds, .integer s.subsecond]

/-- Reads a span from JSON.  The nanoseconds must be less than a second. -/
def reader : Json.Reader Span :=
  Json.Reader.tuple "a `SignedDuration`"
    [("seconds", (Json.Reader.whole "i64" Text.int64Min Text.int64Max).map
        fun n parts => (n, parts.2)),
      ("nanoseconds", (Json.Reader.whole "i32" (-2147483648) 2147483647).map
        fun n parts => (parts.1, n))]
    ((0, 0) : Int × Int)
    fun (seconds, nanoseconds) =>
      match ofParts? seconds nanoseconds with
      | some span =>
        if -nanosPerSecond < nanoseconds ∧ nanoseconds < nanosPerSecond then .ok span
        else .error "invalid value: integer, expected an integer in the valid range"
      | none => .error "invalid value: integer, expected an integer in the valid range"

end Span

end BearerCache
