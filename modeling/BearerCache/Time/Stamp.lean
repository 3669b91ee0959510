import BearerCache.Time.Calendar

/-! # Stamps

A local date and time with its offset from universal time, as it is written in JSON: nine
whole numbers, the year, the day in the year, hour, minute, second and nanosecond, and the
hours, minutes and seconds of the offset.  What the library writes itself has no offset.

The parts of an offset have one sign: the sign of the hours is given to the minutes and
seconds, or that of the minutes to the seconds if there are no hours. -/

namespace BearerCache

/-- A date and time with its offset. -/
structure Stamp where
  year : Int
  /-- The number of the day in the year, from one. -/
  ordinal : Nat
  hour : Nat
  minute : Nat
  second : Nat
  nanosecond : Nat
  offsetHours : Int
  offsetMinutes : Int
  offsetSeconds : Int
  deriving DecidableEq, Repr

namespace Stamp

/-- An instant in universal time. -/
def ofInstant (t : Instant) : Stamp :=
  let day := Calendar.dayOf t
  let second := Calendar.secondOfDay t
  ⟨Calendar.yearOf day, Calendar.ordinalOf day, second / 3600, second / 60 % 60, second % 60,
    t.subsecond.toNat, 0, 0, 0⟩

/-- The seconds from the start of 1970 to the local date and time, as if it were universal time. -/
def localSeconds (s : Stamp) : Int :=
  (Calendar.startOfYear s.year + Int.ofNat s.ordinal - 1) * 86400
    + (Int.ofNat s.hour * 3600 + Int.ofNat s.minute * 60 + Int.ofNat s.second)

/-- The seconds by which local time is ahead. -/
def aheadSeconds (s : Stamp) : Int :=
  s.offsetHours * 3600 + s.offsetMinutes * 60 + s.offsetSeconds

/-- The seconds since the start of 1970; the nanoseconds come on top.  The offset may lead
out of the years that an instant can have. -/
def unixSeconds (s : Stamp) : Int :=
  s.localSeconds - s.aheadSeconds

/-- The nanoseconds from the start of 1970 to the local date and time, as if it were universal
time. -/
def localNanoseconds (s : Stamp) : Int :=
  s.localSeconds * nanosPerSecond + Int.ofNat s.nanosecond

/-- The nanoseconds since the start of 1970. -/
def nanoseconds (s : Stamp) : Int :=
  s.localNanoseconds - s.aheadSeconds * nanosPerSecond

/-- The parts in their written order. -/
def parts (s : Stamp) : List Int :=
  [s.year, s.ordinal, s.hour, s.minute, s.second, s.nanosecond, s.offsetHours,
    s.offsetMinutes, s.offsetSeconds]

/-- A stamp in JSON. -/
def toJson (s : Stamp) : Json.Value :=
  .list (s.parts.map .integer)

/-! ## Reading -/

/-- A number with the sign of another; unchanged if that one is zero. -/
def signedLike (sign n : Int) : Int :=
  if sign < 0 then -(n.natAbs : Int) else if 0 < sign then n.natAbs else n

/-- The offset with the sign of its leading part. -/
def withOneSign (s : Stamp) : Stamp :=
  let minutes := signedLike s.offsetHours s.offsetMinutes
  let seconds := signedLike s.offsetHours (signedLike minutes s.offsetSeconds)
  { s with offsetMinutes := minutes, offsetSeconds := seconds }

/-- The first part that is out of its range. -/
def firstInvalid (s : Stamp) : Option String :=
  if s.year < -9999 ∨ 9999 < s.year then some "year"
  else if s.ordinal = 0 ∨ Calendar.yearLength s.year < s.ordinal then some "ordinal"
  else if 23 < s.hour then some "hour"
  else if 59 < s.minute then some "minute"
  else if 59 < s.second then some "second"
  else if 999999999 < s.nanosecond then some "nanosecond"
  else if 25 < s.offsetHours.natAbs then some "offset hour"
  else if 59 < s.offsetMinutes.natAbs then some "offset minute"
  else if 59 < s.offsetSeconds.natAbs then some "offset second"
  else none

/-- The stamp of parts as they were read, if all are in range. -/
def checked (s : Stamp) : Except String Stamp :=
  match s.firstInvalid with
  | some part => .error s!"invalid {part}, expected an in-range value"
  | none => .ok s.withOneSign

/-- The start of the year 0, before any part is read. -/
def blank : Stamp := ⟨0, 1, 0, 0, 0, 0, 0, 0, 0⟩

/-- Reads a stamp. -/
def reader : Json.Reader Stamp :=
  let u8 := Json.Reader.whole "u8" 0 255
  let i8 := Json.Reader.whole "i8" (-128) 127
  Json.Reader.tuple "an `OffsetDateTime`"
    [("year", (Json.Reader.whole "i32" (-2147483648) 2147483647).map
        fun n s => { s with year := n }),
      ("day of year", (Json.Reader.whole "u16" 0 65535).map
        fun n s => { s with ordinal := n.toNat }),
      ("hour", u8.map fun n s => { s with hour := n.toNat }),
      ("minute", u8.map fun n s => { s with minute := n.toNat }),
      ("second", u8.map fun n s => { s with second := n.toNat }),
      ("nanosecond", (Json.Reader.whole "u32" 0 4294967295).map
        fun n s => { s with nanosecond := n.toNat }),
      ("offset hours", i8.map fun n s => { s with offsetHours := n }),
      ("offset minutes", i8.map fun n s => { s with offsetMinutes := n }),
      ("offset seconds", i8.map fun n s => { s with offsetSeconds := n })]
    blank checked

end Stamp

end BearerCache
