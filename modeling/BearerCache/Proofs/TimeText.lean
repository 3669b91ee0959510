import BearerCache.Lease.Document
import BearerCache.Proofs.JsonValues

/-! # Times are read back

Spans and stamps are lists of whole numbers in JSON.  Such a list is read one number after the
other (`Counts`), so it is read back if each number is in the range of its reader and what they come
to is accepted.

The numbers of an instant are those of the calendar.  A day falls in the year that the calendar has
for it, over all years of the calendar, so the stamp of an instant stands for that instant.

## Key results

- `Json.Reads.tuple`: lists of whole numbers are read back
- `Span.reads_toJson`, `Stamp.reads_toJson`: spans and stamps are read back
- `Stamp.isValid_ofInstant`, `Stamp.unixSeconds_ofInstant`: the stamp of an instant
- `LeaseDocument.reads_toJson`: leases are read back
-/

namespace BearerCache

/-! ## Lists of whole numbers -/

namespace Json

variable {σ α : Type}

/-- The numbers of a list are read one after the other, each as a change of what was read before. -/
inductive Counts : List (String × Reader (σ → σ)) → σ → List Int → σ → Prop where
  | nil {state : σ} : Counts [] state [] state
  | cons {name : String} {item : Reader (σ → σ)} {items : List (String × Reader (σ → σ))}
      {change : σ → σ} {state last : σ} {n : Int} {ns : List Int}
      (hreads : Reads item (.integer n) change) (hrest : Counts items (change state) ns last) :
      Counts ((name, item) :: items) state (n :: ns) last

/-- A whole number begins with a digit or the minus sign. -/
theorem exists_byte_integer (n : Int) :
    ∃ b tail, encoded (Value.integer n).chars = b :: tail ∧ isBlankByte b = false ∧ b ≠ 0x5D := by
  cases n with
  | ofNat n =>
    obtain ⟨b, tail, htail, -⟩ := exists_digitBytes n
    have hb : isDigit b := isDigit_of_mem_digitBytes n b (by simp [htail])
    refine ⟨b, tail, htail, isBlankByte_of_isDigit hb, ?_⟩
    rintro rfl
    exact absurd hb (by decide)
  | negSucc n => exact ⟨0x2D, _, rfl, by decide, by decide⟩

/-- A number is the first element of a list, or it follows a comma. -/
theorem nextElement_integer (n : Int) (rest : List UInt8) :
    nextElement true (encoded (Value.integer n).chars ++ rest) =
        .ok (true, encoded (Value.integer n).chars ++ rest) ∧
      nextElement false (0x2C :: encoded (Value.integer n).chars ++ rest) =
        .ok (true, encoded (Value.integer n).chars ++ rest) := by
  obtain ⟨b, tail, htail, hblank, hne⟩ := exists_byte_integer n
  simp [nextElement, htail, blanks_cons hblank, blanks_cons (b := 0x2C) (by decide), hne]

/-- Behind an element of a list there are further elements, or the bracket. -/
theorem ends_elementChars (vs : List Value) (rest : List UInt8) :
    Ends (encoded (Value.elementChars vs) ++ rest) := by
  cases vs with
  | nil => exact .inr (.inr rfl)
  | cons v vs => exact .inl rfl

variable {items : List (String × Reader (σ → σ))} {state last : σ} {ns : List Int}

/-- The further numbers of a list are read, up to the bracket. -/
theorem Counts.elements (h : Counts items state ns last) (short : Nat → String) (index : Nat)
    (rest : List UInt8) :
    elements short (items.map (·.2)) (index + 1) state
      (encoded (Value.elementChars (ns.map Value.integer)) ++ rest) = .ok (last, 0x5D :: rest) := by
  -- On the numbers that are still to come, each with a comma before it.
  induction h generalizing index with
  | nil => rfl
  | @cons name item items change state last n ns hreads _ ih =>
    have hbytes : encoded (Value.elementChars ((n :: ns).map Value.integer)) ++ rest =
        0x2C :: encoded (Value.integer n).chars ++
          (encoded (Value.elementChars (ns.map Value.integer)) ++ rest) := by
      simp only [List.map_cons, Value.elementChars, encoded_append, encoded_cons, List.append_assoc]
      rfl
    rw [hbytes, List.map_cons, Json.elements, show (index + 1 == 0) = false from rfl,
      (nextElement_integer n _).2]
    simp only [hreads _ (ends_elementChars (ns.map Value.integer) rest), ih]

/-- All numbers of a list are read, up to the bracket. -/
theorem Counts.list (h : Counts items state ns last) (short : Nat → String) (rest : List UInt8) :
    ∃ inner, encoded (Value.list (ns.map Value.integer)).chars ++ rest = 0x5B :: inner ∧
      Json.elements short (items.map (·.2)) 0 state inner = .ok (last, 0x5D :: rest) := by
  -- The first number has no comma before it.
  cases h with
  | nil => exact ⟨0x5D :: rest, rfl, rfl⟩
  | @cons name item items change state last n ns hreads hrest =>
    refine ⟨encoded (Value.integer n).chars ++
      (encoded (Value.elementChars (ns.map Value.integer)) ++ rest), ?_, ?_⟩
    · simp only [List.map_cons, Value.chars, encoded_append, encoded_cons, List.append_assoc]
      rfl
    · rw [List.map_cons, Json.elements, show ((0 : Nat) == 0) = true from rfl,
        (nextElement_integer n _).1]
      simp only [hreads _ (ends_elementChars (ns.map Value.integer) rest),
        hrest.elements short 0 rest]

/-- A list of whole numbers is read back when its numbers are, and what they come to is accepted. -/
theorem Reads.tuple {kind : String} {conclude : σ → Except String α} {v : Value} {a : α}
    (hcounts : Counts items state ns last) (hv : v = .list (ns.map Value.integer))
    (h : conclude last = .ok a) : Reads (.tuple kind items state conclude) v a := by
  subst hv
  intro rest _
  obtain ⟨inner, hbytes, helements⟩ := hcounts.list
    (fun n => s!"expected {((items.map (·.1))[n]?).getD kind}") rest
  simp only [Reader.tuple, Reader.ofByte, hbytes, blanks_cons (b := 0x5B) (by decide), if_true,
    helements, enclosed, h, close, blanks_cons (b := 0x5D) (by decide)]
  rfl

end Json

/-! ## Spans -/

/-- The seconds of a span fit in 64 bits, and the rest is less than a second. -/
theorem Span.parts_bounds (span : Span) :
    (Text.int64Min ≤ span.wholeSeconds ∧ span.wholeSeconds ≤ Text.int64Max) ∧
      -nanosPerSecond < span.subsecond ∧ span.subsecond < nanosPerSecond := by
  obtain ⟨hmin, hmax⟩ := span.inRange
  simp only [minSpanNanos, maxSpanNanos] at hmin hmax
  simp only [wholeSeconds, subsecond, nanosPerSecond, Text.int64Min, Text.int64Max]
  -- Both parts have the sign of the span.
  rcases Int.le_total 0 span.nanoseconds with hpositive | hnegative
  · rw [Int.tdiv_eq_ediv_of_nonneg hpositive, Int.tmod_eq_emod_of_nonneg hpositive]
    omega
  · obtain ⟨n, hn⟩ : ∃ n, span.nanoseconds = -n := ⟨-span.nanoseconds, by omega⟩
    rw [hn] at hmin hmax hnegative ⊢
    have hpositive : 0 ≤ n := by omega
    rw [Int.neg_tdiv, Int.neg_tmod, Int.tdiv_eq_ediv_of_nonneg hpositive,
      Int.tmod_eq_emod_of_nonneg hpositive]
    omega

/-- The parts of a span make up the span. -/
theorem Span.ofParts?_parts (span : Span) :
    ofParts? span.wholeSeconds span.subsecond = some span := by
  have hsum : span.wholeSeconds * nanosPerSecond + span.subsecond = span.nanoseconds :=
    Int.tdiv_mul_add_tmod span.nanoseconds nanosPerSecond
  rw [ofParts?, hsum, ofNanoseconds?]
  exact dif_pos span.inRange

/-- Spans are read back from JSON. -/
theorem Span.reads_toJson (span : Span) : Json.Reads reader span.toJson span := by
  obtain ⟨⟨hmin, hmax⟩, hless, hmore⟩ := span.parts_bounds
  have hsecond : nanosPerSecond = 1000000000 := rfl
  have hseconds : Json.Reads (.whole "i64" Text.int64Min Text.int64Max)
      (.integer span.wholeSeconds) span.wholeSeconds :=
    .whole hmin hmax hmin (Int.le_trans hmax (by decide))
  have hnanoseconds : Json.Reads (.whole "i32" (-2147483648) 2147483647)
      (.integer span.subsecond) span.subsecond := by
    have hmost : span.subsecond ≤ 2147483647 := by omega
    exact .whole (by omega) hmost (by omega) (Int.le_trans hmost (by decide))
  refine .tuple (.cons (hseconds.map _) (.cons (hnanoseconds.map _) .nil)) rfl ?_
  simp only [Span.ofParts?_parts, if_pos (And.intro hless hmore)]

/-! ## The calendar -/

namespace Calendar

/-- A year ends where the next one starts. -/
theorem startOfYear_succ (year : Int) :
    startOfYear (year + 1) = startOfYear year + yearLength year := by
  -- Leap years by their rule, as conditions that arithmetic can decide.
  have hleap : isLeap year = true ↔ year % 4 = 0 ∧ (year % 100 ≠ 0 ∨ year % 400 = 0) := by
    simp [isLeap]
  unfold yearLength
  split
  next h =>
    rw [hleap] at h
    simp only [startOfYear]
    omega
  next h =>
    rw [hleap] at h
    simp only [startOfYear]
    omega

/-- A day is in its year. -/
theorem yearOf_spec (day : Int) :
    startOfYear (yearOf day) ≤ day ∧ day < startOfYear (yearOf day + 1) := by
  unfold yearOf
  dsimp only
  split
  next => simp only [startOfYear] at *; omega
  split
  next => simp only [startOfYear] at *; omega
  next => simp only [startOfYear] at *; omega

end Calendar

/-! ## Stamps -/

namespace Stamp

/-- A stamp whose parts are in range, the offset with one sign. -/
structure IsValid (s : Stamp) : Prop where
  inRange : s.firstInvalid = none
  oneSign : s.withOneSign = s

/-- The ranges of the parts. -/
theorem firstInvalid_eq_none_iff (s : Stamp) :
    s.firstInvalid = none ↔
      (-9999 ≤ s.year ∧ s.year ≤ 9999) ∧
        (0 < s.ordinal ∧ s.ordinal ≤ Calendar.yearLength s.year) ∧
        s.hour ≤ 23 ∧ s.minute ≤ 59 ∧ s.second ≤ 59 ∧ s.nanosecond ≤ 999999999 ∧
        s.offsetHours.natAbs ≤ 25 ∧ s.offsetMinutes.natAbs ≤ 59 ∧ s.offsetSeconds.natAbs ≤ 59 := by
  simp only [firstInvalid, ite_eq_iff, reduceCtorEq, and_false, false_or, and_true, not_or, not_lt,
    Nat.pos_iff_ne_zero]

/-- Valid stamps are read back from JSON. -/
theorem reads_toJson {s : Stamp} (h : s.IsValid) : Json.Reads reader s.toJson s := by
  obtain ⟨hyear, hordinal, hhour, hminute, hsecond, hnanosecond, hhours, hminutes, hseconds⟩ :=
    (firstInvalid_eq_none_iff s).mp h.inRange
  have hlength : Calendar.yearLength s.year ≤ 366 := by
    unfold Calendar.yearLength
    split <;> omega
  have hwhole : ∀ (kind : String) (least greatest n : Int),
      (-2147483648 ≤ least ∧ greatest ≤ 4294967295) ∧ least ≤ n ∧ n ≤ greatest →
      Json.Reads (.whole kind least greatest) (.integer n) n := by
    rintro kind least greatest n ⟨⟨hleast, hgreatest⟩, hmin, hmax⟩
    have hmost : n ≤ 4294967295 := Int.le_trans hmax hgreatest
    exact .whole hmin hmax (by omega) (Int.le_trans hmost (by decide))
  -- The nine parts stand in the order in which they are read.
  refine .tuple
    (.cons ((hwhole _ _ _ s.year (by omega)).map _) <|
      .cons ((hwhole _ _ _ s.ordinal (by omega)).map _) <|
      .cons ((hwhole _ _ _ s.hour (by omega)).map _) <|
      .cons ((hwhole _ _ _ s.minute (by omega)).map _) <|
      .cons ((hwhole _ _ _ s.second (by omega)).map _) <|
      .cons ((hwhole _ _ _ s.nanosecond (by omega)).map _) <|
      .cons ((hwhole _ _ _ s.offsetHours (by omega)).map _) <|
      .cons ((hwhole _ _ _ s.offsetMinutes (by omega)).map _) <|
      .cons ((hwhole _ _ _ s.offsetSeconds (by omega)).map _) .nil) rfl ?_
  have hlast : checked s = .ok s := by rw [checked, h.inRange, h.oneSign]
  exact hlast

/-- The stamp of an instant is valid. -/
theorem isValid_ofInstant (t : Instant) : (ofInstant t).IsValid := by
  have hrange := t.inRange
  simp only [minInstantNanos, maxInstantNanos] at hrange
  -- The day is in the calendar, so its year is, and the other parts follow from the day.
  have hday : -4371587 ≤ Calendar.dayOf t ∧ Calendar.dayOf t ≤ 2932896 := by
    simp only [Calendar.dayOf, Instant.unixSeconds, nanosPerSecond]
    omega
  obtain ⟨hstart, hend⟩ := Calendar.yearOf_spec (Calendar.dayOf t)
  have hyear : -9999 ≤ Calendar.yearOf (Calendar.dayOf t) ∧
      Calendar.yearOf (Calendar.dayOf t) ≤ 9999 := by
    simp only [Calendar.startOfYear] at hstart hend
    omega
  have hordinal : 0 < Calendar.ordinalOf (Calendar.dayOf t) ∧
      Calendar.ordinalOf (Calendar.dayOf t) ≤
        Calendar.yearLength (Calendar.yearOf (Calendar.dayOf t)) := by
    rw [Calendar.startOfYear_succ] at hend
    unfold Calendar.ordinalOf
    omega
  have hsecond : Calendar.secondOfDay t < 86400 := by
    unfold Calendar.secondOfDay
    omega
  have hnanosecond : t.subsecond.toNat ≤ 999999999 := by
    simp only [Instant.subsecond, nanosPerSecond]
    omega
  refine ⟨(firstInvalid_eq_none_iff _).mpr ⟨hyear, hordinal, ?_, ?_, ?_, hnanosecond, ?_⟩, rfl⟩
  · simp only [ofInstant]; omega
  · simp only [ofInstant]; omega
  · simp only [ofInstant]; omega
  · simp [ofInstant]

/-- The stamp of an instant stands for its second. -/
theorem unixSeconds_ofInstant (t : Instant) : (ofInstant t).unixSeconds = t.unixSeconds := by
  obtain ⟨hstart, -⟩ := Calendar.yearOf_spec (Calendar.dayOf t)
  have hday : Calendar.dayOf t = t.unixSeconds / 86400 := rfl
  have hsecond : Calendar.secondOfDay t = (t.unixSeconds % 86400).toNat := rfl
  simp only [unixSeconds, localSeconds, aheadSeconds, ofInstant, Calendar.ordinalOf,
    Int.ofNat_eq_natCast]
  omega

/-- The stamp of an instant has its nanoseconds. -/
theorem nanosecond_ofInstant (t : Instant) : ((ofInstant t).nanosecond : Int) = t.subsecond := by
  simp only [ofInstant, Instant.subsecond, nanosPerSecond]
  omega

/-- The local time of the stamp of an instant is the instant. -/
theorem localNanoseconds_ofInstant (t : Instant) :
    (ofInstant t).localNanoseconds = t.nanoseconds := by
  have hseconds := unixSeconds_ofInstant t
  have hahead : (ofInstant t).aheadSeconds = 0 := rfl
  rw [unixSeconds, hahead, Int.sub_zero] at hseconds
  rw [localNanoseconds, hseconds, Int.ofNat_eq_natCast, nanosecond_ofInstant]
  simp only [Instant.unixSeconds, Instant.subsecond, nanosPerSecond]
  omega

/-- The local time of a valid stamp is in the calendar. -/
theorem IsValid.localNanoseconds_bounds {s : Stamp} (h : s.IsValid) :
    minInstantNanos ≤ s.localNanoseconds ∧ s.localNanoseconds ≤ maxInstantNanos := by
  obtain ⟨hyear, hordinal, hhour, hminute, hsecond, hnanosecond, -⟩ :=
    (firstInvalid_eq_none_iff s).mp h.inRange
  have hend := Calendar.startOfYear_succ s.year
  have hdays : -4371587 ≤ Calendar.startOfYear s.year ∧
      Calendar.startOfYear (s.year + 1) ≤ 2932897 := by
    simp only [Calendar.startOfYear]
    omega
  simp only [localNanoseconds, localSeconds, nanosPerSecond, minInstantNanos, maxInstantNanos,
    Int.ofNat_eq_natCast]
  omega

/-- Different instants have different stamps. -/
theorem ofInstant_injective {t t' : Instant} (h : ofInstant t = ofInstant t') : t = t' := by
  have hseconds : t.unixSeconds = t'.unixSeconds := by
    rw [← unixSeconds_ofInstant, h, unixSeconds_ofInstant]
  have hnanoseconds : t.subsecond = t'.subsecond := by
    rw [← nanosecond_ofInstant, h, nanosecond_ofInstant]
  simp only [Instant.unixSeconds, Instant.subsecond, nanosPerSecond] at hseconds hnanoseconds
  have hsame : t.nanoseconds = t'.nanoseconds := by omega
  cases t
  cases t'
  simpa using hsame

end Stamp

/-! ## Leases -/

/-- Secrets are read back from JSON. -/
theorem Secret.reads_toJson (secret : Secret) : Json.Reads reader secret.toJson secret :=
  (Json.Reads.text secret.expose).map Secret.mk

/-- Leases whose stamps are valid are read back from JSON. -/
theorem LeaseDocument.reads_toJson {document : LeaseDocument} (hissued : document.issuedAt.IsValid)
    (hexpires : document.expiresAt.IsValid) : Json.Reads reader document.toJson document :=
  .record (.put rfl rfl document.token.reads_toJson <|
    .put rfl rfl (Stamp.reads_toJson hissued) <|
    .put rfl rfl (Stamp.reads_toJson hexpires) .nil) rfl

/-- Different leases have different documents. -/
theorem Lease.document_injective {lease lease' : Lease} (h : lease.document = lease'.document) :
    lease = lease' := by
  simp only [document, LeaseDocument.mk.injEq] at h
  obtain ⟨htoken, hissued, hexpires⟩ := h
  cases lease
  cases lease'
  simp only [Lease.mk.injEq]
  exact ⟨htoken, Stamp.ofInstant_injective hissued, Stamp.ofInstant_injective hexpires⟩

end BearerCache
