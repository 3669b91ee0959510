import BearerCache.Proofs.JsonGrammar

/-! # Numbers are taken up to where they end

The scanner of numbers takes a number off the front, and takes the same number from whatever else
stands behind it, if that stops a value.  `Scans` says so of a scanner and of the shape of what it
takes; it is shown for each part of a number, from the last to the first.  The pass over a number
takes all numbers, whatever their size.

## Key results

- `scans_numeral`: what is read as a number
- `exists_of_skipUnsigned`, `IsUnsigned.skipUnsigned`: numbers that are passed over
- `IsWhole.unsigned`: what is read of a whole number
-/

namespace BearerCache.Json

variable {bs ds rest more v e f : List UInt8}

/-! ## Where digits end -/

/-- No digit is at the front. -/
def NoDigit (bs : List UInt8) : Prop :=
  ∀ b ∈ bs.head?, isDigit b = false

/-- The bytes that can stand behind a value. -/
theorem Stops.cases (h : Stops rest) :
    rest = [] ∨ ∃ b tail, rest = b :: tail ∧
      (b = 0x20 ∨ b = 0x0A ∨ b = 0x0D ∨ b = 0x09 ∨ b = 0x2C ∨ b = 0x5D ∨ b = 0x7D) := by
  cases rest with
  | nil => exact .inl rfl
  | cons b tail =>
    refine .inr ⟨b, tail, rfl, ?_⟩
    rcases h with hblank | h
    · simp only [isBlankByte, Bool.or_eq_true, beq_iff_eq] at hblank
      rcases hblank with ((h | h) | h) | h <;> simp [h]
    · simp only [h, or_true]

theorem Stops.noDigit (h : Stops rest) : NoDigit rest := by
  rcases h.cases with rfl | ⟨b, tail, rfl, hb⟩
  · rintro b ⟨⟩
  · rcases hb with rfl | rfl | rfl | rfl | rfl | rfl | rfl <;> rintro b ⟨⟩ <;> rfl

theorem IsExponent.noDigit (h : IsExponent e) (hrest : Stops rest) : NoDigit (e ++ rest) := by
  cases h with
  | none => exact hrest.noDigit
  | scale hletter h => rcases hletter with rfl | rfl <;> rintro b ⟨⟩ <;> rfl

theorem IsFraction.noDigit (h : IsFraction f) (he : IsExponent e) (hrest : Stops rest) :
    NoDigit (f ++ (e ++ rest)) := by
  cases h with
  | none => exact he.noDigit hrest
  | point h => rintro b ⟨⟩; rfl

/-- All digits at the front are dropped. -/
theorem NoDigit.dropWhile_append (h : NoDigit rest) (hds : ∀ d ∈ ds, isDigit d) :
    (ds ++ rest).dropWhile isDigit = rest := by
  rw [List.dropWhile_append_of_pos hds]
  cases rest with
  | nil => rfl
  | cons b tail => rw [List.dropWhile_cons_of_neg (by simp [h b rfl])]

theorem NoDigit.digits_append (h : NoDigit rest) (hds : ∀ d ∈ ds, isDigit d) :
    digits (ds ++ rest) = (ds, rest) := by
  have htake : rest.takeWhile isDigit = [] := by
    cases rest with
    | nil => rfl
    | cons b tail => rw [List.takeWhile_cons_of_neg (by simp [h b rfl])]
  rw [digits, h.dropWhile_append hds, List.takeWhile_append_of_pos hds, htake, List.append_nil]

/-- Bytes are digits up to one that is none. -/
theorem exists_digits (bs : List UInt8) :
    ∃ ds rest, bs = ds ++ rest ∧ (∀ d ∈ ds, isDigit d) ∧ NoDigit rest := by
  have hall : (bs.takeWhile isDigit).all isDigit := List.all_takeWhile
  refine ⟨_, _, List.takeWhile_append_dropWhile.symm, List.all_eq_true.mp hall, fun b hb => ?_⟩
  have hhead := List.head?_dropWhile_not isDigit bs
  rw [hb] at hhead
  simpa using hhead

/-! ## Scanners -/

/-- A scanner takes something of a certain shape off the front, and takes it just so from whatever
it stands before, if that stops a value. -/
def Scans {α : Type} (scan : List UInt8 → Scan α) (Shape : List UInt8 → Prop) : Prop :=
  ∀ bs a rest, scan bs = .ok (a, rest) →
    ∃ v, bs = v ++ rest ∧ Shape v ∧ ∀ more, Stops more → scan (v ++ more) = .ok (a, more)

variable {isNegative down : Bool} {significand dropped acc : Nat} {start : Int} {m : Numeral}

theorem realNumeral_eq_ok (h : realNumeral isNegative significand start bs = .ok (m, rest)) :
    rest = bs ∧ ∀ more, realNumeral isNegative significand start more = .ok (m, more) := by
  unfold realNumeral at h
  split at h
  next hx =>
    cases h
    exact ⟨rfl, fun more => by rw [realNumeral, hx]⟩
  next => cases h

/-! ## Exponents -/

/-- The digits of an exponent end where there is none. -/
theorem NoDigit.exponentDigits (h : NoDigit rest) :
    exponentDigits isNegative significand start down acc rest =
      realNumeral isNegative significand (if down then start - acc else start + acc) rest := by
  cases rest with
  | nil => rfl
  | cons b tail => rw [Json.exponentDigits, if_neg (by simp [h b rfl])]

theorem scans_exponentDigits :
    Scans (exponentDigits isNegative significand start down acc) fun ds =>
      ∀ d ∈ ds, isDigit d := by
  have hnone {bs rest : List UInt8} {m : Numeral} {acc : Nat}
      (h : realNumeral isNegative significand (if down then start - acc else start + acc) bs =
        .ok (m, rest)) :
      ∃ ds, bs = ds ++ rest ∧ (∀ d ∈ ds, isDigit d) ∧ ∀ more, Stops more →
        exponentDigits isNegative significand start down acc (ds ++ more) = .ok (m, more) := by
    obtain ⟨rfl, hmore⟩ := realNumeral_eq_ok h
    refine ⟨[], rfl, by simp, fun more hstops => ?_⟩
    rw [List.nil_append, hstops.noDigit.exponentDigits]
    exact hmore more
  -- The induction is on the text, with the exponent read so far free.
  intro bs m rest h
  induction bs generalizing acc with
  | nil => exact hnone h
  | cons b bs ih =>
    rw [exponentDigits] at h
    split at h
    next hb =>
      simp only at h
      split at h
      next hle =>
        obtain ⟨ds, rfl, hds, hmore⟩ := ih h
        refine ⟨b :: ds, rfl, List.forall_mem_cons.mpr ⟨hb, hds⟩, fun more hstops => ?_⟩
        rw [List.cons_append, exponentDigits, if_pos hb]
        simp only [if_pos hle]
        exact hmore more hstops
      next hlarge =>
        split at h
        next => cases h
        next hzero =>
          -- The number is settled, and the digits that are left are dropped.
          obtain ⟨rfl, rfl⟩ := Prod.mk.inj (Except.ok.inj h)
          obtain ⟨ds, rest, rfl, hds, hrest⟩ := exists_digits bs
          rw [hrest.dropWhile_append hds]
          refine ⟨b :: ds, rfl, List.forall_mem_cons.mpr ⟨hb, hds⟩, fun more hstops => ?_⟩
          rw [List.cons_append, exponentDigits, if_pos hb]
          simp only [if_neg hlarge, if_neg hzero, hstops.noDigit.dropWhile_append hds]
    next hb => exact hnone h

/-- An exponent without a sign starts with a digit. -/
theorem exponent_of_isDigit {b : UInt8} (hb : isDigit b) (bs : List UInt8) :
    exponent isNegative significand start (b :: bs) =
      -- A digit is no sign, so the exponent begins with it.
      exponentDigits isNegative significand start false (digitOf b) bs := by
  have hplus : b ≠ 0x2B := by rintro rfl; cases hb
  have hminus : b ≠ 0x2D := by rintro rfl; cases hb
  unfold exponent
  split
  next down bs' hsign =>
    split at hsign
    next heq => exact absurd (List.cons.inj heq).1 hplus
    next heq => exact absurd (List.cons.inj heq).1 hminus
    next =>
      cases hsign
      simp only [if_pos hb]

/-- An exponent with a sign has a digit behind it. -/
theorem exponent_of_sign {sign b : UInt8} (hsign : sign = 0x2B ∨ sign = 0x2D) (hb : isDigit b)
    (bs : List UInt8) :
    exponent isNegative significand start (sign :: b :: bs) =
      exponentDigits isNegative significand start (sign == 0x2D) (digitOf b) bs := by
  rcases hsign with rfl | rfl <;> simp only [exponent, if_pos hb] <;> rfl

/-- What is read behind the letter of an exponent starts with a digit, or with a sign and a
digit. -/
theorem exponent_eq_ok (h : exponent isNegative significand start bs = .ok (m, rest)) :
    ∃ b tail, isDigit b ∧ (bs = b :: tail ∨ bs = 0x2B :: b :: tail ∨ bs = 0x2D :: b :: tail) := by
  -- After the sign, if there is one, stands at least one digit.
  unfold exponent at h
  split at h
  next down bs' hsign =>
    split at h
    next => cases h
    next b tail =>
      split at h
      next hb =>
        refine ⟨b, tail, hb, ?_⟩
        split at hsign
        next => cases hsign; exact .inr (.inl rfl)
        next => cases hsign; exact .inr (.inr rfl)
        next => cases hsign; exact .inl rfl
      next => cases h

theorem scans_exponent : Scans (exponent isNegative significand start) IsScale := by
  intro bs m rest h
  -- With or without a sign the same digits follow, and what they give does not depend on the rest.
  obtain ⟨b, tail, hb, hbs⟩ := exponent_eq_ok h
  have hdigits {ds : List UInt8} (hds : ∀ d ∈ ds, isDigit d) : IsDigits (b :: ds) :=
    ⟨List.cons_ne_nil b ds, List.forall_mem_cons.mpr ⟨hb, hds⟩⟩
  have hsigned {sign : UInt8} (hsign : sign = 0x2B ∨ sign = 0x2D)
      (h : exponent isNegative significand start (sign :: b :: tail) = .ok (m, rest)) :
      ∃ v, sign :: b :: tail = v ++ rest ∧ IsScale v ∧ ∀ more, Stops more →
        exponent isNegative significand start (v ++ more) = .ok (m, more) := by
    rw [exponent_of_sign hsign hb] at h
    obtain ⟨ds, rfl, hds, hmore⟩ := scans_exponentDigits tail m rest h
    refine ⟨sign :: b :: ds, rfl, .signed hsign (hdigits hds), fun more hstops => ?_⟩
    rw [List.cons_append, List.cons_append, exponent_of_sign hsign hb]
    exact hmore more hstops
  rcases hbs with rfl | rfl | rfl
  · rw [exponent_of_isDigit hb] at h
    obtain ⟨ds, rfl, hds, hmore⟩ := scans_exponentDigits tail m rest h
    refine ⟨b :: ds, rfl, .bare (hdigits hds), fun more hstops => ?_⟩
    rw [List.cons_append, exponent_of_isDigit hb]
    exact hmore more hstops
  · exact hsigned (.inl rfl) h
  · exact hsigned (.inr rfl) h

/-! ## Fractions -/

/-- No letter of an exponent is at the front. -/
def NoLetter (bs : List UInt8) : Prop :=
  ∀ b ∈ bs.head?, b ≠ 0x65 ∧ b ≠ 0x45

theorem Stops.noLetter (h : Stops rest) : NoLetter rest := by
  rcases h.cases with rfl | ⟨b, tail, rfl, hb⟩
  · rintro b ⟨⟩
  · rcases hb with rfl | rfl | rfl | rfl | rfl | rfl | rfl <;> rintro b ⟨⟩ <;> decide

/-- Bytes start with the letter of an exponent or they do not. -/
theorem noLetter_or (bs : List UInt8) :
    NoLetter bs ∨ ∃ letter tail, bs = letter :: tail ∧ (letter = 0x65 ∨ letter = 0x45) := by
  cases bs with
  | nil => exact .inl fun b hb => by cases hb
  | cons letter tail =>
    by_cases hletter : letter = 0x65 ∨ letter = 0x45
    · exact .inr ⟨letter, tail, rfl, hletter⟩
    · refine .inl fun b hb => ?_
      cases hb
      exact not_or.mp hletter

/-- A scanner of exponents takes one off the front, or it takes nothing. -/
private theorem exists_exponent (isNegative : Bool) (significand : Nat) (start : Int)
    {scan : List UInt8 → Scan Numeral}
    (hletter : ∀ letter tail, (letter = 0x65 ∨ letter = 0x45) →
      scan (letter :: tail) = exponent isNegative significand start tail)
    (hnone : NoLetter bs → rest = bs ∧ ∀ more, Stops more → scan more = .ok (m, more))
    (h : scan bs = .ok (m, rest)) :
    ∃ e, bs = e ++ rest ∧ IsExponent e ∧ ∀ more, Stops more → scan (e ++ more) = .ok (m, more) := by
  -- The exponent is there exactly if a letter follows.
  rcases noLetter_or bs with hno | ⟨letter, tail, rfl, hisLetter⟩
  · obtain ⟨rfl, hmore⟩ := hnone hno
    exact ⟨[], rfl, .none, hmore⟩
  · rw [hletter letter tail hisLetter] at h
    obtain ⟨scale, rfl, hscale, hmore⟩ := scans_exponent _ m rest h
    refine ⟨letter :: scale, rfl, .scale hisLetter hscale, fun more hstops => ?_⟩
    rw [List.cons_append, hletter letter _ hisLetter]
    exact hmore more hstops

/-- What follows the digits of a fraction: an exponent or none. -/
def scaled (isNegative : Bool) (significand : Nat) (start : Int) : List UInt8 → Scan Numeral
  | 0x65 :: more | 0x45 :: more => exponent isNegative significand start more
  | rest => realNumeral isNegative significand start rest

theorem NoLetter.scaled (h : NoLetter rest) :
    scaled isNegative significand start rest = realNumeral isNegative significand start rest := by
  unfold Json.scaled
  split
  next => exact absurd rfl (h _ rfl).1
  next => exact absurd rfl (h _ rfl).2
  next => rfl

theorem scans_scaled : Scans (scaled isNegative significand start) IsExponent := by
  intro bs m rest h
  refine exists_exponent isNegative significand start (fun letter tail hletter => ?_)
    (fun hno => ?_) h
  · rcases hletter with rfl | rfl <;> rfl
  · rw [hno.scaled] at h
    obtain ⟨rfl, hmore⟩ := realNumeral_eq_ok h
    refine ⟨rfl, fun more hstops => ?_⟩
    rw [hstops.noLetter.scaled]
    exact hmore more

/-- A fraction has digits, all of which are taken. -/
theorem IsDigits.fraction (hds : IsDigits ds) (h : NoDigit rest) :
    fraction isNegative significand dropped (ds ++ rest) =
      scaled isNegative (fractionPart significand ds).1
        (Int.ofNat dropped - Int.ofNat (fractionPart significand ds).2) rest := by
  rw [Json.fraction, h.digits_append hds.2]
  -- There is a digit, so what the reader says of a missing one is not said.
  split
  next heq => exact absurd (Prod.mk.inj heq).1 hds.1
  next heq => exact absurd (Prod.mk.inj heq).1 hds.1
  next heq =>
    obtain ⟨rfl, rfl⟩ := Prod.mk.inj heq
    rfl

/-- A fraction that is read starts with digits. -/
theorem fraction_eq_ok (h : fraction isNegative significand dropped bs = .ok (m, rest)) :
    ∃ ds tail, bs = ds ++ tail ∧ IsDigits ds ∧ NoDigit tail := by
  obtain ⟨ds, tail, rfl, hds, htail⟩ := exists_digits bs
  refine ⟨ds, tail, rfl, ⟨?_, hds⟩, htail⟩
  rintro rfl
  rw [fraction, htail.digits_append hds] at h
  cases tail <;> cases h

/-- A number behind its whole part: a fraction and an exponent, or only one of them, or none. -/
inductive IsTail : List UInt8 → Prop where
  | mk {fraction exponent : List UInt8} (hfraction : IsFraction fraction)
      (hexponent : IsExponent exponent) : IsTail (fraction ++ exponent)

theorem IsTail.noDigit (h : IsTail v) (hrest : Stops rest) : NoDigit (v ++ rest) := by
  obtain ⟨hfraction, hexponent⟩ := h
  rw [List.append_assoc]
  exact hfraction.noDigit hexponent hrest

/-- What stands behind a point is a fraction, and an exponent or none. -/
theorem exists_fraction (h : fraction isNegative significand dropped bs = .ok (m, rest)) :
    ∃ v, bs = v ++ rest ∧ IsTail (0x2E :: v) ∧ ∀ more, Stops more →
      fraction isNegative significand dropped (v ++ more) = .ok (m, more) := by
  obtain ⟨ds, tail, rfl, hds, htail⟩ := fraction_eq_ok h
  rw [hds.fraction htail] at h
  obtain ⟨e, rfl, he, hmore⟩ := scans_scaled tail m rest h
  refine ⟨ds ++ e, (List.append_assoc ..).symm, .mk (.point hds) he, fun more hstops => ?_⟩
  rw [List.append_assoc, hds.fraction (he.noDigit hstops)]
  exact hmore more hstops

/-! ## Whole numbers -/

/-- Where a value ends behind its whole part it is a whole number, unless that does not fit. -/
theorem afterWhole_of_noLetter (isNegative : Bool) (significand dropped : Nat) (h : NoLetter rest)
    (hpoint : rest.head? ≠ some 0x2E) :
    afterWhole isNegative significand dropped rest =
      if dropped ≠ 0 then realNumeral isNegative significand dropped rest
      else if !isNegative then .ok (.whole significand, rest)
      else if significand ≠ 0 ∧ significand ≤ 9223372036854775808 then
        .ok (.negative significand, rest)
      else realNumeral isNegative significand 0 rest := by
  -- Neither a point nor a letter follows, so the number ends here.
  unfold afterWhole
  split
  next => exact absurd rfl hpoint
  next => exact absurd rfl (h _ rfl).1
  next => exact absurd rfl (h _ rfl).2
  next => rfl

theorem Stops.head?_ne_point (h : Stops rest) : rest.head? ≠ some 0x2E := by
  rcases h.cases with rfl | ⟨b, tail, rfl, hb⟩
  · decide
  · rcases hb with rfl | rfl | rfl | rfl | rfl | rfl | rfl <;> simp

/-- Where nothing follows the whole part, the number does not depend on what stands behind it. -/
private theorem afterWhole_eq_ok (hletter : NoLetter bs) (hpoint : bs.head? ≠ some 0x2E)
    (h : afterWhole isNegative significand dropped bs = .ok (m, rest)) :
    rest = bs ∧ ∀ more, Stops more →
      afterWhole isNegative significand dropped more = .ok (m, more) := by
  -- Where the text stops, the same number is read whatever follows.
  rw [afterWhole_of_noLetter _ _ _ hletter hpoint] at h
  have hstop {more : List UInt8} (hstops : Stops more) :=
    afterWhole_of_noLetter isNegative significand dropped hstops.noLetter hstops.head?_ne_point
  split at h
  next hdropped =>
    obtain ⟨rfl, hmore⟩ := realNumeral_eq_ok h
    exact ⟨rfl, fun more hstops => by rw [hstop hstops, if_pos hdropped, hmore]⟩
  next hdropped =>
    split at h
    next hpositive =>
      cases h
      exact ⟨rfl, fun more hstops => by rw [hstop hstops, if_neg hdropped, if_pos hpositive]⟩
    next hnegative =>
      split at h
      next hfits =>
        cases h
        exact ⟨rfl, fun more hstops => by
          rw [hstop hstops, if_neg hdropped, if_neg hnegative, if_pos hfits]⟩
      next hlarge =>
        obtain ⟨rfl, hmore⟩ := realNumeral_eq_ok h
        exact ⟨rfl, fun more hstops => by
          rw [hstop hstops, if_neg hdropped, if_neg hnegative, if_neg hlarge, hmore]⟩

theorem scans_afterWhole : Scans (afterWhole isNegative significand dropped) IsTail := by
  intro bs m rest h
  -- A point decides for a fraction; else an exponent may follow.
  by_cases hpoint : bs.head? = some 0x2E
  · obtain ⟨tail, rfl⟩ := List.head?_eq_some_iff.mp hpoint
    obtain ⟨v, rfl, hv, hmore⟩ := exists_fraction h
    exact ⟨0x2E :: v, rfl, hv, hmore⟩
  · have hletter : ∀ letter tail, (letter = 0x65 ∨ letter = 0x45) →
        afterWhole isNegative significand dropped (letter :: tail) =
          exponent isNegative significand dropped tail := by
      rintro letter tail (rfl | rfl) <;> rfl
    obtain ⟨e, rfl, he, hmore⟩ := exists_exponent isNegative significand dropped hletter
      (fun hno => afterWhole_eq_ok hno hpoint h) h
    exact ⟨e, rfl, .mk .none he, hmore⟩

/-- The whole part of a number is taken up to the first byte that is no digit. -/
theorem IsWhole.unsigned (h : IsWhole ds) (hrest : NoDigit rest) :
    unsigned isNegative (ds ++ rest) =
      afterWhole isNegative (wholePart ds).1 (wholePart ds).2 rest := by
  -- A zero stands alone; any other digit begins as many as follow.
  cases h with
  | zero =>
    show Json.unsigned isNegative (0x30 :: rest) = afterWhole isNegative 0 0 rest
    cases rest with
    | nil => rfl
    | cons b tail =>
      have hb : isDigit b = false := hrest b rfl
      simp only [Json.unsigned, if_true, hb, Bool.false_eq_true, if_false]
  | @digits d ds hd hne hds =>
    rw [List.cons_append]
    simp only [Json.unsigned, if_neg hne, if_pos hd, hrest.digits_append hds]

/-- What is read as a number starts with a whole part. -/
theorem unsigned_eq_ok (h : unsigned isNegative bs = .ok (m, rest)) :
    ∃ ds tail, bs = ds ++ tail ∧ IsWhole ds ∧ NoDigit tail := by
  -- The first byte tells a zero, which no digit may follow, from the other digits.
  cases bs with
  | nil => cases h
  | cons b bs =>
    by_cases hzero : b = 0x30
    · refine ⟨[b], bs, rfl, hzero ▸ .zero, ?_⟩
      subst hzero
      intro d hd
      cases bs with
      | nil => cases hd
      | cons other tail =>
        cases hd
        by_cases hdigit : isDigit d
        · simp only [unsigned, if_true, hdigit] at h
          cases h
        · exact Bool.eq_false_iff.mpr hdigit
    · by_cases hdigit : isDigit b
      · obtain ⟨ds, tail, rfl, hds, htail⟩ := exists_digits bs
        exact ⟨b :: ds, tail, rfl, .digits hdigit hzero hds, htail⟩
      · simp only [unsigned, if_neg hzero, if_neg hdigit] at h
        cases h

theorem IsWhole.isUnsigned (h : IsWhole ds) (hv : IsTail v) : IsUnsigned (ds ++ v) := by
  obtain ⟨hfraction, hexponent⟩ := hv
  exact .mk h hfraction hexponent

theorem scans_unsigned : Scans (unsigned isNegative) IsUnsigned := by
  intro bs m rest h
  obtain ⟨ds, tail, rfl, hds, htail⟩ := unsigned_eq_ok h
  rw [hds.unsigned htail] at h
  obtain ⟨v, rfl, hv, hmore⟩ := scans_afterWhole tail m rest h
  refine ⟨ds ++ v, (List.append_assoc ..).symm, hds.isUnsigned hv, fun more hstops => ?_⟩
  rw [List.append_assoc, hds.unsigned (hv.noDigit hstops)]
  exact hmore more hstops

theorem IsUnsigned.exists_cons (h : IsUnsigned v) : ∃ d tail, v = d :: tail ∧ isDigit d := by
  obtain ⟨hwhole, -, -⟩ := h
  cases hwhole with
  | zero => exact ⟨_, _, rfl, by decide⟩
  | digits hd hne h => exact ⟨_, _, rfl, hd⟩

/-- What is read as a number is one, and it is read so whatever it stands before. -/
theorem scans_numeral : Scans numeral IsNumber := by
  intro bs m rest h
  -- The sign is looked at first.
  unfold numeral at h
  split at h
  next tail =>
    obtain ⟨v, rfl, hv, hmore⟩ := scans_unsigned tail m rest h
    exact ⟨0x2D :: v, rfl, .negative hv, hmore⟩
  next =>
    obtain ⟨v, rfl, hv, hmore⟩ := scans_unsigned bs m rest h
    refine ⟨v, rfl, .positive hv, fun more hstops => ?_⟩
    obtain ⟨d, tail, rfl, hd⟩ := hv.exists_cons
    rw [List.cons_append, numeral_of_isDigit hd]
    exact hmore more hstops

/-! ## Numbers that are passed over -/

/-- Digits are passed over. -/
theorem exists_of_dropWhile (bs : List UInt8) :
    ∃ ds, bs = ds ++ bs.dropWhile isDigit ∧ ∀ d ∈ ds, isDigit d := by
  obtain ⟨ds, rest, rfl, hds, hrest⟩ := exists_digits bs
  exact ⟨ds, by rw [hrest.dropWhile_append hds], hds⟩

theorem IsScale.skipExponent (h : IsScale v) (hrest : NoDigit rest) :
    skipExponent (v ++ rest) = .ok rest := by
  -- The digits of an exponent are left out together.
  have hdigits {ds : List UInt8} (hds : IsDigits ds) :
      ∃ d tail, ds = d :: tail ∧ isDigit d ∧ (tail ++ rest).dropWhile isDigit = rest := by
    obtain ⟨d, tail, rfl⟩ := List.exists_cons_of_ne_nil hds.1
    obtain ⟨hd, htail⟩ := List.forall_mem_cons.mp hds.2
    exact ⟨d, tail, rfl, hd, hrest.dropWhile_append htail⟩
  cases h with
  | bare hds =>
    obtain ⟨d, tail, rfl, hd, htail⟩ := hdigits hds
    have hsign : ¬(d = 0x2B ∨ d = 0x2D) := by rintro (rfl | rfl) <;> cases hd
    rw [List.cons_append, Json.skipExponent, dropSign, if_neg hsign]
    simp only [if_pos hd, htail]
  | signed hsign hds =>
    obtain ⟨d, tail, rfl, hd, htail⟩ := hdigits hds
    rw [List.cons_append, List.cons_append, Json.skipExponent, dropSign, if_pos hsign]
    simp only [if_pos hd, htail]

theorem exists_of_skipExponent (h : skipExponent bs = .ok rest) :
    ∃ v, bs = v ++ rest ∧ IsScale v := by
  -- A sign may stand before the digits, of which there has to be one.
  unfold skipExponent at h
  split at h
  next => cases h
  next b tail hsign =>
    split at h
    next hb =>
      cases h
      obtain ⟨ds, htail, hds⟩ := exists_of_dropWhile tail
      have hdigits : IsDigits (b :: ds) := ⟨by simp, List.forall_mem_cons.mpr ⟨hb, hds⟩⟩
      cases bs with
      | nil => cases hsign
      | cons first bs =>
        rw [dropSign] at hsign
        split at hsign
        next hfirst =>
          rw [hsign, htail]
          exact ⟨first :: b :: ds, by simp [← htail], .signed hfirst hdigits⟩
        next =>
          rw [hsign, htail]
          exact ⟨b :: ds, by simp [← htail], .bare hdigits⟩
    next => cases h

theorem IsExponent.skipScale (h : IsExponent e) (hrest : Stops rest) :
    skipScale (e ++ rest) = .ok rest := by
  cases h with
  | none =>
    cases rest with
    | nil => rfl
    | cons b tail =>
      have hb := hrest.noLetter b rfl
      rw [List.nil_append, Json.skipScale, if_neg (not_or.mpr hb)]
  | scale hletter hscale =>
    rw [List.cons_append, Json.skipScale, if_pos hletter, hscale.skipExponent hrest.noDigit]

theorem exists_of_skipScale (h : skipScale bs = .ok rest) :
    ∃ e, bs = e ++ rest ∧ IsExponent e := by
  -- Without a letter there is no exponent, and nothing is left out.
  unfold skipScale at h
  split at h
  next =>
    cases h
    exact ⟨[], rfl, .none⟩
  next b tail =>
    split at h
    next hletter =>
      obtain ⟨v, rfl, hv⟩ := exists_of_skipExponent h
      exact ⟨b :: v, rfl, .scale hletter hv⟩
    next =>
      cases h
      exact ⟨[], rfl, .none⟩

/-- Where there is no point, only an exponent is passed over behind the whole part. -/
theorem skipAfterWhole_of_ne (h : bs.head? ≠ some 0x2E) : skipAfterWhole bs = skipScale bs := by
  cases bs with
  | nil => rfl
  | cons b tail =>
    have hb : b ≠ 0x2E := fun hb => h (by rw [hb]; rfl)
    simp only [skipAfterWhole.eq_def, if_neg hb]

theorem IsExponent.head?_ne_point (h : IsExponent e) (hrest : Stops rest) :
    (e ++ rest).head? ≠ some 0x2E := by
  cases h with
  | none => exact hrest.head?_ne_point
  | scale hletter h => rcases hletter with rfl | rfl <;> simp

theorem IsTail.skipAfterWhole (h : IsTail v) (hrest : Stops rest) :
    skipAfterWhole (v ++ rest) = .ok rest := by
  -- The point needs a digit behind it; the exponent follows in both cases.
  obtain ⟨hfraction, hexponent⟩ := h
  cases hfraction with
  | none =>
    rw [List.nil_append, skipAfterWhole_of_ne (hexponent.head?_ne_point hrest)]
    exact hexponent.skipScale hrest
  | point hds =>
    obtain ⟨d, tail, rfl⟩ := List.exists_cons_of_ne_nil hds.1
    obtain ⟨hd, htail⟩ := List.forall_mem_cons.mp hds.2
    simp only [List.cons_append, List.append_assoc, Json.skipAfterWhole, if_true, if_pos hd,
      (hexponent.noDigit hrest).dropWhile_append htail]
    exact hexponent.skipScale hrest

theorem exists_of_skipAfterWhole (h : skipAfterWhole bs = .ok rest) :
    ∃ v, bs = v ++ rest ∧ IsTail v := by
  -- A point is followed by digits and perhaps an exponent; else there is only the exponent.
  by_cases hpoint : bs.head? = some 0x2E
  · obtain ⟨tail, rfl⟩ := List.head?_eq_some_iff.mp hpoint
    cases tail with
    | nil => cases h
    | cons d tail =>
      simp only [skipAfterWhole, if_true] at h
      split at h
      next hd =>
        obtain ⟨ds, htail, hds⟩ := exists_of_dropWhile tail
        obtain ⟨e, he, hexponent⟩ := exists_of_skipScale h
        have hdigits : IsDigits (d :: ds) := ⟨by simp, List.forall_mem_cons.mpr ⟨hd, hds⟩⟩
        refine ⟨0x2E :: d :: ds ++ e, ?_, .mk (.point hdigits) hexponent⟩
        rw [htail, he]
        simp
      next => cases h
  · rw [skipAfterWhole_of_ne hpoint] at h
    obtain ⟨e, rfl, he⟩ := exists_of_skipScale h
    exact ⟨e, rfl, .mk .none he⟩

/-- The whole part of a number is passed over. -/
theorem IsWhole.skipUnsigned (h : IsWhole ds) (hrest : NoDigit rest) :
    skipUnsigned (ds ++ rest) = skipAfterWhole rest := by
  -- As when it is read, but the digits are left out without their value.
  cases h with
  | zero =>
    show Json.skipUnsigned (0x30 :: rest) = _
    cases rest with
    | nil => rfl
    | cons b tail =>
      have hb : isDigit b = false := hrest b rfl
      simp only [Json.skipUnsigned, if_true, hb, Bool.false_eq_true, if_false]
  | digits hd hne hds =>
    simp only [List.cons_append, Json.skipUnsigned.eq_def, if_neg hne, if_pos hd,
      hrest.dropWhile_append hds]

/-- A number without a sign is passed over. -/
theorem IsUnsigned.skipUnsigned (h : IsUnsigned v) (hrest : Stops rest) :
    skipUnsigned (v ++ rest) = .ok rest := by
  obtain ⟨hwhole, hfraction, hexponent⟩ := h
  have htail : IsTail _ := .mk hfraction hexponent
  rw [List.append_assoc, hwhole.skipUnsigned (htail.noDigit hrest)]
  exact htail.skipAfterWhole hrest

/-- What is passed over as a number without a sign is one. -/
theorem exists_of_skipUnsigned (h : skipUnsigned bs = .ok rest) :
    ∃ v, bs = v ++ rest ∧ IsUnsigned v := by
  -- What follows the whole part is the same in all the cases.
  have hafter {ds tail : List UInt8} (hds : IsWhole ds) (h : skipAfterWhole tail = .ok rest) :
      ∃ v, ds ++ tail = v ++ rest ∧ IsUnsigned v := by
    obtain ⟨v, rfl, hv⟩ := exists_of_skipAfterWhole h
    exact ⟨ds ++ v, (List.append_assoc ..).symm, hds.isUnsigned hv⟩
  unfold skipUnsigned at h
  split at h
  next => cases h
  next b bs =>
    split at h
    next hzero =>
      subst hzero
      split at h
      next => exact hafter .zero h
      next d tail =>
        split at h
        next => cases h
        next => exact hafter .zero h
    next hne =>
      split at h
      next hb =>
        obtain ⟨ds, htail, hds⟩ := exists_of_dropWhile bs
        rw [htail]
        exact hafter (.digits hb hne hds) h
      next => cases h

end BearerCache.Json
