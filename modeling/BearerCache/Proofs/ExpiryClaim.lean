import BearerCache.Proofs.CompactToken
import BearerCache.Proofs.LargeNumbers
import BearerCache.Proofs.SoleMember

/-! # When a token expires

A token says when it expires by one number in its payload.  The payload is an object with that
number as its only member `exp`, or a list of that number alone; nothing else is accepted, and what
else is in the object does not matter.  A number that is written as a whole number says the second
itself, as far as the calendar goes.

## Key results

- `ofToken_eq_ok_iff`: the tokens that say when they expire
- `ofToken_of_integer`: what they say if the number is written as a whole number
-/

namespace BearerCache

namespace Json

variable {literal rest : List UInt8} {n : Nat} {isNegative : Bool}

/-! ## Whole numbers -/

/-- The digits of a number are the whole part of one. -/
theorem isWhole_digitBytes (n : Nat) : IsWhole (digitBytes n) := by
  obtain ⟨b, tail, htail, hzero⟩ := exists_digitBytes n
  by_cases hn : n = 0
  · rw [hn]
    exact .zero
  · have hdigits := isDigit_of_mem_digitBytes n
    rw [htail] at hdigits ⊢
    obtain ⟨hb, hdigits⟩ := List.forall_mem_cons.mp hdigits
    exact .digits hb (fun heq => hn (hzero heq)) hdigits

/-- The digits of a number that is too large leave a large number, and some are dropped. -/
theorem wholePart_of_large (hn : maxWhole < n) :
    2 ^ 60 ≤ (wholePart (digitBytes n)).1 ∧ (wholePart (digitBytes n)).2 ≠ 0 := by
  -- On the number, digit by digit from its end: either the digits before fit and this one is
  -- dropped, or some were dropped already.
  induction n using Nat.strongRecOn with
  | ind n ih =>
    have hten : 10 ≤ n := Nat.le_trans (by decide) (Nat.le_of_lt hn)
    have hdigit := (digit_byte ⟨n % 10, Nat.mod_lt n (by decide)⟩).2.2.1
    simp only at hdigit
    rw [digitBytes_of_le hten, wholePart, List.foldl_append, List.foldl_cons, List.foldl_nil,
      ← wholePart, hdigit]
    by_cases htenth : n / 10 ≤ maxWhole
    · have hlarge : ¬n ≤ maxWhole := Nat.not_le.mpr hn
      have hsum : n / 10 * 10 + n % 10 = n := by omega
      rw [wholePart_digitBytes htenth]
      simp only [hsum, hlarge, and_false, if_false]
      simp only [maxWhole] at hn
      omega
    · obtain ⟨hlarge, hdropped⟩ := ih (n / 10) (by omega) (Nat.not_le.mp htenth)
      simp only [hdropped, false_and, if_false]
      exact ⟨hlarge, Nat.succ_ne_zero _⟩

/-- A whole number as it is written: digits, and a minus sign before them or none. -/
inductive IsInteger : List UInt8 → Int → Prop where
  | positive (n : Nat) : IsInteger (digitBytes n) n
  | negative (n : Nat) : IsInteger (0x2D :: digitBytes n) (-n)

theorem IsInteger.isNumber {i : Int} (h : IsInteger literal i) : IsNumber literal := by
  have hunsigned (n : Nat) : IsUnsigned (digitBytes n) := by
    have htail : IsTail [] := .mk .none .none
    simpa using (isWhole_digitBytes n).isUnsigned htail
  cases h with
  | positive n => exact .positive (hunsigned n)
  | negative n => exact .negative (hunsigned n)

/-- A whole number is read by its digits. -/
theorem unsigned_integer (n : Nat) (hrest : Stops rest) :
    unsigned isNegative (digitBytes n ++ rest) =
      if (wholePart (digitBytes n)).2 ≠ 0 then
        realNumeral isNegative (wholePart (digitBytes n)).1 (wholePart (digitBytes n)).2 rest
      else if !isNegative then .ok (.whole (wholePart (digitBytes n)).1, rest)
      else if (wholePart (digitBytes n)).1 ≠ 0 ∧
          (wholePart (digitBytes n)).1 ≤ 9223372036854775808 then
        .ok (.negative (wholePart (digitBytes n)).1, rest)
      else realNumeral isNegative (wholePart (digitBytes n)).1 0 rest := by
  rw [(isWhole_digitBytes n).unsigned hrest.noDigit]
  exact afterWhole_of_noLetter _ _ _ hrest.noLetter hrest.head?_ne_point

end Json

namespace Instant

/-! ## Seconds of the calendar -/

variable {instant : Instant} {seconds : Int}

/-- An instant is a whole number of seconds after the start of 1970. -/
theorem ofUnix?_eq_some_iff :
    ofUnix? seconds 0 = some instant ↔ instant.nanoseconds = seconds * nanosPerSecond := by
  rw [ofUnix?, Int.add_zero, ofNanoseconds?_eq_some_iff]

/-- The seconds of the calendar are those from the start of the year -9999 to the end of the
year 9999. -/
theorem exists_ofUnix?_iff :
    (∃ instant, ofUnix? seconds 0 = some instant) ↔
      -377705116800 ≤ seconds ∧ seconds ≤ 253402300799 := by
  simp only [ofUnix?, exists_ofNanoseconds?_iff, minInstantNanos, maxInstantNanos, nanosPerSecond]
  omega

/-- Beyond sixty-four bits there is no second in the calendar. -/
theorem ofUnix?_of_large (h : seconds ≤ -2 ^ 60 ∨ 2 ^ 60 ≤ seconds) :
    ofUnix? seconds 0 = none := by
  rw [Option.eq_none_iff_forall_ne_some]
  intro instant hunix
  have hrange := exists_ofUnix?_iff.mp ⟨instant, hunix⟩
  omega

end Instant

namespace Expiry

open Json Number

variable {literal : List UInt8} {i : Int} {m : Numeral}

/-! ## The seconds that a whole number says -/

/-- A number stands for a whole number as far as sixty-four bits go.  If they are not enough, it is
far beyond the calendar. -/
structure StandsFor (m : Numeral) (i : Int) : Prop where
  exact : Text.int64Min ≤ i → i ≤ Text.int64Max → secondsOf m = i
  beyond : ¬(Text.int64Min ≤ i ∧ i ≤ Text.int64Max) →
    secondsOf m ≤ -2 ^ 60 ∨ 2 ^ 60 ≤ secondsOf m

/-- A whole number that fits is itself when it is brought into the range of 64 bits. -/
theorem saturated_of_int64 (hmin : Text.int64Min ≤ i) (hmax : i ≤ Text.int64Max) :
    saturated i = i := by
  rw [saturated, min_eq_left hmax, max_eq_right hmin]

/-- A large number is still large when it is brought into the range of 64 bits. -/
theorem saturated_of_large (h : i ≤ -2 ^ 60 ∨ 2 ^ 60 ≤ i) :
    saturated i ≤ -2 ^ 60 ∨ 2 ^ 60 ≤ saturated i := by
  simp only [saturated, Text.int64Min, Text.int64Max]
  omega

theorem standsFor_whole (n : Nat) : StandsFor (.whole n) n where
  exact := saturated_of_int64
  beyond h := by
    refine saturated_of_large (.inr ?_)
    simp only [Text.int64Min, Text.int64Max] at h
    omega

theorem standsFor_negative {n : Nat} (hn : n ≤ 9223372036854775808) :
    StandsFor (.negative n) (-n) where
  exact := saturated_of_int64
  beyond h := by
    simp only [Text.int64Min, Text.int64Max] at h
    omega

/-- A large number that is rounded is beyond the calendar. -/
theorem standsFor_real (isNegative : Bool) {x : Binary64} (hx : x.AtLeast 60)
    (hi : ¬(Text.int64Min ≤ i ∧ i ≤ Text.int64Max)) : StandsFor (.real isNegative x) i where
  exact hmin hmax := absurd ⟨hmin, hmax⟩ hi
  beyond _ := by
    refine saturated_of_large ?_
    cases isNegative
    · exact .inr hx.floor.1
    · exact .inl hx.floor.2

/-- What a scanner makes of a whole number wherever it stands: a number that stands for it, or
nothing if sixty-four bits are not enough for it. -/
inductive Reading (literal : List UInt8) (i : Int) : Prop where
  | number {m : Numeral} (h : ∀ rest, Stops rest → numeral (literal ++ rest) = .ok (m, rest))
      (hstands : StandsFor m i)
  | none (h : ∀ rest, Stops rest → ∃ fault, numeral (literal ++ rest) = .error fault)
      (hi : ¬(Text.int64Min ≤ i ∧ i ≤ Text.int64Max))

/-- A large number is rounded, unless it is too large for that. -/
theorem Reading.of_realNumeral {isNegative : Bool} {significand : Nat} {exponent : Int}
    (hlarge : 2 ^ 60 ≤ significand) (hexponent : 0 ≤ exponent)
    (hi : ¬(Text.int64Min ≤ i ∧ i ≤ Text.int64Max))
    (h : ∀ rest, Stops rest →
      numeral (literal ++ rest) = realNumeral isNegative significand exponent rest) :
    Reading literal i := by
  -- The scanner takes a number so large as a binary fraction, which is refused as infinite or stays
  -- beyond the range.
  cases hx : Binary64.ofDecimal? significand exponent with
  | none =>
    refine .none (fun rest hrest => ?_) hi
    rw [h rest hrest, realNumeral, hx]
    exact ⟨_, rfl⟩
  | some x =>
    have hatLeast := Binary64.atLeast_ofDecimal? hlarge hexponent hx
    refine .number (fun rest hrest => ?_) (standsFor_real isNegative hatLeast hi)
    rw [h rest hrest, realNumeral, hx]

/-- A whole number without a sign is read. -/
theorem reading_positive (n : Nat) : Reading (digitBytes n) n := by
  have hnumeral (rest : List UInt8) :
      numeral (digitBytes n ++ rest) = unsigned false (digitBytes n ++ rest) := by
    obtain ⟨b, tail, htail, -⟩ := exists_digitBytes n
    have hb : isDigit b := isDigit_of_mem_digitBytes n b (by simp [htail])
    rw [htail, List.cons_append, numeral_of_isDigit hb]
  -- A number with all its digits kept is that number; one with digits dropped is read as a
  -- fraction.
  by_cases hn : n ≤ maxWhole
  · refine .number (fun rest hrest => ?_) (standsFor_whole n)
    rw [hnumeral, unsigned_integer n hrest, wholePart_digitBytes hn]
    rfl
  · obtain ⟨hlarge, hdropped⟩ := wholePart_of_large (Nat.not_le.mp hn)
    have hreal (rest : List UInt8) (hrest : Stops rest) :
        numeral (digitBytes n ++ rest) = realNumeral false (wholePart (digitBytes n)).1
          (wholePart (digitBytes n)).2 rest := by
      rw [hnumeral, unsigned_integer n hrest, if_pos hdropped]
    refine .of_realNumeral hlarge (Int.natCast_nonneg _) ?_ hreal
    simp only [Text.int64Max, maxWhole] at hn ⊢
    omega

/-- A whole number with a minus sign is read. -/
theorem reading_negative (n : Nat) : Reading (0x2D :: digitBytes n) (-n) := by
  have hnumeral (rest : List UInt8) :
      numeral (0x2D :: digitBytes n ++ rest) = unsigned true (digitBytes n ++ rest) := rfl
  -- Above the digits that are kept nothing changes; below, the sign needs the number to fit and not
  -- to be zero.
  by_cases hn : n ≤ maxWhole
  · by_cases hfits : n ≠ 0 ∧ n ≤ 9223372036854775808
    · refine .number (fun rest hrest => ?_) (standsFor_negative hfits.2)
      rw [hnumeral, unsigned_integer n hrest, wholePart_digitBytes hn]
      simp only [if_pos hfits]
      rfl
    · have hreal (rest : List UInt8) (hrest : Stops rest) :
          numeral (0x2D :: digitBytes n ++ rest) = realNumeral true n 0 rest := by
        rw [hnumeral, unsigned_integer n hrest, wholePart_digitBytes hn]
        simp only [if_neg hfits]
        rfl
      by_cases hzero : n = 0
      · -- Zero with a sign is no whole number for the scanner, but it is zero.
        subst hzero
        have hzero : Binary64.ofDecimal? 0 0 = some .zero := by decide +kernel
        refine .number (m := .real true .zero) (fun rest hrest => ?_)
          ⟨fun _ _ => by decide +kernel, ?_⟩
        · rw [hreal rest hrest, realNumeral, hzero]
        · intro hi
          exact absurd (by decide) hi
      · refine .of_realNumeral ?_ (Int.le_refl 0) ?_ hreal
        · omega
        · simp only [Text.int64Min]
          omega
  · obtain ⟨hlarge, hdropped⟩ := wholePart_of_large (Nat.not_le.mp hn)
    have hreal (rest : List UInt8) (hrest : Stops rest) :
        numeral (0x2D :: digitBytes n ++ rest) = realNumeral true (wholePart (digitBytes n)).1
          (wholePart (digitBytes n)).2 rest := by
      rw [hnumeral, unsigned_integer n hrest, if_pos hdropped]
    refine .of_realNumeral hlarge (Int.natCast_nonneg _) ?_ hreal
    simp only [Text.int64Min, maxWhole] at hn ⊢
    omega

/-- A whole number is read as far as sixty-four bits go. -/
theorem reading_of_isInteger (h : IsInteger literal i) : Reading literal i := by
  cases h with
  | positive n => exact reading_positive n
  | negative n => exact reading_negative n

/-! ## The claim in a payload -/

/-- A payload claims what stands in it as the only member `exp` of an object, or as the only
element of a list. -/
inductive Claims (json literal : List UInt8) : Prop where
  | member {members : List (String × List UInt8)} (h : IsObject members json)
      (hone : members.filter (·.1 = "exp") = [("exp", literal)])
  | element (h : IsList [literal] json)

theorem Claims.isValue {json : List UInt8} (h : Claims json literal) : IsValue literal := by
  cases h with
  | member h hone => exact h.isValue_of_filter hone
  | element h => exact h.isValue literal List.mem_cons_self

/-- A payload that claims something is not empty. -/
theorem Claims.ne_nil {json : List UInt8} (h : Claims json literal) : json ≠ [] := by
  cases h with
  | member h => exact h.ne_nil
  | element h => exact h.ne_nil

/-- A number is taken for a claim, and nothing else is that is not null. -/
theorem takes_exp_iff (expected : String) {v : List UInt8} (hv : IsValue v) :
    (Reader.option (.number expected)).Takes v (some m) ↔
      IsNumber v ∧ numeral v = .ok (m, []) := by
  obtain ⟨first, tail, htail, hstart⟩ := hv.exists_cons
  have hblanks : blanks v = first :: tail := htail ▸ blanks_cons hstart.1
  constructor
  · intro htakes
    have hrun := htakes.run
    -- An `n` would have been `null`, which is no claim.
    by_cases hfirst : first = 0x6E
    · subst hfirst
      cases (Reader.run_option_null hblanks hrun).1
    · rw [Reader.run_option hblanks hfirst] at hrun
      obtain ⟨m', hread, hsome⟩ := Reader.map_eq_ok hrun
      cases hsome
      exact Reader.numeral_of_run hv hread
  · rintro ⟨hnumber, hread⟩
    refine (Reader.takes_number hnumber hread).option hv fun hhead => ?_
    obtain ⟨b, more, rfl, hb⟩ := hnumber.exists_cons
    cases hhead
    rcases hb with hb | hb <;> cases hb

/-- What is read of a payload is a number that it claims. -/
theorem parse_claimReader_iff {json : List UInt8} :
    claimReader.parse json = .ok (some m) ↔
      ∃ literal, Claims json literal ∧ IsNumber literal ∧ numeral literal = .ok (m, []) := by
  have hexact : (Reader.option (.number "a JSON number")).IsExact := Reader.isExact_number.option
  have hreader : claimReader.parse json = .ok (some m) ↔
      ∃ exp, SoleValue "exp" (.option (.number "a JSON number")) json exp ∧
        (.ok exp.join : Except String (Option Numeral)) = .ok (some m) :=
    parse_soleMember_eq_ok_iff hexact
  rw [hreader]
  constructor
  -- The member is there, and it is not `null`.
  · rintro ⟨exp, hsole, hjoin⟩
    have hexp : exp = some (some m) := Option.join_eq_some_iff.mp (Except.ok.inj hjoin)
    subst hexp
    have hclaims : ∃ literal, Claims json literal ∧
        (Reader.option (.number "a JSON number")).Takes literal (some m) := by
      cases hsole with
      | member h hone htakes => exact ⟨_, .member h hone, htakes⟩
      | element h htakes => exact ⟨_, .element h, htakes⟩
    obtain ⟨literal, hclaims, htakes⟩ := hclaims
    exact ⟨literal, hclaims, (takes_exp_iff "a JSON number" hclaims.isValue).mp htakes⟩
  · rintro ⟨literal, hclaims, hread⟩
    have htakes := (takes_exp_iff "a JSON number" hclaims.isValue).mpr hread
    refine ⟨some (some m), ?_, rfl⟩
    cases hclaims with
    | member h hone => exact .member h hone htakes
    | element h => exact .element h htakes

/-- A payload that claims a number which cannot be read is refused. -/
theorem parse_claimReader_of_rejects {json : List UInt8}
    {members : List (String × List UInt8)} (h : IsObject members json)
    (hone : members.filter (·.1 = "exp") = [("exp", literal)]) (hnumber : IsNumber literal)
    (herror : ∀ rest, Stops rest → ∃ fault, numeral (literal ++ rest) = .error fault) :
    ∃ fault, claimReader.parse json = .error fault := by
  obtain ⟨first, tail, rfl, hfirst⟩ := hnumber.exists_cons
  have hrejects : (Reader.number "a JSON number").Rejects (first :: tail) := by
    intro w rest hw hrest
    rw [List.cons_append, Reader.run_number hw hfirst]
    exact herror rest hrest
  refine parse_soleMember_of_rejects h hone (hrejects.option (.number hnumber) fun hhead => ?_)
  cases hhead
  rcases hfirst with hfirst | hfirst <;> cases hfirst

/-! ## Tokens -/

variable {token header signature : String} {json : List UInt8} {pads : Nat} {expiresAt : Instant}
-- The three segments and the padding are undone before the claims are looked at.

/-- What a compact token says is what its payload does. -/
theorem ofToken_compact (hheader : '.' ∉ header.toList) (hsignature : '.' ∉ signature.toList)
    (hjson : json ≠ []) :
    ofToken (compact header json pads signature) =
      match claimReader.parse json with
      | .error fault => .error (.claims fault)
      | .ok none => .error .missing
      | .ok (some exp) =>
        match Instant.ofUnix? (secondsOf exp) 0 with
        | none => .error (.outOfRange (secondsOf exp))
        | some expiresAt => .ok expiresAt := by
  have hpayload : payload? (compact header json pads signature) =
      some (Text.bytes (Text.Base64.encode .urlSafe json)) :=
    payload?_compact hheader hsignature hjson
  have hread := Text.Base64.decode_encode .urlSafe .forbidden json
  unfold ofToken
  split
  next hnone => cases hpayload.symm.trans hnone
  next payload hsome =>
    obtain rfl := Option.some.inj (hpayload.symm.trans hsome)
    split
    next fault hfault => cases hread.symm.trans hfault
    next json' hdecode =>
      obtain rfl : json = json' := Except.ok.inj (hread.symm.trans hdecode)
      rfl

/-- A token says when it expires if and only if it is a compact token whose payload claims a number,
as the only member `exp` of an object or as the only element of a list, and the second that this
number is read as is in the calendar.  It expires at that second. -/
theorem ofToken_eq_ok_iff :
    ofToken token = .ok expiresAt ↔
      ∃ header signature json literal exp pads,
        '.' ∉ header.toList ∧ '.' ∉ signature.toList ∧
        token = compact header json pads signature ∧ Claims json literal ∧ IsNumber literal ∧
        numeral literal = .ok (exp, []) ∧
        expiresAt.nanoseconds = secondsOf exp * nanosPerSecond := by
  constructor
  -- Each failure on the way gives an error, so the successes of all the readers come together.
  · intro h
    unfold ofToken at h
    split at h
    next => cases h
    next payload hpayload =>
      split at h
      next => cases h
      next json hdecode =>
        split at h
        next => cases h
        next => cases h
        next exp hparse =>
          split at h
          next => cases h
          next expiresAt' hunix =>
            cases h
            obtain ⟨header, signature, pads, hheader, hsignature, rfl⟩ :=
              exists_compact hpayload hdecode
            obtain ⟨literal, hclaims, hnumber, hread⟩ := parse_claimReader_iff.mp hparse
            exact ⟨header, signature, json, literal, exp, pads, hheader, hsignature, rfl, hclaims,
              hnumber, hread, Instant.ofUnix?_eq_some_iff.mp hunix⟩
  · rintro ⟨header, signature, json, literal, exp, pads, hheader, hsignature, rfl, hclaims,
      hnumber, hread, hseconds⟩
    rw [ofToken_compact hheader hsignature hclaims.ne_nil,
      parse_claimReader_iff.mpr ⟨literal, hclaims, hnumber, hread⟩]
    simp only [Instant.ofUnix?_eq_some_iff.mpr hseconds]

end Expiry

namespace Sample

open Expiry Json Number

/-- A list of one number is not an object, but it is read as one: a token with it as its payload
says when it expires. -/
theorem list_of_one_number_is_read :
    ¬∀ token expiresAt, ofToken token = .ok expiresAt →
      ∃ header signature json pads members literal,
        '.' ∉ header.toList ∧ '.' ∉ signature.toList ∧
        token = compact header json pads signature ∧ IsObject members json ∧
        members.filter (·.1 = "exp") = [("exp", literal)] ∧ IsNumber literal := by
  intro h
  have hread : ofToken "e30.WzE3NDA4MzA0MDBd.c2ln" =
      .ok ⟨1740830400 * nanosPerSecond, by decide⟩ := by rfl
  obtain ⟨header, signature, json, pads, members, literal, hheader, hsignature, htoken, hobject,
    -, -⟩ := h _ _ hread
  have hencode : Text.Base64.encode .urlSafe json =
      Text.Base64.encode .urlSafe (Text.bytes "[1740830400]") := by
    -- The token is one only of these bytes, and they begin with a bracket where an object has a
    -- brace.
    have hpayload : payload? "e30.WzE3NDA4MzA0MDBd.c2ln" = some (Text.bytes
      (Text.Base64.encode .urlSafe (Text.bytes "[1740830400]"))) := by decide +kernel
    rw [htoken, payload?_compact hheader hsignature hobject.ne_nil] at hpayload
    exact bytes_injective (Option.some.inj hpayload)
  obtain ⟨rest, hrest⟩ := hobject.exists_blanks
  rw [Text.Base64.encode_injective hencode] at hrest
  cases hrest

end Sample

namespace Expiry

open Json Number

/-! ## Tokens with a whole number -/

variable {literal : List UInt8} {i : Int} {token header signature : String} {json : List UInt8}
variable {pads : Nat} {expiresAt : Instant} {members : List (String × List UInt8)}

section Integer

variable (hheader : '.' ∉ header.toList) (hsignature : '.' ∉ signature.toList)
  (hjson : IsObject members json) (hone : members.filter (·.1 = "exp") = [("exp", literal)])
  (hliteral : IsInteger literal i)

include hheader hsignature hjson hone hliteral

/-- A whole number of sixty-four bits is the second of the token. -/
theorem ofToken_of_int64 (hi : Text.int64Min ≤ i ∧ i ≤ Text.int64Max) :
    ofToken (compact header json pads signature) =
      match Instant.ofUnix? i 0 with
      | none => .error (.outOfRange i)
      | some expiresAt => .ok expiresAt := by
  have hclaims : Claims json literal := .member hjson hone
  -- In the range, what is read stands for the claim exactly.
  cases reading_of_isInteger hliteral with
  | none herror hbeyond => exact absurd hi hbeyond
  | @number m hread hstands =>
    have hnumeral : numeral literal = .ok (m, []) := by simpa using hread [] trivial
    rw [ofToken_compact hheader hsignature hclaims.ne_nil,
      parse_claimReader_iff.mpr ⟨literal, hclaims, hliteral.isNumber, hnumeral⟩]
    simp only [hstands.exact hi.1 hi.2]

/-- A whole number that is too large for sixty-four bits is no second of a token. -/
theorem exists_error_of_not_int64 (hi : ¬(Text.int64Min ≤ i ∧ i ≤ Text.int64Max)) (pads : Nat) :
    ∃ error, ofToken (compact header json pads signature) = .error error := by
  have hclaims : Claims json literal := .member hjson hone
  rw [ofToken_compact hheader hsignature hclaims.ne_nil]
  -- The literal is refused by the scanner, or it stands for a number beyond the range, which no
  -- date has.
  cases reading_of_isInteger hliteral with
  | none herror _ =>
    obtain ⟨fault, hparse⟩ := parse_claimReader_of_rejects hjson hone hliteral.isNumber herror
    rw [hparse]
    exact ⟨_, rfl⟩
  | @number m hread hstands =>
    have hnumeral : numeral literal = .ok (m, []) := by simpa using hread [] trivial
    rw [parse_claimReader_iff.mpr ⟨literal, hclaims, hliteral.isNumber, hnumeral⟩]
    simp only [Instant.ofUnix?_of_large (hstands.beyond hi)]
    exact ⟨_, rfl⟩

/-- A token with a whole number expires at that second of the calendar. -/
theorem ofToken_eq_ok_iff_ofUnix? :
    ofToken (compact header json pads signature) = .ok expiresAt ↔
      Instant.ofUnix? i 0 = some expiresAt := by
  -- The two cases agree as no date lies outside the range.
  by_cases hi : Text.int64Min ≤ i ∧ i ≤ Text.int64Max
  · rw [ofToken_of_int64 hheader hsignature hjson hone hliteral hi]
    cases Instant.ofUnix? i 0 with
    | none => simp
    | some expiresAt' => simp
  · obtain ⟨error, herror⟩ :=
      exists_error_of_not_int64 hheader hsignature hjson hone hliteral hi pads
    rw [herror]
    constructor
    · intro h
      cases h
    · intro hunix
      have hrange := Instant.exists_ofUnix?_iff.mp ⟨expiresAt, hunix⟩
      simp only [Text.int64Min, Text.int64Max] at hi
      omega

end Integer

/-- A token is live as long as the second at which it expires is still to come. -/
theorem ofLiveToken_of_ok {now : Instant} (h : ofToken token = .ok expiresAt) :
    ofLiveToken token now =
      if now < expiresAt then .ok expiresAt else .error (.alreadyExpired expiresAt) := by
  simp only [ofLiveToken, h]
  by_cases hnow : now < expiresAt
  · have hlate : ¬expiresAt ≤ now := Int.not_le.mpr hnow
    rw [if_pos hnow, if_neg hlate]
  · have hlate : expiresAt ≤ now := Int.not_lt.mp hnow
    rw [if_neg hnow, if_pos hlate]

/-- A token whose payload is an object with a whole number as its only member `exp` expires at that
second, if the calendar has it.  If it does not but the number has sixty-four bits, it is reported.
Neither the header, the signature and the padding nor the other members make a difference.  The
token is live just as long as that second is still to come. -/
theorem ofToken_of_integer (hheader : '.' ∉ header.toList) (hsignature : '.' ∉ signature.toList)
    (hjson : IsObject members json) (hone : members.filter (·.1 = "exp") = [("exp", literal)])
    (hliteral : IsInteger literal i) (pads : Nat) :
    let token := compact header json pads signature
    ((∃ expiresAt, ofToken token = .ok expiresAt) ↔ -377705116800 ≤ i ∧ i ≤ 253402300799) ∧
    (∀ expiresAt, ofToken token = .ok expiresAt → expiresAt.nanoseconds = i * nanosPerSecond) ∧
    (Text.int64Min ≤ i → i ≤ Text.int64Max → ¬(-377705116800 ≤ i ∧ i ≤ 253402300799) →
      ofToken token = .error (.outOfRange i)) ∧
    (∀ now expiresAt, ofToken token = .ok expiresAt →
      ofLiveToken token now =
        if now < expiresAt then .ok expiresAt else .error (.alreadyExpired expiresAt)) := by
  intro token
  have hread (expiresAt : Instant) :
      ofToken token = .ok expiresAt ↔ Instant.ofUnix? i 0 = some expiresAt :=
    ofToken_eq_ok_iff_ofUnix? hheader hsignature hjson hone hliteral
  refine ⟨?_, fun expiresAt h => ?_, fun hmin hmax houtside => ?_,
    fun now expiresAt h => ofLiveToken_of_ok h⟩
  · simp only [hread, Instant.exists_ofUnix?_iff]
  · exact Instant.ofUnix?_eq_some_iff.mp ((hread expiresAt).mp h)
  · have hnone : Instant.ofUnix? i 0 = none := by
      rw [Option.eq_none_iff_forall_ne_some]
      exact fun expiresAt hunix => houtside (Instant.exists_ofUnix?_iff.mp ⟨expiresAt, hunix⟩)
    rw [ofToken_of_int64 hheader hsignature hjson hone hliteral ⟨hmin, hmax⟩, hnone]

end Expiry

namespace Sample

open Expiry Json Number

/-- An object with a list before the number. -/
theorem object_with_list :
    IsObject [("sub", Text.bytes "[null]"), ("exp", digitBytes 1740830400)]
      (Text.bytes "\x7b\"sub\":[null],\"exp\": 1740830400\x7d") := by
  have hsub : Names "sub" _ := .of_plain (by decide)
  have hexp : Names "exp" _ := .of_plain (by decide)
  have hnull : IsValue (Text.bytes "null") := .word (by decide)
  have hlist : IsValue (Text.bytes "[null]") :=
    .bracket (.item .none .none .nil hnull (.finish .nil))
  have hnumber : IsValue (digitBytes 1740830400) := .number (IsInteger.positive _).isNumber
  have hspace : IsBlank [0x20] := by
    intro b hb
    obtain rfl := List.mem_singleton.mp hb
    rfl
  have hitems := Items.item .none hsub .nil hlist
    (.item (.comma .nil) hexp hspace hnumber (.finish .nil))
  exact .mk .nil hitems .nil

/-- The number behind the list is the second of the token, and then the token is no longer live. -/
theorem padded_token_expires :
    let token := "e30.eyJzdWIiOltudWxsXSwiZXhwIjogMTc0MDgzMDQwMH0==.c2ln"
    ∃ expiresAt, ofToken token = .ok expiresAt ∧
      expiresAt.nanoseconds = 1740830400 * nanosPerSecond ∧
      ofLiveToken token expiresAt = .error (.alreadyExpired expiresAt) := by
  intro token
  have hheader : '.' ∉ "e30".toList := by decide
  have hsignature : '.' ∉ "c2ln".toList := by decide
  have htoken : token = compact "e30"
      (Text.bytes "\x7b\"sub\":[null],\"exp\": 1740830400\x7d") 2 "c2ln" := by decide +kernel
  obtain ⟨hread, hseconds, -, hlive⟩ :=
    ofToken_of_integer hheader hsignature object_with_list (by decide) (.positive 1740830400) 2
  rw [← htoken] at hread hseconds hlive
  obtain ⟨expiresAt, hok⟩ := hread.mpr (by decide)
  refine ⟨expiresAt, hok, hseconds expiresAt hok, ?_⟩
  rw [hlive expiresAt expiresAt hok]
  exact if_neg (Int.lt_irrefl _)

end Sample

end BearerCache
