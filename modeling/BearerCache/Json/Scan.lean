import BearerCache.Json.Fault
import BearerCache.Number.Binary64
import BearerCache.Text.Digits

/-! # Scanning JSON

The tokens of JSON at the front of a sequence of bytes: blanks, the rest of a string, the
rest of a number, and a whole value that is passed over.  Every scanner gives what follows
the token, which is never longer than what it was given; the `…_length` lemmas say so, and
the readers of values recurse on them. -/

namespace BearerCache.Json

/-- A scanner takes a token off the front of the bytes. -/
abbrev Scan (α : Type) := Except Fault (α × List UInt8)

/-- Whether a byte is JSON white space. -/
def isBlankByte (b : UInt8) : Bool :=
  b == 0x20 || b == 0x0A || b == 0x0D || b == 0x09

/-- Drops JSON white space. -/
def blanks (bs : List UInt8) : List UInt8 :=
  bs.dropWhile isBlankByte

theorem blanks_length (bs : List UInt8) : (blanks bs).length ≤ bs.length :=
  (List.dropWhile_suffix _).length_le

/-- Whether a byte is an ASCII digit. -/
def isDigit (b : UInt8) : Bool :=
  0x30 ≤ b && b ≤ 0x39

/-- The value of an ASCII digit. -/
def digitOf (b : UInt8) : Nat :=
  b.toNat - 0x30

/-! ## Words -/

/-- Takes the remaining letters of `null`, `true` or `false`. -/
def ident : (letters bs : List UInt8) → Except Fault (List UInt8)
  | [], bs => .ok bs
  | _ :: _, [] => .error (.here .endInValue [])
  | letter :: letters, b :: bs =>
    if b = letter then ident letters bs else .error (.here .expectedIdent bs)

theorem ident_length {letters bs rest : List UInt8} (h : ident letters bs = .ok rest) :
    rest.length ≤ bs.length := by
  fun_induction ident letters bs with
  | case1 => cases h; exact Nat.le_refl _
  | case2 => cases h
  | case3 _ _ _ ih => exact Nat.le_succ_of_le (ih h)
  | case4 => cases h

/-! ## Strings -/

/-- Four hexadecimal digits. -/
def fourHex : List UInt8 → Scan Nat
  | a :: b :: c :: d :: rest =>
    match Text.hexValue? a.toNat, Text.hexValue? b.toNat, Text.hexValue? c.toNat,
        Text.hexValue? d.toNat with
    | some a, some b, some c, some d => .ok (((a * 16 + b) * 16 + c) * 16 + d, rest)
    | _, _, _, _ => .error (.here .invalidEscape rest)
  | _ => .error (.here .endInString [])

theorem fourHex_length {bs rest : List UInt8} {n : Nat} (h : fourHex bs = .ok (n, rest)) :
    rest.length ≤ bs.length := by
  unfold fourHex at h
  split at h
  · split at h
    · cases h; simp only [List.length_cons]; omega
    · cases h
  · cases h

/-- The UTF-8 bytes of a code point. -/
def codePointBytes (n : Nat) : List UInt8 :=
  String.utf8EncodeChar (Char.ofNat n)

/-- What follows the first surrogate of a code point: `\u` and the second one. -/
def secondSurrogate (high : Nat) : List UInt8 → Scan (List UInt8)
  | [] => .error (.here .endInString [])
  | a :: bs =>
    if a = 0x5C then
      match bs with
      | [] => .error (.here .endInString [])
      | b :: bs =>
        if b = 0x75 then
          match fourHex bs with
          | .error fault => .error fault
          | .ok (low, rest) =>
            if low < 0xDC00 ∨ 0xDFFF < low then .error (.here .loneSurrogate rest)
            else
              .ok (codePointBytes ((high - 0xD800) * 0x400 + (low - 0xDC00) + 0x10000), rest)
        else .error (.here .brokenSurrogatePair bs)
    else .error (.here .brokenSurrogatePair bs)

theorem secondSurrogate_length {high : Nat} {bs rest out : List UInt8}
    (h : secondSurrogate high bs = .ok (out, rest)) : rest.length ≤ bs.length := by
  unfold secondSurrogate at h
  split at h
  · cases h
  split at h
  · split at h
    · cases h
    split at h
    · split at h
      · cases h
      next low tail htail =>
        have hmore := fourHex_length htail
        split at h
        · cases h
        · obtain ⟨_, rfl⟩ := Prod.mk.inj (Except.ok.inj h)
          simp only [List.length_cons]
          omega
    · cases h
  · cases h

/-- What follows `\u`: a code point, or the two surrogates of one. -/
def unicodeEscape (bs : List UInt8) : Scan (List UInt8) :=
  match fourHex bs with
  | .error fault => .error fault
  | .ok (high, rest) =>
    if 0xDC00 ≤ high ∧ high ≤ 0xDFFF then .error (.here .loneSurrogate rest)
    else if high < 0xD800 ∨ 0xDBFF < high then .ok (codePointBytes high, rest)
    else secondSurrogate high rest

theorem unicodeEscape_length {bs rest out : List UInt8}
    (h : unicodeEscape bs = .ok (out, rest)) : rest.length ≤ bs.length := by
  unfold unicodeEscape at h
  split at h
  · cases h
  next high mid hmid =>
    have hlen := fourHex_length hmid
    split at h
    · cases h
    split at h
    · cases h; exact hlen
    · exact Nat.le_trans (secondSurrogate_length h) hlen

/-- What follows a backslash. -/
def escape : List UInt8 → Scan (List UInt8)
  | [] => .error (.here .endInString [])
  | b :: rest =>
    if b = 0x22 ∨ b = 0x5C ∨ b = 0x2F then .ok ([b], rest)
    else if b = 0x62 then .ok ([0x08], rest)
    else if b = 0x66 then .ok ([0x0C], rest)
    else if b = 0x6E then .ok ([0x0A], rest)
    else if b = 0x72 then .ok ([0x0D], rest)
    else if b = 0x74 then .ok ([0x09], rest)
    else if b = 0x75 then unicodeEscape rest
    else .error (.here .invalidEscape rest)

theorem escape_length {bs rest out : List UInt8} (h : escape bs = .ok (out, rest)) :
    rest.length ≤ bs.length := by
  unfold escape at h
  repeat' split at h
  all_goals first
    | cases h; done
    | (cases h; simp only [List.length_cons]; omega)
    | (have hlen := unicodeEscape_length h; simp only [List.length_cons]; omega)

/-- The bytes of a string, whose opening quote has been taken, up to its closing quote. -/
def stringBytes : List UInt8 → Scan (List UInt8)
  | [] => .error (.here .endInString [])
  | b :: rest =>
    if b = 0x22 then .ok ([], rest)
    else if b = 0x5C then
      match _h : escape rest with
      | .error fault => .error fault
      | .ok (out, more) =>
        match stringBytes more with
        | .error fault => .error fault
        | .ok (tail, after) => .ok (out ++ tail, after)
    else if b < 0x20 then .error (.here .controlCharacter rest)
    else
      match stringBytes rest with
      | .error fault => .error fault
      | .ok (tail, after) => .ok (b :: tail, after)
termination_by bs => bs.length
decreasing_by
  · have := escape_length _h
    simp only [List.length_cons]
    omega
  · simp

theorem stringBytes_length {bs rest out : List UInt8} (h : stringBytes bs = .ok (out, rest)) :
    rest.length < bs.length := by
  fun_induction stringBytes bs generalizing out rest with
  | case1 => cases h
  | case2 => cases h; simp
  | case3 => cases h
  | case4 => cases h
  | case5 =>
    rename_i hesc _ _ htail _ ih
    cases h
    have := escape_length hesc
    have := ih htail
    simp only [List.length_cons]
    omega
  | case6 => cases h
  | case7 => cases h
  | case8 =>
    rename_i htail ih
    cases h
    have := ih htail
    simp only [List.length_cons]
    omega

/-- A string, whose opening quote has been taken, as a text. -/
def stringText (bs : List UInt8) : Scan String :=
  match stringBytes bs with
  | .error fault => .error fault
  | .ok (out, rest) =>
    match String.fromUTF8? ⟨out.toArray⟩ with
    | some s => .ok (s, rest)
    | none => .error (.here .invalidUtf8 rest)

theorem stringText_length {bs rest : List UInt8} {s : String}
    (h : stringText bs = .ok (s, rest)) : rest.length < bs.length := by
  unfold stringText at h
  split at h
  · cases h
  next out tail hout =>
    split at h
    · cases h; exact stringBytes_length hout
    · cases h

/-- Passes over a string whose opening quote has been taken.  Only its shape is looked at:
surrogates need not be paired and the bytes need not be UTF-8. -/
def skipString : List UInt8 → Except Fault (List UInt8)
  | [] => .error (.here .endInString [])
  | b :: rest =>
    if b = 0x22 then .ok rest
    else if b = 0x5C then
      match rest with
      | [] => .error (.here .endInString [])
      | e :: more =>
        if e = 0x75 then
          match _h : fourHex more with
          | .error fault => .error fault
          | .ok (_, after) => skipString after
        else if e = 0x22 ∨ e = 0x5C ∨ e = 0x2F ∨ e = 0x62 ∨ e = 0x66 ∨ e = 0x6E ∨ e = 0x72 ∨
            e = 0x74 then skipString more
        else .error (.here .invalidEscape more)
    else if b < 0x20 then .error (.here .controlCharacter (b :: rest))
    else skipString rest
termination_by bs => bs.length
decreasing_by
  · have := fourHex_length _h
    simp only [List.length_cons]
    omega
  · simp only [List.length_cons]
    omega
  · simp

theorem skipString_length {bs rest : List UInt8} (h : skipString bs = .ok rest) :
    rest.length < bs.length := by
  fun_induction skipString bs with
  | case1 => cases h
  | case2 => cases h; simp
  | case3 => cases h
  | case4 => cases h
  | case5 =>
    rename_i hhex _ ih
    have := fourHex_length hhex
    have := ih h
    simp only [List.length_cons]
    omega
  | case6 =>
    rename_i ih
    have := ih h
    simp only [List.length_cons]
    omega
  | case7 => cases h
  | case8 => cases h
  | case9 =>
    rename_i ih
    have := ih h
    simp only [List.length_cons]
    omega

/-! ## Numbers -/

/-- A number as it is written: a whole number of 64 bits, or a fraction. -/
inductive Numeral where
  /-- A whole number from zero up. -/
  | whole (n : Nat)
  /-- The negation of a positive whole number. -/
  | negative (n : Nat)
  /-- Every other number, rounded. -/
  | real (isNegative : Bool) (x : Number.Binary64)
  deriving DecidableEq, Repr

/-- The greatest whole number that is kept exactly when it is not negative. -/
def maxWhole : Nat := 18446744073709551615

/-- The digits at the front and what follows them. -/
def digits (bs : List UInt8) : List UInt8 × List UInt8 :=
  (bs.takeWhile isDigit, bs.dropWhile isDigit)

theorem digits_length (bs : List UInt8) : (digits bs).2.length ≤ bs.length :=
  (List.dropWhile_suffix _).length_le

/-- The significand that the digits of a whole part give, and how many digits were dropped
because the significand is full. -/
def wholePart (ds : List UInt8) : Nat × Nat :=
  ds.foldl (fun p d =>
    let next := p.1 * 10 + digitOf d
    if p.2 = 0 ∧ next ≤ maxWhole then (next, 0) else (p.1, p.2 + 1)) (0, 0)

/-- The significand that the digits after the point lead to, and how many of them it took
before it was full. -/
def fractionPart (significand : Nat) : List UInt8 → Nat × Nat
  | [] => (significand, 0)
  | d :: ds =>
    let next := significand * 10 + digitOf d
    if next ≤ maxWhole then
      let (s, taken) := fractionPart next ds
      (s, taken + 1)
    else (significand, 0)

/-- The number `significand · 10 ^ exponent`. -/
def realNumeral (isNegative : Bool) (significand : Nat) (exponent : Int) (rest : List UInt8) :
    Scan Numeral :=
  match Number.Binary64.ofDecimal? significand exponent with
  | some x => .ok (.real isNegative x, rest)
  | none => .error (.here .numberTooLarge rest)

/-- The greatest exponent that is added up digit by digit. -/
def maxExponentText : Nat := 2147483647

/-- The digits of an exponent.  One that is out of every range settles the number at once:
zero, or too large. -/
def exponentDigits (isNegative : Bool) (significand : Nat) (start : Int) (down : Bool) :
    (acc : Nat) → List UInt8 → Scan Numeral
  | acc, [] => realNumeral isNegative significand (if down then start - acc else start + acc) []
  | acc, b :: rest =>
    if isDigit b then
      let acc := acc * 10 + digitOf b
      if acc ≤ maxExponentText then exponentDigits isNegative significand start down acc rest
      else if significand ≠ 0 ∧ !down then .error (.here .numberTooLarge rest)
      else .ok (.real isNegative .zero, rest.dropWhile isDigit)
    else
      realNumeral isNegative significand (if down then start - acc else start + acc) (b :: rest)

/-- What follows `e` or `E`. -/
def exponent (isNegative : Bool) (significand : Nat) (start : Int) (bs : List UInt8) :
    Scan Numeral :=
  let (down, bs) : Bool × List UInt8 :=
    match bs with
    | 0x2B :: rest => (false, rest)
    | 0x2D :: rest => (true, rest)
    | bs => (false, bs)
  match bs with
  | [] => .error (.here .endInValue [])
  | b :: rest =>
    if isDigit b then exponentDigits isNegative significand start down (digitOf b) rest
    else .error (.here .invalidNumber rest)

/-- What follows the decimal point; `scale` counts the digits dropped before it. -/
def fraction (isNegative : Bool) (significand scale : Nat) (bs : List UInt8) : Scan Numeral :=
  match digits bs with
  | ([], []) => .error (.next .endInValue [])
  | ([], rest) => .error (.next .invalidNumber rest)
  | (ds, rest) =>
    -- once digits have been dropped, the first further one that does not fit ends the sum
    let (s, taken) := fractionPart significand ds
    let start : Int := Int.ofNat scale - Int.ofNat taken
    match rest with
    | 0x65 :: more | 0x45 :: more => exponent isNegative s start more
    | rest => realNumeral isNegative s start rest

/-- What follows the whole part. -/
def afterWhole (isNegative : Bool) (significand dropped : Nat) : List UInt8 → Scan Numeral
  | 0x2E :: rest => fraction isNegative significand dropped rest
  | 0x65 :: rest | 0x45 :: rest => exponent isNegative significand dropped rest
  | rest =>
    if dropped ≠ 0 then realNumeral isNegative significand dropped rest
    else if !isNegative then .ok (.whole significand, rest)
    else if significand ≠ 0 ∧ significand ≤ 9223372036854775808 then
      .ok (.negative significand, rest)
    else realNumeral isNegative significand 0 rest

/-- A number after its sign. -/
def unsigned (isNegative : Bool) : List UInt8 → Scan Numeral
  | [] => .error (.here .endInValue [])
  | b :: rest =>
    if b = 0x30 then
      match rest with
      | d :: _ =>
        if isDigit d then .error (.next .invalidNumber rest) else afterWhole isNegative 0 0 rest
      | [] => afterWhole isNegative 0 0 rest
    else if isDigit b then
      let (ds, rest) := digits rest
      let (significand, dropped) := wholePart (b :: ds)
      afterWhole isNegative significand dropped rest
    else .error (.here .invalidNumber rest)

/-- A number whose first byte is a digit or a minus sign. -/
def numeral : List UInt8 → Scan Numeral
  | 0x2D :: rest => unsigned true rest
  | bs => unsigned false bs

theorem realNumeral_length {g : Bool} {s : Nat} {e : Int} {bs rest : List UInt8} {n : Numeral}
    (h : realNumeral g s e bs = .ok (n, rest)) : rest.length ≤ bs.length := by
  unfold realNumeral at h
  split at h <;> cases h
  exact Nat.le_refl _

theorem exponentDigits_length {g : Bool} {s : Nat} {e : Int} {down : Bool} {acc : Nat}
    {bs rest : List UInt8} {n : Numeral}
    (h : exponentDigits g s e down acc bs = .ok (n, rest)) : rest.length ≤ bs.length := by
  induction bs generalizing acc with
  | nil => exact realNumeral_length h
  | cons b bs ih =>
    unfold exponentDigits at h
    split at h
    · simp only at h
      split at h
      · exact Nat.le_succ_of_le (ih h)
      · split at h
        · cases h
        · cases h
          exact Nat.le_succ_of_le (List.dropWhile_suffix _).length_le
    · exact realNumeral_length h

theorem exponent_length {g : Bool} {s : Nat} {e : Int} {bs rest : List UInt8} {n : Numeral}
    (h : exponent g s e bs = .ok (n, rest)) : rest.length ≤ bs.length := by
  unfold exponent at h
  split at h
  next down bs' hsign =>
    have hbs : bs'.length ≤ bs.length := by
      split at hsign <;> cases hsign <;> simp
    split at h
    · cases h
    · split at h
      · have := exponentDigits_length h
        simp only [List.length_cons] at hbs
        omega
      · cases h

theorem fraction_length {g : Bool} {s scale : Nat} {bs rest : List UInt8} {n : Numeral}
    (h : fraction g s scale bs = .ok (n, rest)) : rest.length ≤ bs.length := by
  have hd := digits_length bs
  unfold fraction at h
  split at h
  · cases h
  · cases h
  next ds tail _ hdigits =>
    rw [hdigits] at hd
    simp only at h hd
    split at h
    · have := exponent_length h
      simp only [List.length_cons] at hd
      omega
    · have := exponent_length h
      simp only [List.length_cons] at hd
      omega
    · have := realNumeral_length h
      omega

theorem afterWhole_length {g : Bool} {s dropped : Nat} {bs rest : List UInt8} {n : Numeral}
    (h : afterWhole g s dropped bs = .ok (n, rest)) : rest.length ≤ bs.length := by
  unfold afterWhole at h
  split at h
  · exact Nat.le_succ_of_le (fraction_length h)
  · exact Nat.le_succ_of_le (exponent_length h)
  · exact Nat.le_succ_of_le (exponent_length h)
  · repeat' split at h
    · exact realNumeral_length h
    · cases h; exact Nat.le_refl _
    · cases h; exact Nat.le_refl _
    · exact realNumeral_length h

theorem unsigned_length {g : Bool} {bs rest : List UInt8} {n : Numeral}
    (h : unsigned g bs = .ok (n, rest)) : rest.length < bs.length := by
  simp only [unsigned, digits] at h
  split at h
  · cases h
  next b tail =>
    split at h
    · split at h
      · split at h
        · cases h
        · have := afterWhole_length h
          simp only [List.length_cons] at this ⊢
          omega
      · have := afterWhole_length h
        simp only [List.length_cons, List.length_nil] at this ⊢
        omega
    · split at h
      · have := afterWhole_length h
        have := (List.dropWhile_suffix isDigit (l := tail)).length_le
        simp only [List.length_cons]
        omega
      · cases h

theorem numeral_length {bs rest : List UInt8} {n : Numeral}
    (h : numeral bs = .ok (n, rest)) : rest.length < bs.length := by
  unfold numeral at h
  split at h
  · have := unsigned_length h
    simp only [List.length_cons]
    omega
  · exact unsigned_length h

/-! ## Values that are passed over -/

/-- Drops a sign, if there is one. -/
def dropSign : List UInt8 → List UInt8
  | [] => []
  | b :: rest => if b = 0x2B ∨ b = 0x2D then rest else b :: rest

theorem dropSign_length (bs : List UInt8) : (dropSign bs).length ≤ bs.length := by
  unfold dropSign
  split
  · exact Nat.le_refl _
  · split <;> simp

/-- Passes over what follows `e` or `E`. -/
def skipExponent (bs : List UInt8) : Except Fault (List UInt8) :=
  match dropSign bs with
  | [] => .error (.here .invalidNumber [])
  | b :: rest =>
    if isDigit b then .ok (rest.dropWhile isDigit) else .error (.here .invalidNumber rest)

/-- Passes over an exponent, if there is one. -/
def skipScale : List UInt8 → Except Fault (List UInt8)
  | [] => .ok []
  | b :: rest => if b = 0x65 ∨ b = 0x45 then skipExponent rest else .ok (b :: rest)

/-- Passes over what follows the whole part. -/
def skipAfterWhole : List UInt8 → Except Fault (List UInt8)
  | [] => .ok []
  | b :: rest =>
    if b = 0x2E then
      match rest with
      | [] => .error (.next .invalidNumber [])
      | d :: more =>
        if isDigit d then skipScale (more.dropWhile isDigit)
        else .error (.next .invalidNumber (d :: more))
    else skipScale (b :: rest)

/-- Passes over a number after its sign.  Its size does not matter. -/
def skipUnsigned : List UInt8 → Except Fault (List UInt8)
  | [] => .error (.here .invalidNumber [])
  | b :: rest =>
    if b = 0x30 then
      match rest with
      | [] => .ok []
      | d :: more =>
        if isDigit d then .error (.next .invalidNumber (d :: more)) else skipAfterWhole (d :: more)
    else if isDigit b then skipAfterWhole (rest.dropWhile isDigit)
    else .error (.here .invalidNumber rest)

theorem dropDigits_length (bs : List UInt8) : (bs.dropWhile isDigit).length ≤ bs.length :=
  (List.dropWhile_suffix _).length_le

theorem skipExponent_length {bs rest : List UInt8} (h : skipExponent bs = .ok rest) :
    rest.length ≤ bs.length := by
  have hsign := dropSign_length bs
  unfold skipExponent at h
  split at h
  · cases h
  next b tail hb =>
    rw [hb] at hsign
    split at h
    · cases h
      have := dropDigits_length tail
      simp only [List.length_cons] at hsign
      omega
    · cases h

theorem skipScale_length {bs rest : List UInt8} (h : skipScale bs = .ok rest) :
    rest.length ≤ bs.length := by
  unfold skipScale at h
  split at h
  · cases h; exact Nat.le_refl _
  · split at h
    · exact Nat.le_succ_of_le (skipExponent_length h)
    · cases h; exact Nat.le_refl _

theorem skipAfterWhole_length {bs rest : List UInt8} (h : skipAfterWhole bs = .ok rest) :
    rest.length ≤ bs.length := by
  unfold skipAfterWhole at h
  split at h
  · cases h; exact Nat.le_refl _
  split at h
  · split at h
    · cases h
    next d more =>
      split at h
      · have := skipScale_length h
        have := dropDigits_length more
        simp only [List.length_cons]
        omega
      · cases h
  · exact skipScale_length h

theorem skipUnsigned_length {bs rest : List UInt8} (h : skipUnsigned bs = .ok rest) :
    rest.length < bs.length := by
  unfold skipUnsigned at h
  split at h
  · cases h
  next b tail =>
    split at h
    · split at h
      · cases h; simp
      · split at h
        · cases h
        · have := skipAfterWhole_length h
          simp only [List.length_cons] at this ⊢
          omega
    · split at h
      · have := skipAfterWhole_length h
        have := dropDigits_length tail
        simp only [List.length_cons]
        omega
      · cases h

/-- Passes over a value that is not in brackets, whose first byte is `b`. -/
def skipScalar (b : UInt8) (rest : List UInt8) : Except Fault (List UInt8) :=
  if b = 0x6E then ident [0x75, 0x6C, 0x6C] rest
  else if b = 0x74 then ident [0x72, 0x75, 0x65] rest
  else if b = 0x66 then ident [0x61, 0x6C, 0x73, 0x65] rest
  else if b = 0x2D then skipUnsigned rest
  else if isDigit b then skipUnsigned (b :: rest)
  else if b = 0x22 then skipString rest
  else .error (.next .expectedValue (b :: rest))

theorem skipScalar_length {b : UInt8} {bs rest : List UInt8} (h : skipScalar b bs = .ok rest) :
    rest.length ≤ bs.length := by
  unfold skipScalar at h
  repeat' split at h
  · exact ident_length h
  · exact ident_length h
  · exact ident_length h
  · exact Nat.le_of_lt (skipUnsigned_length h)
  · exact Nat.le_of_lt_succ (skipUnsigned_length h)
  · exact Nat.le_of_lt (skipString_length h)
  · cases h

/-- Passes over the name of a member and the colon after it. -/
def skipKey (bs : List UInt8) : Except Fault (List UInt8) :=
  match blanks bs with
  | [] => .error (.next .endInObject [])
  | k :: key =>
    if k = 0x22 then
      match skipString key with
      | .error fault => .error fault
      | .ok afterKey =>
        match blanks afterKey with
        | [] => .error (.next .endInObject [])
        | c :: more =>
          if c = 0x3A then .ok more else .error (.next .expectedColon (c :: more))
    else .error (.next .keyNotString (k :: key))

theorem skipKey_length {bs rest : List UInt8} (h : skipKey bs = .ok rest) :
    rest.length < bs.length := by
  have hblank := blanks_length bs
  unfold skipKey at h
  split at h
  · cases h
  next k key hkey =>
    rw [hkey] at hblank
    split at h
    · split at h
      · cases h
      next afterKey hskip =>
        have := skipString_length hskip
        have hcolon := blanks_length afterKey
        split at h
        · cases h
        next c more hmore =>
          rw [hmore] at hcolon
          split at h
          · cases h
            simp only [List.length_cons] at hblank hcolon
            omega
          · cases h
    · cases h

/-- The two kinds of brackets. -/
inductive Bracket where
  | list
  | object
  deriving DecidableEq, Repr

namespace Bracket

/-- The byte that closes a bracket. -/
def closing : Bracket → UInt8
  | list => 0x5D
  | object => 0x7D

/-- What is missing when the text ends inside a bracket. -/
def unclosed : Bracket → Cause
  | list => .endInList
  | object => .endInObject

/-- What is missing when a value is followed by neither a comma nor the closing byte. -/
def undivided : Bracket → Cause
  | list => .expectedCommaOrBracket
  | object => .expectedCommaOrBrace

end Bracket

/-- Where a pass over a value stands. -/
inductive SkipAt where
  /-- Before a value. -/
  | value
  /-- After a value of the innermost bracket, or, when `first` holds, right after its
  opening. -/
  | after (first : Bool)
  deriving DecidableEq, Repr

/-- Orders the two places of a pass: a value is nearer to the end than what follows one. -/
def SkipAt.rank : SkipAt → Nat
  | value => 0
  | after _ => 1

/-- The bytes from the next value or name on, where `b` is a comma unless it is the first
byte inside a bracket. -/
def afterComma (first : Bool) (b : UInt8) (rest : List UInt8) : List UInt8 :=
  if first then b :: rest else rest

theorem afterComma_length (first : Bool) (b : UInt8) (rest : List UInt8) :
    (afterComma first b rest).length ≤ rest.length + 1 := by
  unfold afterComma
  split <;> simp

/-- Passes over a value.  `brackets` are those that are open, innermost first; the pass ends
when a value ends outside all of them. -/
def skipFrom (place : SkipAt) (brackets : List Bracket) (input : List UInt8) :
    Except Fault (List UInt8) :=
  match place with
  | .value =>
    match _hb : blanks input with
    | [] => .error (.next .endInValue [])
    | b :: rest =>
      if b = 0x5B then skipFrom (.after true) (.list :: brackets) rest
      else if b = 0x7B then skipFrom (.after true) (.object :: brackets) rest
      else
        match _hs : skipScalar b rest with
        | .error fault => .error fault
        | .ok more => skipFrom (.after false) brackets more
  | .after first =>
    match brackets with
    | [] => .ok input
    | bracket :: outer =>
      match _hb : blanks input with
      | [] => .error (.next bracket.unclosed [])
      | b :: rest =>
        if b = bracket.closing then skipFrom (.after false) outer rest
        else if !first && b != 0x2C then .error (.next bracket.undivided (b :: rest))
        else
          match bracket with
          | .list => skipFrom .value (.list :: outer) (afterComma first b rest)
          | .object =>
            match _hk : skipKey (afterComma first b rest) with
            | .error fault => .error fault
            | .ok more => skipFrom .value (.object :: outer) more
termination_by (input.length, place.rank)
decreasing_by
  all_goals
    have hblank := blanks_length input
    rw [_hb] at hblank
    simp only [List.length_cons] at hblank
  · exact Prod.Lex.left _ _ hblank
  · exact Prod.Lex.left _ _ hblank
  · have := skipScalar_length _hs
    exact Prod.Lex.left _ _ (by omega)
  · exact Prod.Lex.left _ _ hblank
  · have hnext := afterComma_length first b rest
    rcases Nat.lt_or_eq_of_le (Nat.le_trans hnext hblank) with hlt | heq
    · exact Prod.Lex.left _ _ hlt
    · rw [heq]; exact Prod.Lex.right _ Nat.zero_lt_one
  · have hnext := afterComma_length first b rest
    have := skipKey_length _hk
    exact Prod.Lex.left _ _ (by omega)

/-- Passes over a value. -/
def skipValue (bs : List UInt8) : Except Fault (List UInt8) :=
  skipFrom .value [] bs

theorem skipFrom_length {place : SkipAt} {brackets : List Bracket} {input rest : List UInt8}
    (h : skipFrom place brackets input = .ok rest) :
    rest.length + (1 - place.rank) ≤ input.length := by
  have blanks_cons {input tail : List UInt8} {b : UInt8} (hb : blanks input = b :: tail) :
      tail.length + 1 ≤ input.length := by
    have := blanks_length input
    rwa [hb] at this
  fun_induction skipFrom place brackets input with
  | case1 | case4 | case7 | case9 | case11 => cases h
  | case6 => cases h; exact Nat.le_refl _
  | case2 =>
    rename_i hb ih
    have := blanks_cons hb
    have := ih h
    simp only [SkipAt.rank] at this ⊢
    omega
  | case3 =>
    rename_i hb _ ih
    have := blanks_cons hb
    have := ih h
    simp only [SkipAt.rank] at this ⊢
    omega
  | case5 =>
    rename_i hb _ _ _ hs ih
    have := blanks_cons hb
    have := skipScalar_length hs
    have := ih h
    simp only [SkipAt.rank] at this ⊢
    omega
  | case8 =>
    rename_i hb ih
    have := blanks_cons hb
    have := ih h
    simp only [SkipAt.rank] at this ⊢
    omega
  | case10 _ first _ b tail =>
    rename_i hb _ _ ih
    have := blanks_cons hb
    have := ih h
    have := afterComma_length first b tail
    simp only [SkipAt.rank] at *
    omega
  | case12 _ first _ b tail =>
    rename_i hb _ _ hk _ ih
    have := blanks_cons hb
    have := ih h
    have := skipKey_length hk
    have := afterComma_length first b tail
    simp only [SkipAt.rank] at *
    omega

theorem skipValue_length {bs rest : List UInt8} (h : skipValue bs = .ok rest) :
    rest.length < bs.length :=
  skipFrom_length h

end BearerCache.Json
