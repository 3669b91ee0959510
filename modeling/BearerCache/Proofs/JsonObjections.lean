import BearerCache.Proofs.DecimalText
import BearerCache.Proofs.ExactRecords

/-! # What is said of a value of another kind

Where a text is expected and a value of another kind stands, the complaint says what stands there:
of a list or an object just that it is one, but of a number which number it is.  It is placed behind
the value, or before it if the value has brackets.  A number that is too large is not named, but the
place tells where it became too large.

## Main definitions

- `Objection`: what is said of a value, and after how many of its bytes
- `placedAt`: a complaint with its place

## Key results

- `IsNumber.settles`: a number is read, or it is too large
- `exists_objection`: something is said of each value that is no string
- `Objection.run_textAs`: what is said of a value is the fault of the reader of texts
- `placedAt_objection_iff`: complaints about two values in the same place
-/

namespace BearerCache.Json

variable {v w rest : List UInt8}

/-! ## Numbers that are too large -/

/-- A scanner reads a text as a number, or finds it too large, whatever stands behind it. -/
def Settles (scan : List UInt8 → Scan Numeral) (v : List UInt8) : Prop :=
  (∃ m, ∀ more, Stops more → scan (v ++ more) = .ok (m, more)) ∨
    ∃ tail, tail <:+ v ∧
      ∀ more, Stops more → scan (v ++ more) = .error (.here .numberTooLarge (tail ++ more))

variable {isNegative down : Bool} {significand dropped acc : Nat} {start : Int}

/-- What is settled behind some bytes is settled with them. -/
theorem Settles.append {scan scan' : List UInt8 → Scan Numeral} (h : Settles scan v)
    (front : List UInt8)
    (heq : ∀ more, Stops more → scan' (front ++ (v ++ more)) = scan (v ++ more)) :
    Settles scan' (front ++ v) := by
  rcases h with ⟨m, hread⟩ | ⟨tail, htail, hread⟩
  · refine .inl ⟨m, fun more hmore => ?_⟩
    rw [List.append_assoc, heq more hmore, hread more hmore]
  · refine .inr ⟨tail, htail.trans (List.suffix_append front v), fun more hmore => ?_⟩
    rw [List.append_assoc, heq more hmore, hread more hmore]

/-- What is settled by one scanner is settled by another that does the same there. -/
theorem Settles.congr {scan scan' : List UInt8 → Scan Numeral} (h : Settles scan v)
    (heq : ∀ more, Stops more → scan' (v ++ more) = scan (v ++ more)) : Settles scan' v :=
  h.append [] heq

theorem settles_realNumeral : Settles (realNumeral isNegative significand start) [] := by
  cases hx : Number.Binary64.ofDecimal? significand start with
  | some x => exact .inl ⟨_, fun more _ => by rw [List.nil_append, realNumeral, hx]⟩
  | none =>
    exact .inr ⟨[], List.suffix_rfl, fun more _ => by rw [List.nil_append, realNumeral, hx]⟩

theorem settles_exponentDigits {ds : List UInt8} (hds : ∀ d ∈ ds, isDigit d) :
    Settles (exponentDigits isNegative significand start down acc) ds := by
  -- On the digits, as long as the exponent is one that is still looked at.
  induction ds generalizing acc with
  | nil =>
    exact settles_realNumeral.congr fun more hmore => hmore.noDigit.exponentDigits
  | cons d ds ih =>
    obtain ⟨hd, hds⟩ := List.forall_mem_cons.mp hds
    by_cases hle : acc * 10 + digitOf d ≤ maxExponentText
    · have hrest : Settles (exponentDigits isNegative significand start down
          (acc * 10 + digitOf d)) ds := ih hds
      refine hrest.append [d] fun more hmore => ?_
      rw [List.singleton_append, exponentDigits, if_pos hd]
      simp only [if_pos hle]
    · -- The exponent is out of every range, and settles the number.
      by_cases hlarge : significand ≠ 0 ∧ !down
      · refine .inr ⟨ds, List.suffix_cons d ds, fun more hmore => ?_⟩
        rw [List.cons_append, exponentDigits, if_pos hd]
        simp only [if_neg hle, if_pos hlarge]
      · refine .inl ⟨.real isNegative .zero, fun more hmore => ?_⟩
        rw [List.cons_append, exponentDigits, if_pos hd]
        simp only [if_neg hle, if_neg hlarge, hmore.noDigit.dropWhile_append hds]

theorem IsScale.settles (h : IsScale v) : Settles (exponent isNegative significand start) v := by
  cases h with
  | bare hds =>
    obtain ⟨d, tail, rfl⟩ := List.exists_cons_of_ne_nil hds.1
    obtain ⟨hd, htail⟩ := List.forall_mem_cons.mp hds.2
    exact (settles_exponentDigits htail).append [d] fun more _ => exponent_of_isDigit hd _
  | @signed sign _ hsign hds =>
    obtain ⟨d, tail, rfl⟩ := List.exists_cons_of_ne_nil hds.1
    obtain ⟨hd, htail⟩ := List.forall_mem_cons.mp hds.2
    exact (settles_exponentDigits htail).append [sign, d] fun more _ => exponent_of_sign hsign hd _

theorem IsExponent.settles (h : IsExponent v) :
    Settles (scaled isNegative significand start) v := by
  cases h with
  | none => exact settles_realNumeral.congr fun more hmore => hmore.noLetter.scaled
  | @scale letter scale hletter hscale =>
    have hrest : Settles (exponent isNegative significand start) scale := hscale.settles
    refine hrest.append [letter] fun more _ => ?_
    rcases hletter with rfl | rfl <;> rfl

/-- Where a value ends behind its whole part, its number is settled. -/
theorem settles_afterWhole_nil : Settles (afterWhole isNegative significand dropped) [] := by
  have hend {more : List UInt8} (hmore : Stops more) :=
    afterWhole_of_noLetter isNegative significand dropped hmore.noLetter hmore.head?_ne_point
  -- The four ways in which a number without fraction and exponent ends, in the order of the reader.
  by_cases hdropped : dropped ≠ 0
  · exact settles_realNumeral.congr fun more hmore => by
      rw [List.nil_append, hend hmore, if_pos hdropped]
  · by_cases hpositive : !isNegative
    · exact .inl ⟨_, fun more hmore => by
        rw [List.nil_append, hend hmore, if_neg hdropped, if_pos hpositive]⟩
    · by_cases hfits : significand ≠ 0 ∧ significand ≤ 9223372036854775808
      · exact .inl ⟨_, fun more hmore => by
          rw [List.nil_append, hend hmore, if_neg hdropped, if_neg hpositive, if_pos hfits]⟩
      · exact settles_realNumeral.congr fun more hmore => by
          rw [List.nil_append, hend hmore, if_neg hdropped, if_neg hpositive, if_neg hfits]

theorem IsTail.settles (h : IsTail v) : Settles (afterWhole isNegative significand dropped) v := by
  obtain ⟨hfraction, hexponent⟩ := h
  -- Without a fraction the exponent, if any, settles the number; with one, its digits come first.
  cases hfraction with
  | none =>
    cases hexponent with
    | none => exact settles_afterWhole_nil
    | @scale letter scale hletter hscale =>
      have hrest : Settles (exponent isNegative significand dropped) scale := hscale.settles
      refine hrest.append [letter] fun more _ => ?_
      rcases hletter with rfl | rfl <;> rfl
  | @point ds hds =>
    exact hexponent.settles.append (0x2E :: ds) fun more hmore =>
      hds.fraction (hexponent.noDigit hmore)

theorem IsUnsigned.settles (h : IsUnsigned v) : Settles (unsigned isNegative) v := by
  obtain ⟨hwhole, hfraction, hexponent⟩ := h
  have htail : IsTail _ := .mk hfraction hexponent
  exact htail.settles.append _ fun more hmore => hwhole.unsigned (htail.noDigit hmore)

/-- A number is read, or it is too large. -/
theorem IsNumber.settles (h : IsNumber v) : Settles numeral v := by
  cases h with
  | negative h => exact h.settles.append [0x2D] fun more _ => rfl
  | positive h =>
    obtain ⟨d, tail, rfl, hd⟩ := h.exists_cons
    exact h.settles.congr fun more _ => numeral_of_isDigit hd

/-! ## Values of another kind -/

/-- What is found where a bracket opens. -/
def Bracket.found : Bracket → Found
  | .list => .list
  | .object => .object

/-- What is said of a value that is no string where a text is expected, and after how many of its
bytes. -/
inductive Objection (expected : String) : List UInt8 → String → Nat → Prop where
  | null : Objection expected [0x6E, 0x75, 0x6C, 0x6C] (wrongKind .null expected) 4
  | yes : Objection expected [0x74, 0x72, 0x75, 0x65] (wrongKind (.boolean true) expected) 4
  | no : Objection expected [0x66, 0x61, 0x6C, 0x73, 0x65] (wrongKind (.boolean false) expected) 5
  | number {v : List UInt8} {m : Numeral} (hv : IsNumber v) (h : numeral v = .ok (m, [])) :
    Objection expected v (wrongKind (.number m) expected) v.length
  | tooLarge {v tail : List UInt8} (hv : IsNumber v)
      (h : numeral v = .error (.here .numberTooLarge tail)) :
    Objection expected v (Cause.message .numberTooLarge) (v.length - tail.length)
  | bracket {bracket : Bracket} {inner : List UInt8} (hv : IsValue (bracket.opening :: inner)) :
    Objection expected (bracket.opening :: inner) (wrongKind bracket.found expected) 0

variable {expected said : String} {size : Nat}

/-- Something is said of each value that is no string. -/
theorem exists_objection (hv : IsValue v) (hstring : v.head? ≠ some 0x22) :
    ∃ said size, Objection expected v said size := by
  -- Each kind of value but a string has its own objection; for a number it depends on whether it is
  -- too large.
  cases hv with
  | word h =>
    simp only [words, List.mem_cons, List.not_mem_nil, or_false] at h
    rcases h with rfl | rfl | rfl
    · exact ⟨_, _, .null⟩
    · exact ⟨_, _, .yes⟩
    · exact ⟨_, _, .no⟩
  | number h =>
    rcases h.settles with ⟨m, hread⟩ | ⟨tail, -, hread⟩
    · have hv := hread [] trivial
      rw [List.append_nil] at hv
      exact ⟨_, _, .number h hv⟩
    · have hv := hread [] trivial
      rw [List.append_nil, List.append_nil] at hv
      exact ⟨_, _, .tooLarge h hv⟩
  | string => exact absurd rfl hstring
  | bracket h => exact ⟨_, _, .bracket (.bracket h)⟩

/-- A whole number is read from its digits. -/
theorem numeral_digitBytes {n : Nat} (hn : n ≤ maxWhole) :
    numeral (digitBytes n) = .ok (.whole n, []) := by
  have hends : Ends [] := trivial
  have hunsigned := unsigned_digitBytes hn hends false
  rw [List.append_nil, hends.afterWhole] at hunsigned
  obtain ⟨b, tail, htail, -⟩ := exists_digitBytes n
  have hb : isDigit b := isDigit_of_mem_digitBytes n b (by simp [htail])
  rw [htail] at hunsigned ⊢
  rw [numeral_of_isDigit hb, hunsigned]
  rfl

theorem isNumber_digitBytes {n : Nat} (hn : n ≤ maxWhole) : IsNumber (digitBytes n) := by
  obtain ⟨v, hv, hnumber, -⟩ := scans_numeral _ _ _ (numeral_digitBytes hn)
  rw [List.append_nil] at hv
  exact hv ▸ hnumber

/-- Of a whole number it is said which one it is. -/
theorem objection_digitBytes {n : Nat} (hn : n ≤ maxWhole) :
    Objection expected (digitBytes n) (wrongKind (.number (.whole n)) expected)
      (digitBytes n).length :=
  .number (isNumber_digitBytes hn) (numeral_digitBytes hn)

/-- What is said of two whole numbers is the same if they are. -/
theorem wrongKind_whole_inj {m n : Nat} :
    wrongKind (.number (.whole m)) expected = wrongKind (.number (.whole n)) expected ↔ m = n := by
  constructor
  · intro h
    have hchars (n : Nat) : (wrongKind (.number (.whole n)) expected).toList =
        "invalid type: integer `".toList ++ (Nat.toDigits 10 n ++
          ("`, expected ".toList ++ expected.toList)) := by
      have hfound : Found.describe (.number (.whole n)) = s!"integer `{n}`" := rfl
      unfold wrongKind
      rw [hfound]
      simp [toString]
    -- The number stands between two texts that are the same in both messages.
    have hlist := congrArg String.toList h
    rw [hchars, hchars] at hlist
    exact Text.toDigits_inj (List.append_cancel_right (List.append_cancel_left hlist))
  · rintro rfl
    rfl

/-- A number that is read by itself is read so before whatever can follow it. -/
theorem IsNumber.numeral_append {m : Numeral} (hv : IsNumber v) (h : numeral v = .ok (m, []))
    (hrest : Stops rest) : numeral (v ++ rest) = .ok (m, rest) := by
  rcases hv.settles with ⟨m', hread⟩ | ⟨tail, -, hread⟩
  · have hnil := hread [] trivial
    rw [List.append_nil, h] at hnil
    cases hnil
    exact hread rest hrest
  · have hnil := hread [] trivial
    rw [List.append_nil, h] at hnil
    cases hnil

/-- A number that is too large by itself becomes so at the same place before whatever can follow
it. -/
theorem IsNumber.numeral_append_tooLarge {tail : List UInt8} (hv : IsNumber v)
    (h : numeral v = .error (.here .numberTooLarge tail)) (hrest : Stops rest) :
    tail <:+ v ∧ numeral (v ++ rest) = .error (.here .numberTooLarge (tail ++ rest)) := by
  -- A number is taken wherever it stands, or it is too large wherever it stands.
  rcases hv.settles with ⟨m', hread⟩ | ⟨tail', hsuffix, hread⟩
  · have hnil := hread [] trivial
    rw [List.append_nil, h] at hnil
    cases hnil
  · have hnil := hread [] trivial
    rw [List.append_nil, List.append_nil, h] at hnil
    have hsame : tail = tail' := congrArg Fault.rest (Except.error.inj hnil)
    rw [hsame]
    exact ⟨hsuffix, hread rest hrest⟩

/-- What is no string is looked at for what it is. -/
theorem run_textAs_of_ne {first : UInt8} (hw : IsBlank w) (hfirst : isBlankByte first = false)
    (hne : first ≠ 0x22) (tail : List UInt8) :
    (Reader.textAs expected).run (w ++ first :: tail) = .error (mismatch expected first tail) := by
  simp only [Reader.textAs, Reader.ofByte, hw.blanks_eq_cons hfirst, if_neg hne]

/-- What is found is said. -/
theorem run_textAs_of_found {first : UInt8} {tail : List UInt8} {found : Found} (hw : IsBlank w)
    (hfirst : isBlankByte first = false) (hne : first ≠ 0x22)
    (h : lookAt first tail = .ok (found, rest)) :
    (Reader.textAs expected).run (w ++ first :: tail) =
      .error (.here (.unsuitable (wrongKind found expected)) rest) := by
  rw [run_textAs_of_ne hw hfirst hne, mismatch, h]

/-- A digit or a minus sign is no other byte. -/
theorem ne_of_sign_or_digit {first b : UInt8} (hfirst : first = 0x2D ∨ isDigit first)
    (hsign : b ≠ 0x2D) (hdigit : isDigit b = false) : first ≠ b := by
  rintro rfl
  rcases hfirst with h | h
  · exact hsign h
  · rw [hdigit] at h
    cases h

/-- A digit and a minus sign are looked at as those of a number. -/
theorem lookAt_number {first : UInt8} (hfirst : first = 0x2D ∨ isDigit first)
    (tail : List UInt8) :
    lookAt first tail = (numeral (first :: tail)).map fun p => (.number p.1, p.2) := by
  have hn : first ≠ 0x6E := ne_of_sign_or_digit hfirst (by decide) rfl
  have ht : first ≠ 0x74 := ne_of_sign_or_digit hfirst (by decide) rfl
  have hf : first ≠ 0x66 := ne_of_sign_or_digit hfirst (by decide) rfl
  rw [lookAt, if_neg hn, if_neg ht, if_neg hf, if_pos hfirst]

/-- What is said of a value is the fault of the reader of texts, wherever the value stands. -/
theorem Objection.run_textAs (h : Objection expected v said size) (hrest : Stops rest) :
    ∃ cause behind, (∀ w, IsBlank w →
        (Reader.textAs expected).run (w ++ (v ++ rest)) = .error (.here cause behind)) ∧
      cause.message = said ∧ behind.length = v.length - size + rest.length := by
  have hnumber {first : UInt8} (hfirst : first = 0x2D ∨ isDigit first) :
      isBlankByte first = false ∧ first ≠ 0x22 :=
    ⟨(startsValue_of_sign_or_digit hfirst).1, ne_of_sign_or_digit hfirst (by decide) rfl⟩
  -- What is found at the first byte decides the message and how much of the text is left.
  cases h with
  | null =>
    have hfound : lookAt 0x6E ([0x75, 0x6C, 0x6C] ++ rest) = .ok (.null, rest) := by
      rw [lookAt, if_pos rfl, ident_append]
      rfl
    exact ⟨.unsuitable _, rest,
      fun w hw => run_textAs_of_found hw rfl (by decide) hfound, rfl, (Nat.zero_add _).symm⟩
  | yes =>
    have hfound : lookAt 0x74 ([0x72, 0x75, 0x65] ++ rest) = .ok (.boolean true, rest) := by
      rw [lookAt, if_neg (by decide), if_pos rfl, ident_append]
      rfl
    exact ⟨.unsuitable _, rest,
      fun w hw => run_textAs_of_found hw rfl (by decide) hfound, rfl, (Nat.zero_add _).symm⟩
  | no =>
    have hfound : lookAt 0x66 ([0x61, 0x6C, 0x73, 0x65] ++ rest) = .ok (.boolean false, rest) := by
      rw [lookAt, if_neg (by decide), if_neg (by decide), if_pos rfl, ident_append]
      rfl
    exact ⟨.unsuitable _, rest,
      fun w hw => run_textAs_of_found hw rfl (by decide) hfound, rfl, (Nat.zero_add _).symm⟩
  | @number _ m hv hread =>
    have hmore := hv.numeral_append hread hrest
    obtain ⟨first, tail, rfl, hfirst⟩ := hv.exists_cons
    have hfound : lookAt first (tail ++ rest) = .ok (.number m, rest) := by
      rw [lookAt_number hfirst, ← List.cons_append, hmore]
      rfl
    obtain ⟨hblank, hquote⟩ := hnumber hfirst
    exact ⟨.unsuitable _, rest, fun w hw => run_textAs_of_found hw hblank hquote hfound, rfl,
      by omega⟩
  | @tooLarge _ large hv hread =>
    obtain ⟨hsuffix, hmore⟩ := hv.numeral_append_tooLarge hread hrest
    have hlength := hsuffix.length_le
    obtain ⟨first, tail, rfl, hfirst⟩ := hv.exists_cons
    have hfound : lookAt first (tail ++ rest) =
        .error (.here .numberTooLarge (large ++ rest)) := by
      rw [lookAt_number hfirst, ← List.cons_append, hmore]
      rfl
    obtain ⟨hblank, hquote⟩ := hnumber hfirst
    refine ⟨.numberTooLarge, large ++ rest, fun w hw => ?_, rfl, ?_⟩
    · rw [List.cons_append, run_textAs_of_ne hw hblank hquote, mismatch, hfound]
    · rw [List.length_append]
      omega
  | @bracket bracket inner hv =>
    have hfound : lookAt bracket.opening (inner ++ rest) =
        .ok (bracket.found, bracket.opening :: (inner ++ rest)) := by
      cases bracket <;> rfl
    have hstart : isBlankByte bracket.opening = false ∧ bracket.opening ≠ 0x22 := by
      cases bracket <;> decide
    refine ⟨.unsuitable _, _, fun w hw => run_textAs_of_found hw hstart.1 hstart.2 hfound, rfl, ?_⟩
    simp only [List.length_cons, List.length_append, Nat.sub_zero]
    omega

/-! ## Places -/

/-- What is said of a text behind some bytes of it. -/
def placedAt (said : String) (before : List UInt8) : String :=
  let (line, column) := Fault.lineAndColumn before
  s!"{said} at line {line} column {column}"

/-- A fault that has a place is told with it. -/
theorem message_of_left {fault : Fault} {before behind : List UInt8}
    (h : fault.left = some behind.length) :
    fault.message (before ++ behind) = placedAt fault.cause.message before := by
  simp [Fault.message, h, placedAt]

/-- Bytes on the same line count for the column. -/
theorem lineAndColumn_append {before bs : List UInt8} (h : ∀ b ∈ bs, b ≠ 0x0A) :
    Fault.lineAndColumn (before ++ bs) =
      ((Fault.lineAndColumn before).1, (Fault.lineAndColumn before).2 + bs.length) := by
  -- On the bytes; each that is no line feed moves the place by one column.
  induction bs generalizing before with
  | nil => simp
  | cons b bs ih =>
    obtain ⟨hb, hbs⟩ := List.forall_mem_cons.mp h
    have hfirst : Fault.lineAndColumn (before ++ [b]) =
        ((Fault.lineAndColumn before).1, (Fault.lineAndColumn before).2 + 1) := by
      rw [Fault.lineAndColumn, List.foldl_append, List.foldl_cons, List.foldl_nil, if_neg hb]
      rfl
    rw [List.append_cons, ih hbs, hfirst, List.length_cons]
    simp only [Nat.add_assoc, Nat.add_comm 1]

/-- Two complaints with their places are told alike if they say the same in the same place. -/
theorem placedAt_eq_iff {said said' : String} {before before' : List UInt8} :
    placedAt said before = placedAt said' before' ↔
      said = said' ∧ Fault.lineAndColumn before = Fault.lineAndColumn before' := by
  constructor
  · intro h
    -- The line and the column are the two numbers at the end of the text.
    have hchars (said : String) (before : List UInt8) : (placedAt said before).toList =
        (said.toList ++ " at line".toList ++
          ' ' :: Nat.toDigits 10 (Fault.lineAndColumn before).1) ++ " column".toList ++
          ' ' :: Nat.toDigits 10 (Fault.lineAndColumn before).2 := by
      simp [placedAt, toString]
    have hlist := congrArg String.toList h
    rw [hchars, hchars] at hlist
    obtain ⟨hfront, hcolumn⟩ := Text.append_space_toDigits_inj hlist
    obtain ⟨hfront, hline⟩ := Text.append_space_toDigits_inj (List.append_cancel_right hfront)
    exact ⟨String.toList_injective (List.append_cancel_right hfront), Prod.ext hline hcolumn⟩
  · rintro ⟨rfl, hplace⟩
    rw [placedAt, placedAt, hplace]

/-- There is no line feed in a number. -/
theorem IsNumber.ne_lineFeed (h : IsNumber v) : ∀ b ∈ v, b ≠ 0x0A := by
  -- A number consists of digits, signs, a point and a letter, none of which ends a line.
  have hdigit {b : UInt8} (hb : isDigit b) : b ≠ 0x0A := by
    rintro rfl
    cases hb
  have hdigits {ds : List UInt8} (hds : IsDigits ds) : ∀ b ∈ ds, b ≠ 0x0A :=
    fun b hb => hdigit (hds.2 b hb)
  have hunsigned {v : List UInt8} (h : IsUnsigned v) : ∀ b ∈ v, b ≠ 0x0A := by
    obtain ⟨hwhole, hfraction, hexponent⟩ := h
    simp only [List.forall_mem_append]
    refine ⟨?_, ?_, ?_⟩
    · cases hwhole with
      | zero => decide +kernel
      | digits hd _ hds => exact List.forall_mem_cons.mpr ⟨hdigit hd, fun b hb => hdigit (hds b hb)⟩
    · cases hfraction with
      | none => simp
      | point hds => exact List.forall_mem_cons.mpr ⟨by decide, hdigits hds⟩
    · cases hexponent with
      | none => simp
      | scale hletter hscale =>
        refine List.forall_mem_cons.mpr ⟨by rcases hletter with rfl | rfl <;> decide, ?_⟩
        cases hscale with
        | bare hds => exact hdigits hds
        | signed hsign hds =>
          exact List.forall_mem_cons.mpr
            ⟨by rcases hsign with rfl | rfl <;> decide, hdigits hds⟩
  cases h with
  | positive h => exact hunsigned h
  | negative h => exact List.forall_mem_cons.mpr ⟨by decide, hunsigned h⟩

/-- The bytes after which something is said of a value are some of the value, on one line. -/
theorem Objection.take (h : Objection expected v said size) :
    size ≤ v.length ∧ ∀ b ∈ v.take size, b ≠ 0x0A := by
  cases h with
  | null => decide +kernel
  | yes => decide +kernel
  | no => decide +kernel
  | number hv => exact ⟨Nat.le_refl _, fun b hb => hv.ne_lineFeed b (List.mem_of_mem_take hb)⟩
  | tooLarge hv => exact ⟨Nat.sub_le _ _, fun b hb => hv.ne_lineFeed b (List.mem_of_mem_take hb)⟩
  | bracket => exact ⟨Nat.zero_le _, by simp⟩

/-- The complaints about two values in the same place are told alike if the same is said, after as
many bytes. -/
theorem placedAt_objection_iff {front v' : List UInt8} {said' : String} {size' : Nat}
    (h : Objection expected v said size) (h' : Objection expected v' said' size') :
    placedAt said (front ++ v.take size) = placedAt said' (front ++ v'.take size') ↔
      said = said' ∧ size = size' := by
  obtain ⟨hle, hline⟩ := h.take
  obtain ⟨hle', hline'⟩ := h'.take
  rw [placedAt_eq_iff, lineAndColumn_append hline, lineAndColumn_append hline',
    List.length_take_of_le hle, List.length_take_of_le hle']
  refine and_congr_right fun _ => ⟨fun hplace => ?_, fun hsize => by rw [hsize]⟩
  exact Nat.add_left_cancel (congrArg Prod.snd hplace)

end BearerCache.Json
