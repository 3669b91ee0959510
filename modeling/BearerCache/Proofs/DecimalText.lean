import BearerCache.Text.Digits
import Mathlib.Data.List.DropRight

/-! # Trimmed and decimal texts

A text is trimmed once and for all, and nothing is left of it exactly when it is blank.  The
decimal form of a positive number of seconds is read as that number.

## Key results

- `trimChars_trimChars`: what is trimmed is not trimmed any further
- `isAllBlank_of_positiveSeconds?`: a text that is read as a number of seconds is not blank
- `int?_eq_some_iff`: what is read as an integer is a decimal integer
- `positiveSeconds?_decimal`: the decimal form of a number of seconds is read back
- `append_space_toDigits_inj`: the number at the end of a text
-/

namespace BearerCache.Text

/-! ## Trimming -/

/-- What is left of some characters does not begin with a blank. -/
private theorem dropWhile_trimChars (cs : List Char) :
    (trimChars cs).dropWhile isBlank = trimChars cs := by
  have hprefix : trimChars cs <+: cs.dropWhile isBlank :=
    List.rdropWhile_prefix isBlank (cs.dropWhile isBlank)
  rw [List.dropWhile_eq_self_iff]
  intro hlen
  -- Its first character is the one at which the blanks before it end.
  have hfirst := List.head_dropWhile_not (l := cs) isBlank
    (List.ne_nil_of_length_pos (Nat.lt_of_lt_of_le hlen hprefix.length_le))
  rw [List.head_eq_getElem, ← hprefix.getElem hlen] at hfirst
  rw [hfirst]
  exact Bool.false_ne_true

/-- What is trimmed is not trimmed any further. -/
theorem trimChars_trimChars (cs : List Char) : trimChars (trimChars cs) = trimChars cs := by
  have hdrop := dropWhile_trimChars cs
  calc trimChars (trimChars cs)
      = ((trimChars cs).dropWhile isBlank).rdropWhile isBlank := rfl
    _ = ((cs.dropWhile isBlank).rdropWhile isBlank).rdropWhile isBlank := by rw [hdrop]; rfl
    _ = trimChars cs := List.rdropWhile_idempotent isBlank _

/-- Nothing is left of some characters exactly when all of them are blank. -/
theorem trimChars_eq_nil_iff {cs : List Char} : trimChars cs = [] ↔ cs.all isBlank := by
  have hnil : trimChars cs = [] ↔ ∀ c ∈ cs.dropWhile isBlank, isBlank c :=
    List.rdropWhile_eq_nil_iff
  rw [hnil, List.all_eq_true]
  refine ⟨fun h c hc => ?_, fun h c hc => h c ((List.dropWhile_sublist _).subset hc)⟩
  rw [← List.takeWhile_append_dropWhile (p := isBlank) (l := cs)] at hc
  exact (List.mem_append.mp hc).elim List.mem_takeWhile_imp (h c)

/-- A text that is trimmed is blank exactly when it was. -/
theorem isAllBlank_trim (s : String) : isAllBlank (trim s) = isAllBlank s := by
  rw [Bool.eq_iff_iff, isAllBlank, isAllBlank, trim, String.toList_ofList,
    ← trimChars_eq_nil_iff, ← trimChars_eq_nil_iff, trimChars_trimChars]

/-- A text is read as a number of seconds alike, trimmed or not. -/
theorem positiveSeconds?_trim (s : String) : positiveSeconds? (trim s) = positiveSeconds? s := by
  rw [positiveSeconds?, trim, String.toList_ofList, trimChars_trimChars, positiveSeconds?]

/-- A text that is read as a number of seconds is not blank. -/
theorem isAllBlank_of_positiveSeconds? {s : String} {n : Int} (h : positiveSeconds? s = some n) :
    isAllBlank s = false := by
  rw [Bool.eq_false_iff]
  intro hblank
  rw [positiveSeconds?, trimChars_eq_nil_iff.mpr hblank] at h
  cases h

/-- A number of seconds that is read from a text fits in 64 bits. -/
theorem positiveSeconds?_le {s : String} {n : Int} (h : positiveSeconds? s = some n) :
    n ≤ int64Max := by
  simp only [positiveSeconds?, int64?, Option.filter_eq_some_iff, decide_eq_true_eq] at h
  exact h.1.2.2

/-! ## Decimal forms -/

/-- A character has a value as a digit if and only if it is one. -/
private theorem digitValue?_eq (c : Char) :
    digitValue? c = if c.isDigit then some (c.toNat - 0x30) else none := by
  have hdigit : ('0' ≤ c ∧ c ≤ '9') ↔ c.isDigit := by
    simp only [Char.isDigit, Bool.and_eq_true, decide_eq_true_eq]
    rfl
  rw [digitValue?]
  exact if_congr hdigit rfl rfl

/-- Digits, and nothing else, are read as the number that they denote. -/
private theorem readDigits_eq_some_iff {cs : List Char} {acc n : Nat} :
    readDigits acc cs = some n ↔
      (∀ c ∈ cs, c.isDigit) ∧ Nat.ofDigitChars 10 cs acc = n := by
  -- On the text, with the number of the digits before it.
  induction cs generalizing acc with
  | nil => simp [readDigits]
  | cons c rest ih =>
    rw [readDigits, digitValue?_eq, List.forall_mem_cons, Nat.ofDigitChars_cons]
    cases c.isDigit with
    | false => simp
    | true =>
      simp only [if_true, Option.bind_some, ih, true_and, Nat.mul_comm 10]
      rfl

/-- Some characters are a decimal integer: ASCII digits, at least one, perhaps with a sign. -/
inductive IsDecimal : List Char → Int → Prop where
  | unsigned {digits : List Char} (hne : digits ≠ []) (hdigits : ∀ c ∈ digits, c.isDigit) :
    IsDecimal digits (Nat.ofDigitChars 10 digits 0)
  | plus {digits : List Char} (hne : digits ≠ []) (hdigits : ∀ c ∈ digits, c.isDigit) :
    IsDecimal ('+' :: digits) (Nat.ofDigitChars 10 digits 0)
  | minus {digits : List Char} (hne : digits ≠ []) (hdigits : ∀ c ∈ digits, c.isDigit) :
    IsDecimal ('-' :: digits) (-(Nat.ofDigitChars 10 digits 0 : Int))

/-- What is read as a natural number is a run of digits, at least one. -/
private theorem nat?_eq_some_iff {cs : List Char} {n : Nat} :
    nat? cs = some n ↔
      cs ≠ [] ∧ (∀ c ∈ cs, c.isDigit) ∧ Nat.ofDigitChars 10 cs 0 = n := by
  cases cs with
  | nil => simp [nat?]
  | cons c rest => simp only [nat?, readDigits_eq_some_iff, ne_eq, reduceCtorEq, not_false_eq_true,
      true_and]

/-- What is read as an integer is a decimal integer. -/
theorem int?_eq_some_iff {cs : List Char} {n : Int} : int? cs = some n ↔ IsDecimal cs n := by
  constructor
  · intro h
    -- The text decides the case: a sign before the digits, or none.
    unfold int? at h
    split at h
    all_goals
      obtain ⟨m, hread, rfl⟩ := Option.map_eq_some_iff.mp h
      obtain ⟨hne, hdigits, rfl⟩ := nat?_eq_some_iff.mp hread
    · exact .plus hne hdigits
    · exact .minus hne hdigits
    · exact .unsigned hne hdigits
  · intro h
    cases h with
    | plus hne hdigits =>
      exact Option.map_eq_some_iff.mpr ⟨_, nat?_eq_some_iff.mpr ⟨hne, hdigits, rfl⟩, rfl⟩
    | minus hne hdigits =>
      exact Option.map_eq_some_iff.mpr ⟨_, nat?_eq_some_iff.mpr ⟨hne, hdigits, rfl⟩, rfl⟩
    | unsigned hne hdigits =>
      -- No digit is a sign.
      rw [int?]
      · exact Option.map_eq_some_iff.mpr ⟨_, nat?_eq_some_iff.mpr ⟨hne, hdigits, rfl⟩, rfl⟩
      · intro rest hplus
        exact absurd (hdigits '+' (by rw [hplus]; exact List.mem_cons_self)) (by decide)
      · intro rest hminus
        exact absurd (hdigits '-' (by rw [hminus]; exact List.mem_cons_self)) (by decide)

/-- A text is read as a number of seconds if it is a decimal integer once it is trimmed, which is
positive and fits in 64 bits. -/
theorem positiveSeconds?_eq_some_iff {s : String} {n : Int} :
    positiveSeconds? s = some n ↔ IsDecimal (trim s).toList n ∧ 1 ≤ n ∧ n ≤ int64Max := by
  rw [positiveSeconds?, int64?, trim, String.toList_ofList, Option.filter_eq_some_iff,
    Option.filter_eq_some_iff, int?_eq_some_iff, decide_eq_true_eq, decide_eq_true_eq]
  constructor
  · rintro ⟨⟨hdecimal, -, hmax⟩, hpos⟩
    exact ⟨hdecimal, hpos, hmax⟩
  · rintro ⟨hdecimal, hpos, hmax⟩
    exact ⟨⟨hdecimal, Int.le_trans (by decide) hpos, hmax⟩, hpos⟩

/-- The digits of a number are read as the number. -/
private theorem int?_toDigits (n : Nat) : int? (Nat.toDigits 10 n) = some (n : Int) := by
  have hdigits : ∀ c ∈ Nat.toDigits 10 n, c.isDigit := fun c =>
    Nat.isDigit_of_mem_toDigits (by decide) (by decide)
  rw [int?_eq_some_iff]
  simpa only [Nat.ofDigitChars_toDigits (b := 10) (by decide) (by decide)] using
    IsDecimal.unsigned Nat.toDigits_ne_nil hdigits

/-- Numbers with the same digits are the same. -/
theorem toDigits_inj {m n : Nat} (h : Nat.toDigits 10 m = Nat.toDigits 10 n) : m = n := by
  rw [← @Nat.ofDigitChars_ten_toDigits m, h, Nat.ofDigitChars_ten_toDigits]

/-- What ends in a number behind a space is made up of what is before it and the number. -/
theorem append_space_toDigits_inj {front front' : List Char} {m n : Nat}
    (h : front ++ ' ' :: Nat.toDigits 10 m = front' ++ ' ' :: Nat.toDigits 10 n) :
    front = front' ∧ m = n := by
  -- Digits hold no blank, so from the end of the text the first blank is the one in the middle.
  have hfront (front : List Char) (m : Nat) :
      (front ++ ' ' :: Nat.toDigits 10 m).reverse.dropWhile (· ≠ ' ') = ' ' :: front.reverse := by
    have hdigits : ∀ c ∈ (Nat.toDigits 10 m).reverse, decide (c ≠ ' ') := by
      intro c hc
      rw [decide_eq_true_iff]
      rintro rfl
      cases Nat.isDigit_of_mem_toDigits (by decide) (by decide) (List.mem_reverse.mp hc)
    rw [List.reverse_append, List.reverse_cons, List.append_assoc,
      List.dropWhile_append_of_pos hdigits, List.singleton_append,
      List.dropWhile_cons_of_neg (by simp)]
  have hsame : ' ' :: front.reverse = ' ' :: front'.reverse := by
    rw [← hfront front m, h, hfront]
  obtain rfl : front = front' := List.reverse_inj.mp (List.cons.inj hsame).2
  exact ⟨rfl, toDigits_inj (List.cons.inj (List.append_cancel_left h)).2⟩

/-- No digit is blank. -/
private theorem isBlank_of_isDigit {c : Char} (h : c.isDigit) : isBlank c = false := by
  have hrange : 0x30 ≤ c.toNat ∧ c.toNat ≤ 0x39 := by
    simpa [Char.isDigit, UInt32.le_iff_toNat_le] using h
  simp only [isBlank, Bool.or_eq_false_iff, Bool.and_eq_false_iff, decide_eq_false_iff_not,
    beq_eq_false_iff_ne, ne_eq]
  omega

/-- Characters none of which is blank are trimmed already. -/
theorem trimChars_of_not_blank {cs : List Char} (h : ∀ c ∈ cs, isBlank c = false) :
    trimChars cs = cs := by
  have hdrop : cs.dropWhile isBlank = cs := List.dropWhile_eq_self_iff.mpr fun hlen => by
    rw [h _ (List.getElem_mem hlen)]
    exact Bool.false_ne_true
  have hrdrop : cs.rdropWhile isBlank = cs := List.rdropWhile_eq_self_iff.mpr fun hne => by
    rw [h _ (List.getLast_mem hne)]
    exact Bool.false_ne_true
  rw [trimChars, hdrop]
  exact hrdrop

/-- The decimal form of a positive number has no blank in it. -/
private theorem not_blank_decimal (m : Nat) :
    ∀ c ∈ (decimal (m : Int)).toList, isBlank c = false := by
  have hchars : (decimal (m : Int)).toList = Nat.toDigits 10 m := Nat.toList_repr
  rw [hchars]
  exact fun c hc => isBlank_of_isDigit (Nat.isDigit_of_mem_toDigits (by decide) (by decide) hc)

/-- There is nothing to trim on the decimal form of a positive number. -/
theorem trim_decimal {n : Int} (hpos : 0 < n) : trim (decimal n) = decimal n := by
  obtain ⟨m, rfl⟩ := Int.eq_ofNat_of_zero_le (Int.le_of_lt hpos)
  rw [trim, trimChars_of_not_blank (not_blank_decimal m), String.ofList_toList]

/-- The decimal form of a positive number that fits in 64 bits is read back. -/
theorem int64?_decimal {n : Int} (hpos : 0 < n) (hmax : n ≤ int64Max) :
    int64? (decimal n).toList = some n := by
  obtain ⟨m, rfl⟩ := Int.eq_ofNat_of_zero_le (Int.le_of_lt hpos)
  have hchars : (decimal (m : Int)).toList = Nat.toDigits 10 m := Nat.toList_repr
  have hmin : int64Min ≤ (m : Int) := Int.le_trans (by decide) (Int.le_of_lt hpos)
  rw [hchars, int64?, int?_toDigits, Option.filter_some_pos (by simpa using ⟨hmin, hmax⟩)]

/-- The decimal form of a positive number of seconds is read back. -/
theorem positiveSeconds?_decimal {n : Int} (hpos : 0 < n) (hmax : n ≤ int64Max) :
    positiveSeconds? (decimal n) = some n := by
  have hblank : ∀ c ∈ (decimal n).toList, isBlank c = false := by
    obtain ⟨m, rfl⟩ := Int.eq_ofNat_of_zero_le (Int.le_of_lt hpos)
    exact not_blank_decimal m
  rw [positiveSeconds?, trimChars_of_not_blank hblank, int64?_decimal hpos hmax,
    Option.filter_some_pos (by simpa using hpos)]

/-- Characters that are read as a positive number are read as so many seconds. -/
theorem int64?_of_positiveSeconds? {s : String} {n : Int} (h : positiveSeconds? s = some n) :
    int64? (trim s).toList = some n := by
  rw [trim, String.toList_ofList]
  exact (Option.filter_eq_some_iff.mp h).1

end BearerCache.Text
