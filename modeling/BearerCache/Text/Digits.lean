import BearerCache.Text.Blank

/-! # Numbers in digits

How a whole number is read from a setting or an option: an optional sign and at least one
ASCII digit, within a range.  `positiveSeconds?` is the one reading of a lifetime given as
text; the option `ttl` of a request and the environment default both go through it.

Escapes have hexadecimal digits, which are written in upper or in lower case and read in both. -/

namespace BearerCache.Text

/-! ## Decimal digits -/

/-- The value of an ASCII digit. -/
def digitValue? (c : Char) : Option Nat :=
  if '0' ≤ c ∧ c ≤ '9' then some (c.toNat - 0x30) else none

/-- Reads decimal digits onto the number read so far. -/
def readDigits (acc : Nat) : List Char → Option Nat
  | [] => some acc
  | c :: rest => (digitValue? c).bind fun d => readDigits (acc * 10 + d) rest

/-- The number that a non-empty list of ASCII digits denotes. -/
def nat? : List Char → Option Nat
  | [] => none
  | c :: rest => readDigits 0 (c :: rest)

/-- The number that an optional sign and ASCII digits denote. -/
def int? : List Char → Option Int
  | '+' :: rest => (nat? rest).map Int.ofNat
  | '-' :: rest => (nat? rest).map fun n => -Int.ofNat n
  | cs => (nat? cs).map Int.ofNat

/-- The least integer of 64 bits. -/
def int64Min : Int := -9223372036854775808

/-- The greatest integer of 64 bits. -/
def int64Max : Int := 9223372036854775807

/-- The integer that a text denotes, if it is written in decimal and fits in 64 bits. -/
def int64? (cs : List Char) : Option Int :=
  (int? cs).filter fun n => int64Min ≤ n ∧ n ≤ int64Max

/-- The positive number of seconds that a text denotes once it is trimmed. -/
def positiveSeconds? (s : String) : Option Int :=
  (int64? (trimChars s.toList)).filter fun n => 0 < n

/-- The decimal form of an integer. -/
def decimal (n : Int) : String :=
  toString n

/-- The decimal form of a number, with leading zeros up to a width. -/
def padded (width n : Nat) : String :=
  let digits := Nat.toDigits 10 n
  String.ofList (List.replicate (width - digits.length) '0' ++ digits)

theorem positiveSeconds?_pos {s : String} {n : Int} (h : positiveSeconds? s = some n) :
    0 < n := by
  simp only [positiveSeconds?, Option.filter_eq_some_iff, decide_eq_true_eq] at h
  exact h.2

/-! ## Hexadecimal digits -/

/-- The upper-case hexadecimal digit of a number below sixteen. -/
def hexUpper (n : Nat) : Char :=
  if n < 10 then Char.ofNat (0x30 + n) else Char.ofNat (0x41 + (n - 10))

/-- The lower-case hexadecimal digit of a number below sixteen. -/
def hexLower (n : Nat) : Char :=
  if n < 10 then Char.ofNat (0x30 + n) else Char.ofNat (0x61 + (n - 10))

/-- The value of a hexadecimal digit given by its code. -/
def hexValue? (code : Nat) : Option Nat :=
  if 0x30 ≤ code && code ≤ 0x39 then some (code - 0x30)
  else if 0x41 ≤ code && code ≤ 0x46 then some (code - 0x41 + 10)
  else if 0x61 ≤ code && code ≤ 0x66 then some (code - 0x61 + 10)
  else none

/-- The shortest lower-case hexadecimal form of a number. -/
def hexText (n : Nat) : String :=
  String.ofList (Nat.toDigits 16 n)

theorem hexValue?_hexUpper : ∀ n : Fin 16, hexValue? (hexUpper n.val).toNat = some n.val := by
  decide

end BearerCache.Text
