/-! # Punycode

A label of any characters as a label of ASCII characters.  The ASCII characters of the label
come first, closed by a hyphen if there are any; then follows where the others are put in, in
the order of their codes, each place as a number whose digits have falling weights.

A number ends with the first digit below its threshold, and the thresholds adapt to the
numbers so far; so no length has to be written. -/

namespace BearerCache.Url.Punycode

/-! ## Digits -/

/-- The digit of a number below thirty-six. -/
def digit (n : Nat) : Char :=
  if n < 26 then Char.ofNat (0x61 + n) else Char.ofNat (0x30 + (n - 26))

/-- The threshold of the digit at a place. -/
def threshold (place bias : Nat) : Nat :=
  if place ≤ bias then 1 else min 26 (place - bias)

theorem threshold_bounds (place bias : Nat) :
    1 ≤ threshold place bias ∧ threshold place bias ≤ 26 := by
  unfold threshold
  split <;> omega

/-- Divides until what is left is small, and counts the places that takes. -/
def settle (delta places : Nat) : Nat :=
  if 455 < delta then settle (delta / 35) (places + 36) else places + 36 * delta / (delta + 38)
termination_by delta
decreasing_by omega

/-- The bias after a step over `count` characters. -/
def adapt (delta count : Nat) (first : Bool) : Nat :=
  let delta := if first then delta / 700 else delta / 2
  settle (delta + delta / count) 0

/-- The digits of a step. -/
def digits (bias place delta : Nat) : List Char :=
  let t := threshold place bias
  if delta < t then [digit delta]
  else digit (t + (delta - t) % (36 - t)) :: digits bias (place + 36) ((delta - t) / (36 - t))
termination_by delta
decreasing_by
  have := threshold_bounds place bias
  exact Nat.lt_of_le_of_lt (Nat.div_le_self _ _) (by omega)

/-! ## Encoding -/

/-- The state of the encoder. -/
structure Progress where
  output : List Char
  delta : Nat
  bias : Nat
  /-- How many characters have been written. -/
  done : Nat

/-- Passes over one character while the characters `n` are written; `plain` counts those of
ASCII. -/
def passOver (plain n : Nat) (p : Progress) (c : Char) : Progress :=
  if c.toNat < n then { p with delta := p.delta + 1 }
  else if c.toNat = n then
    ⟨p.output ++ digits p.bias 36 p.delta, 0, adapt p.delta (p.done + 1) (p.done == plain),
      p.done + 1⟩
  else p

/-- Writes the characters of each code in turn. -/
def writeCodes (label : List Char) (plain : Nat) : (codes : List Nat) → (n : Nat) → Progress →
    List Char
  | [], _, p => p.output
  | code :: codes, n, p =>
    let p := { p with delta := p.delta + (code - n) * (p.done + 1) }
    let p := label.foldl (passOver plain code) p
    writeCodes label plain codes (code + 1) { p with delta := p.delta + 1 }

/-- The Punycode of a label. -/
def encode (label : List Char) : List Char :=
  let plain := label.filter fun c => c.toNat < 0x80
  let codes := ((label.map Char.toNat).filter (0x80 ≤ ·)).mergeSort.eraseDups
  let start := if plain = [] then [] else plain ++ ['-']
  writeCodes label plain.length codes 0x80 ⟨start, 0, 72, plain.length⟩

/-! ## Decoding -/

/-- The number below thirty-six of a digit. -/
def digitValue? (c : Char) : Option Nat :=
  let n := c.toNat
  if 0x61 ≤ n ∧ n ≤ 0x7A then some (n - 0x61)
  else if 0x30 ≤ n ∧ n ≤ 0x39 then some (n - 0x30 + 26)
  else none

/-- Reads the digits of a step, at a place and with its weight, onto what was read so far. -/
def readStep (bias place weight acc : Nat) : List Char → Option (Nat × List Char)
  | [] => none
  | c :: rest => do
    let d ← digitValue? c
    let t := threshold place bias
    let acc := acc + d * weight
    if d < t then some (acc, rest) else readStep bias (place + 36) (weight * (36 - t)) acc rest

theorem readStep_length {bias place weight acc : Nat} {cs rest : List Char} {n : Nat}
    (h : readStep bias place weight acc cs = some (n, rest)) : rest.length < cs.length := by
  induction cs generalizing place weight acc with
  | nil => simp [readStep] at h
  | cons c cs ih =>
    simp only [readStep, Option.bind_eq_bind, Option.bind_eq_some_iff] at h
    obtain ⟨d, -, h⟩ := h
    split at h
    · cases h
      exact Nat.lt_succ_self _
    · exact Nat.lt_succ_of_lt (ih h)

/-- Puts the characters in that the rest of a code tells of, from the code `n` and the place
`i` on. -/
def putIn (bias n i : Nat) (label cs : List Char) : Option (List Char) :=
  if cs = [] then some label
  else
    match h : readStep bias 36 1 i cs with
    | none => none
    | some (sum, rest) =>
      have := readStep_length h
      let count := label.length + 1
      let n := n + sum / count
      if n.isValidChar then
        putIn (adapt (sum - i) count (i == 0)) n (sum % count + 1)
          (label.insertIdx (sum % count) (Char.ofNat n)) rest
      else none
termination_by cs.length

/-- The label that a Punycode stands for. -/
def decode? (code : List Char) : Option (List Char) :=
  let digits := (code.reverse.takeWhile (· != '-')).reverse
  let plain := code.take (code.length - digits.length - 1)
  putIn 72 0x80 0 plain digits

end BearerCache.Url.Punycode
