/-! # Binary64 numbers as exact fractions

A finite number of the format binary64 is `mantissa · 2 ^ exponent` with a mantissa below
`2 ^ 53` and an exponent of at least `-1074`.  The library meets such numbers only where a
JSON text holds a fraction or an exponent, and needs two facts of them: the whole number
below, and the shortest text.  Both are computed from the exact value, so nothing here
depends on floating-point operations.

`ofDecimal?` is the reading of a decimal: significand times a power of ten, each step rounded
to the nearest number, ties to the even mantissa. -/

namespace BearerCache.Number

/-- A non-negative finite number `mantissa · 2 ^ exponent`. -/
structure Binary64 where
  mantissa : Nat
  exponent : Int
  deriving DecidableEq, Repr

namespace Binary64

/-- The number zero. -/
def zero : Binary64 := ⟨0, -1074⟩

/-- The least exponent. -/
def minExponent : Int := -1074

/-- The greatest exponent of a mantissa of 53 bits. -/
def maxExponent : Int := 971

/-- The fraction `num / den` in units of `2 ^ e`, as numerator and denominator. -/
def inUnits (num den : Nat) (e : Int) : Nat × Nat :=
  (num * Nat.pow 2 (-e).toNat, den * Nat.pow 2 e.toNat)

/-- The integer nearest to `num / den`, ties to the even one. -/
def nearestEven (num den : Nat) : Nat :=
  let q := num / den
  let r := num % den
  if 2 * r > den ∨ (2 * r = den ∧ q % 2 = 1) then q + 1 else q

/-- The number nearest to `num / den`, ties to the even mantissa; nothing when it would be
above every finite number. -/
def round? (num den : Nat) : Option Binary64 :=
  if num = 0 then some zero
  else
    let magnitude : Int := Int.ofNat num.log2 - Int.ofNat den.log2
    let (n, d) := inUnits num den magnitude
    let unit := max minExponent (if d ≤ n then magnitude - 52 else magnitude - 53)
    let (n, d) := inUnits num den unit
    let m := nearestEven n d
    let (m, e) := if m = Nat.pow 2 53 then (Nat.pow 2 52, unit + 1) else (m, unit)
    if e ≤ maxExponent then some ⟨m, e⟩ else none

/-- The exact value as a fraction. -/
def fraction (x : Binary64) : Nat × Nat :=
  inUnits x.mantissa 1 (-x.exponent)

/-- The power of ten `10 ^ k`, rounded. -/
def powerOfTen? (k : Nat) : Option Binary64 :=
  round? (Nat.pow 10 k) 1

/-- The rounded product. -/
def mul? (x y : Binary64) : Option Binary64 :=
  let (n, d) := x.fraction
  let (n', d') := y.fraction
  round? (n * n') (d * d')

/-- The rounded quotient; the divisor is not zero where this is used. -/
def div? (x y : Binary64) : Option Binary64 :=
  let (n, d) := x.fraction
  let (n', d') := y.fraction
  round? (n * d') (d * n')

/-- The greatest power of ten with a finite rounding. -/
def maxPower : Nat := 308

/-- Divides by `10 ^ k`, at most by `10 ^ 308` at a time. -/
def scaleDown (x : Binary64) (k : Nat) : Option Binary64 :=
  if k ≤ maxPower then (powerOfTen? k).bind x.div?
  else if x.mantissa = 0 then some x
  else do
    let y ← (powerOfTen? maxPower).bind x.div?
    scaleDown y (k - maxPower)
termination_by k
decreasing_by
  simp only [maxPower] at *
  omega

/-- The number read from a decimal `significand · 10 ^ exponent`; nothing when it is above
every finite number. -/
def ofDecimal? (significand : Nat) (exponent : Int) : Option Binary64 := do
  let x ← round? significand 1
  if exponent < 0 then scaleDown x (-exponent).toNat
  else if exponent.toNat ≤ maxPower then (← powerOfTen? exponent.toNat) |> x.mul?
  else if significand = 0 then return x
  else none

/-- The greatest integer that is not above the number, or above its negation. -/
def floor (negative : Bool) (x : Binary64) : Int :=
  let (n, d) := x.fraction
  if negative then -Int.ofNat ((n + (d - 1)) / d) else Int.ofNat (n / d)

end Binary64

end BearerCache.Number
