import BearerCache.Number.Binary64

/-! # The shortest decimal of a number

The text of a binary64 number in messages: the fewest decimal digits that read back to the
same number, and of those the nearest.  `shortest` selects the digits by comparing exact
fractions with the interval of values that round to the number; `Layout` says how digits and
exponent are written down. -/

namespace BearerCache.Number

namespace Binary64

/-- Whether the value `digits · 10 ^ scale` rounds to `x`.  The ends of the interval belong
to it when the mantissa is even. -/
def readsBack (x : Binary64) (digits : Nat) (scale : Int) : Bool :=
  -- all three values are taken in quarters of the unit of `x`
  let (n, d) := inUnits (4 * digits * Nat.pow 10 scale.toNat) (Nat.pow 10 (-scale).toNat) x.exponent
  let m := 4 * x.mantissa
  let below := if x.mantissa = Nat.pow 2 52 ∧ minExponent < x.exponent then 1 else 2
  if x.mantissa % 2 = 0 then (m - below) * d ≤ n && n ≤ (m + 2) * d
  else (m - below) * d < n && n < (m + 2) * d

/-- The greatest `p` with `10 ^ p ≤ n / d`, searched downwards from a bound. -/
def decimalMagnitude (n d : Nat) : (fuel : Nat) → (p : Int) → Int
  | 0, p => p
  | fuel + 1, p =>
    if d * Nat.pow 10 p.toNat ≤ n * Nat.pow 10 (-p).toNat then p else decimalMagnitude n d fuel (p - 1)

/-- The candidate of the grid of `10 ^ scale` that reads back, the nearer one if both
neighbours of the value do, and the even one if they are equally near. -/
def candidate? (x : Binary64) (scale : Int) : Option Nat :=
  let (n, d) := x.fraction
  let (n, d) := (n * Nat.pow 10 (-scale).toNat, d * Nat.pow 10 scale.toNat)
  let low := n / d
  let r := n % d
  match readsBack x low scale, readsBack x (low + 1) scale with
  | true, true =>
    if 2 * r < d ∨ (2 * r = d ∧ low % 2 = 0) then some low else some (low + 1)
  | true, false => some low
  | false, true => some (low + 1)
  | false, false => none

/-- The first hit on the grids of `10 ^ top`, `10 ^ (top - 1)` and so on. -/
def searchGrids (x : Binary64) : (count : Nat) → (scale : Int) → Nat × Int
  | 0, scale => (0, scale)
  | count + 1, scale =>
    match candidate? x scale with
    | some digits => (digits, scale)
    | none => searchGrids x count (scale - 1)

/-- The shortest decimal of a number that is not zero, as `digits · 10 ^ scale`.  The first
grid is one power above the number, where `1` may read back. -/
def shortest (x : Binary64) : Nat × Int :=
  let (n, d) := x.fraction
  searchGrids x 19 (decimalMagnitude n d 700 310 + 1)

end Binary64

/-! ## Layout -/

/-- The decisions of a number format. -/
structure Layout where
  /-- Numbers of at least `10 ^ below` and under `10 ^ above` are written positionally. -/
  below : Int
  above : Int

/-- Numbers in messages: positional from `10 ^ -5` up to `10 ^ 16`, with at least one digit
after the point; beyond that an exponent with its sign. -/
def Layout.message : Layout := ⟨-5, 16⟩

/-- The text of digits with a power of ten. -/
def Layout.write (layout : Layout) (digits : Nat) (scale : Int) : String :=
  let ds := Nat.toDigits 10 digits
  let top : Int := scale + ds.length
  if layout.below < top ∧ top ≤ layout.above then
    if 0 ≤ scale then String.ofList (ds ++ List.replicate scale.toNat '0' ++ ['.', '0'])
    else if 0 < top then
      String.ofList (ds.take top.toNat ++ '.' :: ds.drop top.toNat)
    else String.ofList (['0', '.'] ++ List.replicate (-top).toNat '0' ++ ds)
  else
    let e := top - 1
    let exponent := Nat.toDigits 10 e.natAbs
    let fraction := if ds.length = 1 then [] else '.' :: ds.drop 1
    String.ofList (ds.take 1 ++ fraction ++ ['e', if e < 0 then '-' else '+'] ++ exponent)

/-- The text of a signed number. -/
def Layout.text (layout : Layout) (negative : Bool) (x : Binary64) : String :=
  let sign := if negative then "-" else ""
  if x.mantissa = 0 then sign ++ "0.0"
  else
    let (digits, scale) := x.shortest
    sign ++ layout.write digits scale

end BearerCache.Number
