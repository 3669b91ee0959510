import BearerCache.Crypto.Rsa
import Mathlib.Data.Nat.Digits.Defs
import Mathlib.FieldTheory.Finite.Basic
import Mathlib.NumberTheory.LucasPrimality

/-! # What a key signs is verified

A key signs modulo each of its factors.  What it makes of the two is a number that is the power by
the private exponent, if the factors are prime.  They need not be: nobody looks at that.  So the
signature is raised to the public exponent before it is handed out, and is dropped if the number
that was signed does not come back.  A signature that is handed out is therefore always one that the
public numbers of the key verify.

## Main definitions

- `RsaKey.IsSound`: what the numbers of a key without faults have to do with each other
- `RsaKey.Restores`: the numbers that come back from a signature

## Key results

- `RsaKey.IsSound.pow_privatePower_iff`: which numbers come back, modulo each of the factors
- `RsaKey.IsSound.restores_of_prime`: with prime factors all numbers come back
- `RsaKey.IsSound.privatePower_of_prime`: with prime factors a signature is a power modulo the product
- `RsaKey.IsSound.verifies_of_sign?`: signatures are verified
-/

namespace BearerCache

namespace Rsa

/-! ## Bits, bytes and blocks -/

theorem bits_le_iff {n k : Nat} : bits n ≤ k ↔ n < 2 ^ k := by
  unfold bits
  split
  next h => simp [h]
  next h => rw [Nat.succ_le_iff, Nat.log2_lt h]

theorem lt_bits_iff {n k : Nat} : k < bits n ↔ 2 ^ k ≤ n := by
  rw [← Nat.not_le, bits_le_iff, Nat.not_lt]

/-- Squaring and multiplying gives the power. -/
theorem powMod_eq (m base exponent : Nat) : powMod m base exponent = base ^ exponent % m := by
  induction exponent using Nat.strongRecOn with
  -- Squaring halves the exponent; what it leaves over is one more factor or none.
  | ind exponent ih =>
    rw [powMod]
    by_cases hzero : exponent = 0
    · rw [if_pos hzero, hzero, Nat.pow_zero]
    · have hhalf := ih (exponent / 2) (by omega)
      have hsquare : powMod m base (exponent / 2) * powMod m base (exponent / 2) % m =
          base ^ (2 * (exponent / 2)) % m := by
        rw [hhalf, ← Nat.mul_mod, ← Nat.pow_add, Nat.two_mul]
      simp only [if_neg hzero, hsquare]
      split
      next heven => rw [show 2 * (exponent / 2) = exponent by omega]
      next hodd =>
        rw [Nat.mod_mul_mod, ← Nat.pow_succ, show (2 * (exponent / 2)).succ = exponent by omega]

/-- A number is prime if all but one of its remainders are powers of some number.  It is enough to
look at the powers with which the number of remainders would be divided by one of its factors. -/
theorem prime_of_powMod {p r k m : Nat} (base : Nat) (hr : r.Prime) (hp : p = r ^ k * 2 ^ m + 1)
    (hlt : 1 < p) (hone : powMod p base (p - 1) = 1)
    (hhalf : powMod p base ((p - 1) / 2) ≠ 1)
    (hpart : powMod p base ((p - 1) / r) ≠ 1) : p.Prime := by
  -- The powers are computed with numbers, and Lucas' criterion speaks of residues.
  have hpow (exponent : Nat) :
      (base : ZMod p) ^ exponent = 1 ↔ powMod p base exponent = 1 := by
    rw [powMod_eq, ← Nat.cast_pow, ← Nat.cast_one, ZMod.natCast_eq_natCast_iff, Nat.ModEq,
      Nat.mod_eq_of_lt hlt]
  refine lucas_primality p (base : ZMod p) ((hpow _).mpr hone) fun s hs hdvd => ?_
  rw [Ne, hpow]
  rw [hp, Nat.add_sub_cancel] at hdvd
  -- A prime divisor of the number before it is two or the other one.
  rcases hs.dvd_mul.mp hdvd with hdvd | hdvd
  · rw [(Nat.prime_dvd_prime_iff_eq hs hr).mp (hs.dvd_of_dvd_pow hdvd)]
    exact hpart
  · rw [(Nat.prime_dvd_prime_iff_eq hs Nat.prime_two).mp (hs.dvd_of_dvd_pow hdvd)]
    exact hhalf

/-- A number is what its bytes say as digits. -/
theorem ofBytes_eq_ofDigits (bytes : List UInt8) :
    ofBytes bytes = Nat.ofDigits 256 (bytes.reverse.map UInt8.toNat) := by
  -- On the bytes, of which the last counts least.
  induction bytes using List.reverseRecOn with
  | nil => rfl
  | append_singleton bytes b ih =>
    rw [ofBytes] at ih ⊢
    rw [List.foldl_append, List.foldl_cons, List.foldl_nil, ih, List.reverse_append,
      List.reverse_singleton, List.singleton_append, List.map_cons, Nat.ofDigits_cons]
    omega

/-- A number is less than the power that its bytes lead to. -/
theorem ofBytes_lt (bs : List UInt8) : ofBytes bs < 256 ^ bs.length := by
  have hdigits : ∀ d ∈ bs.reverse.map UInt8.toNat, d < 256 := by
    intro d hd
    obtain ⟨b, -, rfl⟩ := List.mem_map.mp hd
    exact b.toNat_lt
  have hlt := Nat.ofDigits_lt_base_pow_length (by decide) hdigits
  rwa [List.length_map, List.length_reverse, ← ofBytes_eq_ofDigits] at hlt

/-- The number of a block for a modulus that is large enough is less than the modulus. -/
theorem ofBytes_block_lt {n : Nat} (hsize : 54 ≤ blockSize n) (message : List UInt8) :
    ofBytes (block (blockSize n) message) < n := by
  have hzero (bs : List UInt8) : ofBytes (0 :: bs) = ofBytes bs := rfl
  -- The first byte is zero and the block as long as the number, so its value is below that.
  obtain ⟨tail, hblock, hlength⟩ : ∃ tail, block (blockSize n) message = 0 :: tail ∧
      tail.length + 1 = blockSize n := by
    have hinfo : (digestInfo ++ Sha256.digest message).length = 51 := by
      rw [List.length_append, Sha256.digest_length]
      rfl
    refine ⟨1 :: (List.replicate (blockSize n - 51 - 3) 0xFF ++
      0 :: (digestInfo ++ Sha256.digest message)), ?_, ?_⟩
    · simp [block, hinfo]
    · simp only [List.length_append, List.length_cons, List.length_replicate] at hinfo ⊢
      omega
  have hbound : 256 ^ tail.length ≤ n := by
    have hpow : (256 : Nat) ^ tail.length = 2 ^ (8 * tail.length) := by rw [Nat.pow_mul]
    rw [hpow, ← lt_bits_iff]
    unfold blockSize at hlength hsize
    omega
  rw [hblock, hzero]
  exact Nat.lt_of_lt_of_le (ofBytes_lt tail) hbound

@[simp] theorem length_toBytes (count n : Nat) : (toBytes count n).length = count := by
  induction count generalizing n with
  | zero => rfl
  | succ count ih => rw [toBytes, List.length_append, ih, List.length_singleton]

/-- The bytes of a block are enough for the modulus. -/
theorem lt_pow_blockSize (n : Nat) : n < 256 ^ blockSize n := by
  have hpow : (256 : Nat) ^ blockSize n = 2 ^ (8 * blockSize n) := by rw [Nat.pow_mul]
  rw [hpow, ← bits_le_iff, blockSize]
  omega

/-- As many bytes of a number as are enough for it are read as the number. -/
theorem ofBytes_toBytes {count n : Nat} (h : n < 256 ^ count) :
    ofBytes (toBytes count n) = n := by
  -- On the count of bytes, of which the last holds the rest of a division.
  induction count generalizing n with
  | zero => simp_all [ofBytes, toBytes]
  | succ count ih =>
    have hfront : ofBytes (toBytes count (n / 256)) = n / 256 := ih (by omega)
    have hlast : (UInt8.ofNat n).toNat = n % 256 := UInt8.toNat_ofNat'
    rw [ofBytes] at hfront ⊢
    rw [toBytes, List.foldl_append, hfront, List.foldl_cons, List.foldl_nil, hlast]
    omega

/-! ## Inverses -/

/-- Euclid's algorithm finds how often two numbers make their greatest common divisor. -/
theorem bezout_eq (a b : Nat) : (a : Int) * (bezout a b).1 + b * (bezout a b).2 = a.gcd b := by
  -- On the steps of the algorithm, each of which divides with rest.
  fun_induction bezout a b with
  | case1 a => simp
  | case2 a b hb x y hrest ih =>
    rw [hrest] at ih
    have hmod : ((a % b : Nat) : Int) = a - b * (a / b : Nat) := by
      rw [Int.natCast_mod, Int.emod_def, Int.natCast_ediv]
    rw [Nat.gcd_comm, ← Nat.gcd_rec, Nat.gcd_comm, hmod] at ih
    rw [← ih]
    push_cast
    ring

/-- A number without a common factor has an inverse. -/
theorem mul_inverse_modEq {a m : Nat} (hm : 0 < m) (h : a.gcd m = 1) :
    a * inverse a m ≡ 1 [MOD m] := by
  have hm' : (m : Int) ≠ 0 := by omega
  -- The inverse is the coefficient of Bézout, brought into the range of residues.
  have hinverse : (inverse a m : Int) ≡ (bezout a m).1 [ZMOD m] := by
    rw [inverse, Int.toNat_of_nonneg (Int.emod_nonneg _ hm')]
    exact Int.mod_modEq _ _
  rw [← Int.natCast_modEq_iff, Nat.cast_mul, Nat.cast_one]
  calc (a : Int) * inverse a m
      ≡ a * (bezout a m).1 [ZMOD m] := hinverse.mul_left a
    _ ≡ a * (bezout a m).1 + m * (bezout a m).2 [ZMOD m] := by
        rw [Int.modEq_comm]
        exact Int.modEq_add_fac_self
    _ = 1 := by rw [bezout_eq, h, Nat.cast_one]

end Rsa

namespace RsaKey

variable {key : RsaKey}

/-! ## Keys without faults -/

/-- What the numbers of a key without faults have to do with each other. -/
structure IsSound (key : RsaKey) : Prop where
  size : Rsa.bits key.n ≤ 4096
  odd : key.n % 2 = 1
  factors : key.p * key.q = key.n
  one_lt : 1 < key.p ∧ 1 < key.q
  inverse : key.d * key.e % (key.p - 1) = 1 ∧ key.d * key.e % (key.q - 1) = 1
  coprime : key.p.gcd key.q = 1

theorem isSound_of_fault?_eq_none (h : key.fault? = none) : key.IsSound := by
  simp only [fault?, ite_eq_iff, reduceCtorEq, and_false, false_or, not_or, not_le, not_not,
    and_true] at h
  obtain ⟨hsize, -, ⟨-, hodd⟩, -, -, -, hone, hfactors, hinverse, hcoprime⟩ := h
  exact ⟨Nat.not_lt.mp hsize, by omega, hfactors, hone, hinverse, hcoprime⟩

/-! ## Powers by the private exponent -/

/-- A number comes back when it is signed and the signature is looked at. -/
def Restores (key : RsaKey) (m : Nat) : Prop :=
  m ^ (key.d % (key.p - 1) * key.e) ≡ m [MOD key.p] ∧
    m ^ (key.d % (key.q - 1) * key.e) ≡ m [MOD key.q]

namespace IsSound

/-- The factors of a key are not 2, so that a factor less one is even. -/
theorem two_dvd (h : key.IsSound) : 2 ∣ key.p - 1 ∧ 2 ∣ key.q - 1 := by
  have hodd : key.p % 2 = 1 ∧ key.q % 2 = 1 := by
    have hproduct := h.odd
    rwa [← h.factors, ← Nat.odd_iff, Nat.odd_mul, Nat.odd_iff, Nat.odd_iff] at hproduct
  omega

/-- The power is less than the modulus. -/
theorem privatePower_lt (h : key.IsSound) (m : Nat) : key.privatePower m < key.n := by
  obtain ⟨hp, hq⟩ := h.one_lt
  have hsecond := Nat.mod_lt (m ^ (key.d % (key.q - 1))) (Nat.zero_lt_of_lt hq)
  rw [← Rsa.powMod_eq] at hsecond
  refine Nat.lt_of_lt_of_le (Nat.add_lt_add_right hsecond _) ?_
  rw [← h.factors, Nat.mul_comm key.p, Nat.add_comm, ← Nat.mul_succ]
  exact Nat.mul_le_mul_left key.q (Nat.mod_lt _ (Nat.zero_lt_of_lt hp))

/-- Modulo the second factor the power is the one that was made there. -/
theorem privatePower_modEq_q (m : Nat) :
    key.privatePower m ≡ m ^ (key.d % (key.q - 1)) [MOD key.q] := by
  rw [privatePower, Rsa.powMod_eq key.q, Nat.ModEq, Nat.add_mul_mod_self_left, Nat.mod_mod]

/-- Modulo the first factor, which is the greater one, it is the one that was made there. -/
theorem privatePower_modEq_p (h : key.IsSound) (horder : key.q < key.p) (m : Nat) :
    key.privatePower m ≡ m ^ (key.d % (key.p - 1)) [MOD key.p] := by
  obtain ⟨hp, hq⟩ := h.one_lt
  have hpos : 0 < key.p := Nat.zero_lt_of_lt hp
  have hinverse := Rsa.mul_inverse_modEq hpos (Nat.gcd_comm key.p key.q ▸ h.coprime)
  rw [privatePower, Rsa.powMod_eq, Rsa.powMod_eq]
  generalize hfirst : m ^ (key.d % (key.p - 1)) % key.p = first
  generalize hsecond : m ^ (key.d % (key.q - 1)) % key.q = second
  have hlt : second < key.q := hsecond ▸ Nat.mod_lt _ (Nat.zero_lt_of_lt hq)
  -- What is missing from the second to the first is a multiple of the second factor.
  calc second + key.q * ((first + key.p - second) * Rsa.inverse key.q key.p % key.p)
      ≡ second + key.q * ((first + key.p - second) * Rsa.inverse key.q key.p) [MOD key.p] :=
        ((Nat.mod_modEq _ _).mul_left key.q).add_left second
    _ = second + key.q * Rsa.inverse key.q key.p * (first + key.p - second) := by
        rw [Nat.mul_comm (first + key.p - second), Nat.mul_assoc]
    _ ≡ second + 1 * (first + key.p - second) [MOD key.p] :=
        (hinverse.mul_right (first + key.p - second)).add_left second
    _ = first + key.p := by omega
    _ ≡ first [MOD key.p] := Nat.add_modEq_right
    _ ≡ m ^ (key.d % (key.p - 1)) [MOD key.p] := hfirst ▸ Nat.mod_modEq _ _

/-- Which numbers come back when the power is raised to the public exponent. -/
theorem pow_privatePower_iff (h : key.IsSound) (horder : key.q < key.p) (m : Nat) :
    key.privatePower m ^ key.e ≡ m [MOD key.n] ↔ key.Restores m := by
  rw [Restores, ← h.factors, ← Nat.modEq_and_modEq_iff_modEq_mul h.coprime, Nat.pow_mul,
    Nat.pow_mul]
  have hp := (h.privatePower_modEq_p horder m).pow key.e
  have hq := (@privatePower_modEq_q key m).pow key.e
  exact and_congr ⟨hp.symm.trans, hp.trans⟩ ⟨hq.symm.trans, hq.trans⟩

end IsSound

/-! ## Keys with prime factors -/

/-- Modulo a prime number only what is left of an exponent by `p - 1` counts, if anything is. -/
theorem pow_mod_modEq_of_prime {p exponent : Nat} (hp : p.Prime) (h : exponent % (p - 1) ≠ 0)
    (m : Nat) : m ^ (exponent % (p - 1)) ≡ m ^ exponent [MOD p] := by
  have : Fact p.Prime := ⟨hp⟩
  rw [← ZMod.natCast_eq_natCast_iff, Nat.cast_pow, Nat.cast_pow]
  by_cases hm : (m : ZMod p) = 0
  · -- Fermat's theorem says nothing of multiples of `p`, all whose powers are zero.
    have hexponent : exponent ≠ 0 := fun hzero => h (by rw [hzero, Nat.zero_mod])
    rw [hm, zero_pow h, zero_pow hexponent]
  · conv_rhs => rw [← Nat.div_add_mod exponent (p - 1)]
    rw [pow_add, pow_mul, ZMod.pow_card_sub_one_eq_one hm, one_pow, one_mul]

/-- A power with an exponent that is one more than a multiple of `p - 1` is the number itself. -/
theorem pow_modEq_of_prime {p exponent : Nat} (hp : p.Prime) (h : exponent % (p - 1) = 1)
    (m : Nat) : m ^ exponent ≡ m [MOD p] := by
  have hpow := pow_mod_modEq_of_prime hp (by rw [h]; exact Nat.one_ne_zero) m
  rw [h, Nat.pow_one] at hpow
  exact hpow.symm

namespace IsSound

/-- With prime factors all numbers come back. -/
theorem restores_of_prime (h : key.IsSound) (hp : key.p.Prime) (hq : key.q.Prime) (m : Nat) :
    key.Restores m :=
  ⟨pow_modEq_of_prime hp (by rw [Nat.mod_mul_mod, h.inverse.1]) m,
    pow_modEq_of_prime hq (by rw [Nat.mod_mul_mod, h.inverse.2]) m⟩

/-- With prime factors what is put together is the power modulo the product. -/
theorem privatePower_of_prime (h : key.IsSound) (hp : key.p.Prime) (hq : key.q.Prime)
    (horder : key.q < key.p) (m : Nat) : key.privatePower m = m ^ key.d % key.n := by
  -- An exponent with an inverse is not a multiple of what it is inverse for.
  have hleft {r : Nat} (hinverse : key.d * key.e % r = 1) : key.d % r ≠ 0 := by
    intro hzero
    rw [← Nat.mod_mul_mod, hzero, Nat.zero_mul, Nat.zero_mod] at hinverse
    cases hinverse
  have hpower : key.privatePower m ≡ m ^ key.d [MOD key.n] := by
    rw [← h.factors, ← Nat.modEq_and_modEq_iff_modEq_mul h.coprime]
    exact ⟨(h.privatePower_modEq_p horder m).trans
        (pow_mod_modEq_of_prime hp (hleft h.inverse.1) m),
      (privatePower_modEq_q m).trans (pow_mod_modEq_of_prime hq (hleft h.inverse.2) m)⟩
  rw [← hpower, Nat.mod_eq_of_lt (h.privatePower_lt m)]

/-! ## Signatures -/

/-- A signature is verified with the public numbers of the key. -/
theorem verifies_of_sign? (h : key.IsSound) {message signature : List UInt8}
    (hsign : Rsa.sign? key message = some signature) :
    Rsa.verifies key.n key.e message signature := by
  unfold Rsa.sign? at hsign
  dsimp only at hsign
  split at hsign
  next hrestored =>
    obtain rfl := Option.some.inj hsign
    have hlt (m : Nat) : key.privatePower m < 256 ^ Rsa.blockSize key.n :=
      Nat.lt_trans (h.privatePower_lt m) (Rsa.lt_pow_blockSize key.n)
    simp [Rsa.verifies, Rsa.ofBytes_toBytes (hlt _), hrestored.2]
  next => cases hsign

end IsSound

end RsaKey

end BearerCache
