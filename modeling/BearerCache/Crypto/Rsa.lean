import BearerCache.Crypto.Sha256

/-! # RSA signatures

Keys of RSA and signatures as PKCS #1 v1.5 defines them, with SHA-256.

A key is looked at twice.  When it is read it must be a key at all: `RsaKey.fault?`.  When it
signs it must also be of the usual shape: `RsaKey.isUsual`, which asks for two primes of equal
size, the greater one first, and a large enough modulus and exponent.

A key signs modulo each of its factors and puts the two results together, which is faster than to
sign modulo their product.  That the factors are prime is looked at by nobody. -/

namespace BearerCache

/-- A private key: modulus, exponents and prime factors. -/
structure RsaKey where
  n : Nat
  e : Nat
  d : Nat
  p : Nat
  q : Nat
  deriving DecidableEq, Repr

/-- Why numbers are no key. -/
inductive RsaFault where
  | modulusTooLarge
  | exponentTooLarge
  | exponentTooSmall
  | invalidModulus
  | invalidExponent
  | invalidPrime
  | malformed
  deriving DecidableEq, Repr

/-- The wording of a fault. -/
def RsaFault.message : RsaFault → String
  | .modulusTooLarge => "modulus too large"
  | .exponentTooLarge => "public exponent too large"
  | .exponentTooSmall => "public exponent too small"
  | .invalidModulus => "invalid modulus"
  | .invalidExponent => "invalid exponent"
  | .invalidPrime => "invalid prime value"
  | .malformed => "PKCS#8 cryptographic key data malformed"

namespace Rsa

/-- The number of bits of a number. -/
def bits (n : Nat) : Nat :=
  if n = 0 then 0 else n.log2 + 1

/-- The number whose bytes these are, the most significant first. -/
def ofBytes (bs : List UInt8) : Nat :=
  bs.foldl (fun n b => n * 256 + b.toNat) 0

/-- The last `count` bytes of a number, the most significant first. -/
def toBytes : (count n : Nat) → List UInt8
  | 0, _ => []
  | count + 1, n => toBytes count (n / 256) ++ [UInt8.ofNat n]

/-- The power `base ^ exponent` modulo `m`. -/
def powMod (m base exponent : Nat) : Nat :=
  if exponent = 0 then 1 % m
  else
    let half := powMod m base (exponent / 2)
    let square := half * half % m
    if exponent % 2 = 0 then square else square * base % m
termination_by exponent
decreasing_by omega

/-- The numbers of times that `a` and `b` are taken to make their greatest common divisor. -/
def bezout (a b : Nat) : Int × Int :=
  if b = 0 then (1, 0)
  else
    let (x, y) := bezout b (a % b)
    (y, x - a / b * y)
termination_by b
decreasing_by exact Nat.mod_lt a (by omega)

/-- The inverse of `a` modulo `m`, if there is one. -/
def inverse (a m : Nat) : Nat :=
  ((bezout a m).1 % m).toNat

end Rsa

namespace RsaKey

/-- The first reason why numbers are no key. -/
def fault? (key : RsaKey) : Option RsaFault :=
  if 4096 < Rsa.bits key.n then some .modulusTooLarge
  else if Nat.pow 2 64 ≤ key.e then some .exponentTooLarge
  else if key.n ≤ key.e ∨ key.n % 2 = 0 then some .invalidModulus
  else if key.e % 2 = 0 then some .invalidExponent
  else if key.e < 2 then some .exponentTooSmall
  else if Nat.pow 2 33 - 1 < key.e then some .exponentTooLarge
  else if key.p ≤ 1 ∨ key.q ≤ 1 then some .invalidPrime
  else if key.p * key.q ≠ key.n then some .invalidModulus
  else if key.d * key.e % (key.p - 1) ≠ 1 ∨ key.d * key.e % (key.q - 1) ≠ 1 then
    some .invalidExponent
  else if key.p.gcd key.q ≠ 1 then some .malformed
  else none

/-- Whether a key has the shape that is asked of keys that sign. -/
def isUsual (key : RsaKey) : Bool :=
  let bytes := (Rsa.bits key.n + 7) / 8
  let half := (Rsa.bits key.n + 1) / 2
  decide (65537 ≤ key.e) && decide (256 ≤ bytes) &&
    Rsa.bits key.p == half && Rsa.bits key.q == half && half % 512 == 0 &&
    decide (key.q < key.p) && key.d % 2 == 1 && decide (half < Rsa.bits key.d) &&
    decide (key.d < key.n) && key.d % (key.p - 1) % 2 == 1 && key.d % (key.q - 1) % 2 == 1

/-- What is made of a number with the private exponent: a power modulo each of the factors, with the
exponent as far as it counts there, and from the two the number modulo their product. -/
def privatePower (key : RsaKey) (m : Nat) : Nat :=
  let first := Rsa.powMod key.p m (key.d % (key.p - 1))
  let second := Rsa.powMod key.q m (key.d % (key.q - 1))
  let times := (first + key.p - second) * Rsa.inverse key.q key.p % key.p
  second + key.q * times

end RsaKey

namespace Rsa

/-- What stands before the hash of a message to say that it is one of SHA-256. -/
def digestInfo : List UInt8 :=
  [0x30, 0x31, 0x30, 0x0D, 0x06, 0x09, 0x60, 0x86, 0x48, 0x01, 0x65, 0x03, 0x04, 0x02, 0x01,
    0x05, 0x00, 0x04, 0x20]

/-- The block of `size` bytes that stands for a message. -/
def block (size : Nat) (message : List UInt8) : List UInt8 :=
  let info := digestInfo ++ Sha256.digest message
  0x00 :: 0x01 :: List.replicate (size - info.length - 3) 0xFF ++ 0x00 :: info

/-- The size in bytes of a block for a modulus. -/
def blockSize (n : Nat) : Nat :=
  (bits n + 7) / 8

/-- The signature of a message.  There is none if the key has not the usual shape, or if what
was signed does not verify. -/
def sign? (key : RsaKey) (message : List UInt8) : Option (List UInt8) :=
  let size := blockSize key.n
  let m := ofBytes (block size message)
  let s := key.privatePower m
  if key.isUsual ∧ powMod key.n s key.e = m then some (toBytes size s) else none

/-- Whether a signature is one of a message under a modulus and a public exponent. -/
def verifies (n e : Nat) (message signature : List UInt8) : Bool :=
  let size := blockSize n
  decide (signature.length = size) &&
    decide (powMod n (ofBytes signature) e = ofBytes (block size message))

end Rsa

end BearerCache
