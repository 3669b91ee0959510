import BearerCache.Text.Digits
import BearerCache.Text.Utf8

/-! # Form encoding

The `application/x-www-form-urlencoded` format: `name=value` pairs joined by `&`.  Letters,
digits and `* - . _` stand for themselves, a space is written `+`, and every other byte of
the UTF-8 encoding is written `%XX`.  A query string, a posted form and the text of a cache
key are all written this way; `decode` reads the format back. -/

namespace BearerCache.Text.Form

/-! ## Writing -/

/-- The bytes that stand for themselves. -/
def isPlain (b : UInt8) : Bool :=
  (0x30 ≤ b && b ≤ 0x39) || (0x41 ≤ b && b ≤ 0x5A) || (0x61 ≤ b && b ≤ 0x7A) ||
    b == 0x2A || b == 0x2D || b == 0x2E || b == 0x5F

/-- The written form of one byte. -/
def encodeByte (b : UInt8) : List Char :=
  if isPlain b then [Char.ofNat b.toNat]
  else if b == 0x20 then ['+']
  else ['%', hexUpper (b.toNat / 16), hexUpper (b.toNat % 16)]

/-- The written form of a name or a value. -/
def encodeChars (s : String) : List Char :=
  (bytes s).flatMap encodeByte

/-- The written form of one pair. -/
def encodePair (pair : String × String) : List Char :=
  encodeChars pair.1 ++ '=' :: encodeChars pair.2

/-- The written form of a list of pairs, in order. -/
def encode (pairs : List (String × String)) : String :=
  String.ofList (['&'].intercalate (pairs.map encodePair))

/-! ## Reading -/

/-- The bytes that a written name or value stands for: `+` is a space and `%` with two
hexadecimal digits is the byte with that value. -/
def decodeBytes : List UInt8 → List UInt8
  | 0x2B :: rest => 0x20 :: decodeBytes rest
  | 0x25 :: high :: low :: rest =>
    match hexValue? high.toNat, hexValue? low.toNat with
    | some h, some l => UInt8.ofNat (h * 16 + l) :: decodeBytes rest
    | _, _ => 0x25 :: decodeBytes (high :: low :: rest)
  | b :: rest => b :: decodeBytes rest
  | [] => []

/-- Reads one pair: the name ends at the first `=`. -/
def decodePair (part : List UInt8) : String × String :=
  (lossy (decodeBytes (part.takeWhile (· != 0x3D))),
    lossy (decodeBytes ((part.dropWhile (· != 0x3D)).drop 1)))

/-- The pairs of a form, in order; empty parts are skipped. -/
def decode (s : String) : List (String × String) :=
  (((bytes s).splitOn 0x26).filter (!·.isEmpty)).map decodePair

end BearerCache.Text.Form
