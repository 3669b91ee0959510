/-! # UTF-8 bytes

Keys, bodies and signed messages are sequences of bytes; everywhere else the library works
on texts.  `bytes` and `ofBytes?` are the two directions, and `lossy` is the reading that
never fails: every maximal ill-formed part becomes one U+FFFD.
-/

namespace BearerCache.Text

/-- The UTF-8 encoding of a text. -/
def bytes (s : String) : List UInt8 :=
  s.toByteArray.data.toList

/-- The text that a sequence of bytes encodes, if it is well-formed UTF-8. -/
def ofBytes? (bs : List UInt8) : Option String :=
  String.fromUTF8? ⟨bs.toArray⟩

/-- Encoding loses nothing. -/
@[simp] theorem ofBytes?_bytes (s : String) : ofBytes? (bytes s) = some s := by
  have h : (⟨(bytes s).toArray⟩ : ByteArray) = s.toByteArray := by
    simp [bytes]
  simp only [ofBytes?, h, String.fromUTF8?]
  rw [dif_pos (by simpa using s.isValidUTF8)]
  rfl

/-- A text read from bytes encodes to these bytes. -/
theorem bytes_of_ofBytes? {bs : List UInt8} {s : String} (h : ofBytes? bs = some s) :
    bytes s = bs := by
  simp only [ofBytes?, String.fromUTF8?] at h
  split at h
  · obtain rfl := Option.some.inj h
    simp [bytes, String.fromUTF8]
  · exact absurd h (by simp)

/-! ## Reading that never fails -/

/-- How a lead byte constrains what follows: the number of continuation bytes, and the
range of the first of them. -/
def leadShape (b : UInt8) : Option (Nat × UInt8 × UInt8) :=
  if 0xC2 ≤ b && b ≤ 0xDF then some (1, 0x80, 0xBF)
  else if b == 0xE0 then some (2, 0xA0, 0xBF)
  else if b == 0xED then some (2, 0x80, 0x9F)
  else if 0xE1 ≤ b && b ≤ 0xEF then some (2, 0x80, 0xBF)
  else if b == 0xF0 then some (3, 0x90, 0xBF)
  else if b == 0xF4 then some (3, 0x80, 0x8F)
  else if 0xF1 ≤ b && b ≤ 0xF3 then some (3, 0x80, 0xBF)
  else none

/-- The payload bits of a lead byte that announces `n` continuation bytes. -/
def leadBits (n : Nat) (b : UInt8) : Nat :=
  b.toNat % Nat.pow 2 (6 - n)

/-- Reads `n` continuation bytes, the first of them between `lo` and `hi`, onto the bits
in `acc`.  Gives the code point, or nothing where a byte does not fit, with the bytes from
the first one that was not taken. -/
def continuation (acc : Nat) (lo hi : UInt8) : (n : Nat) → (bs : List UInt8) →
    Option Nat × List UInt8
  | 0, bs => (some acc, bs)
  | _ + 1, [] => (none, [])
  | n + 1, b :: rest =>
    if lo ≤ b && b ≤ hi then continuation (acc * 64 + b.toNat % 64) 0x80 0xBF n rest
    else (none, b :: rest)

theorem length_continuation (acc : Nat) (lo hi : UInt8) (n : Nat) (bs : List UInt8) :
    (continuation acc lo hi n bs).2.length ≤ bs.length := by
  fun_induction continuation acc lo hi n bs with
  | case1 => exact Nat.le_refl _
  | case2 => exact Nat.le_refl _
  | case3 _ _ _ _ _ _ _ ih => exact Nat.le_succ_of_le ih
  | case4 => exact Nat.le_refl _

/-- The characters of a sequence of bytes, with U+FFFD for every maximal ill-formed part. -/
def lossyChars : List UInt8 → List Char
  | [] => []
  | b :: rest =>
    if b < 0x80 then Char.ofNat b.toNat :: lossyChars rest
    else
      match leadShape b with
      | none => '\uFFFD' :: lossyChars rest
      | some (n, lo, hi) =>
        let taken := continuation (leadBits n b) lo hi n rest
        (taken.1.map Char.ofNat).getD '\uFFFD' :: lossyChars taken.2
termination_by bs => bs.length
decreasing_by
  · simp
  · simp
  · have := length_continuation (leadBits n b) lo hi n rest
    simp only [List.length_cons]
    omega

/-- The text of a sequence of bytes, with U+FFFD for every maximal ill-formed part. -/
def lossy (bs : List UInt8) : String :=
  String.ofList (lossyChars bs)

end BearerCache.Text
