import BearerCache.Text.Utf8

/-! # Reading back what was encoded

A text is read back from its UTF-8 bytes, also by the reading that never fails.

## Key results

- `bytes_ofList`: the bytes of a text are those of its characters
- `lossy_bytes`: the reading that never fails loses nothing of a text
-/

namespace BearerCache.Text

/-! ## The bytes of a text -/

/-- The bytes of a text are those of its characters, one after the other. -/
theorem bytes_ofList (cs : List Char) :
    bytes (String.ofList cs) = cs.flatMap String.utf8EncodeChar := by
  simp [bytes, List.utf8Encode]

/-- A character of ASCII is one byte. -/
theorem utf8EncodeChar_of_ascii {c : Char} (h : c.toNat < 0x80) :
    String.utf8EncodeChar c = [UInt8.ofNat c.toNat] := by
  have hc : c.val.toNat ≤ 0x7F := Nat.le_of_lt_succ h
  rw [String.utf8EncodeChar, if_pos hc]
  rfl

/-- The bytes of a character beyond ASCII are all beyond ASCII. -/
theorem le_of_mem_utf8EncodeChar {c : Char} (h : 0x80 ≤ c.toNat) :
    ∀ b ∈ String.utf8EncodeChar c, 0x80 ≤ b.toNat := by
  -- The leading byte and those that continue have their highest bit set.
  have hwide {n : Nat} (hn : 0x80 ≤ n) (hlt : n < 0x100) : 0x80 ≤ (UInt8.ofNat n).toNat := by
    rwa [UInt8.toNat_ofNat_of_lt' hlt]
  have hcontinues (n : Nat) : 0x80 ≤ (UInt8.ofNat (n % 64 + 128)).toNat :=
    hwide (by omega) (by omega)
  unfold String.utf8EncodeChar
  dsimp only
  split
  next hle => exact absurd (Nat.le_trans h hle) (by decide)
  split
  next =>
    simp only [List.forall_mem_cons]
    exact ⟨hwide (by omega) (by omega), hcontinues _, by simp⟩
  split
  next =>
    simp only [List.forall_mem_cons]
    exact ⟨hwide (by omega) (by omega), hcontinues _, hcontinues _, by simp⟩
  next =>
    simp only [List.forall_mem_cons]
    exact ⟨hwide (by omega) (by omega), hcontinues _, hcontinues _, hcontinues _, by simp⟩

/-- A byte of ASCII is a character of the text by itself. -/
theorem exists_of_mem_flatMap_encodeChar {b : UInt8} {cs : List Char} (hb : b.toNat < 0x80)
    (h : b ∈ cs.flatMap String.utf8EncodeChar) : ∃ c ∈ cs, c.toNat = b.toNat := by
  obtain ⟨c, hc, hmem⟩ := List.mem_flatMap.mp h
  have hascii : c.toNat < 0x80 := Nat.lt_of_not_le fun hle =>
    Nat.not_le.mpr hb (le_of_mem_utf8EncodeChar hle b hmem)
  rw [utf8EncodeChar_of_ascii hascii, List.mem_singleton] at hmem
  refine ⟨c, hc, ?_⟩
  rw [hmem, UInt8.toNat_ofNat_of_lt' (Nat.lt_of_lt_of_le hascii (by decide))]

/-! ## Lead bytes -/

private theorem leadShape_two {b : UInt8} (h : 0xC2 ≤ b.toNat) (h' : b.toNat ≤ 0xDF) :
    leadShape b = some (1, 0x80, 0xBF) := by
  simp only [leadShape, UInt8.le_iff_toNat_le, UInt8.reduceToNat, Bool.and_eq_true,
    decide_eq_true_eq]
  rw [if_pos ⟨h, h'⟩]

private theorem leadShape_three {b : UInt8} (h : 0xE0 ≤ b.toNat) (h' : b.toNat ≤ 0xEF) :
    leadShape b =
      some (2, if b.toNat = 0xE0 then 0xA0 else 0x80, if b.toNat = 0xED then 0x9F else 0xBF) := by
  simp only [leadShape, UInt8.le_iff_toNat_le, ← UInt8.toNat_inj, UInt8.reduceToNat, beq_iff_eq,
    Bool.and_eq_true, decide_eq_true_eq]
  repeat' split
  all_goals first | rfl | omega

private theorem leadShape_four {b : UInt8} (h : 0xF0 ≤ b.toNat) (h' : b.toNat ≤ 0xF4) :
    leadShape b =
      some (3, if b.toNat = 0xF0 then 0x90 else 0x80, if b.toNat = 0xF4 then 0x8F else 0xBF) := by
  simp only [leadShape, UInt8.le_iff_toNat_le, ← UInt8.toNat_inj, UInt8.reduceToNat, beq_iff_eq,
    Bool.and_eq_true, decide_eq_true_eq]
  repeat' split
  all_goals first | rfl | omega

/-- What is read from a lead byte on. -/
private theorem lossyChars_lead {b lo hi : UInt8} {n : Nat} {rest : List UInt8}
    (hb : 0x80 ≤ b.toNat) (hshape : leadShape b = some (n, lo, hi)) :
    lossyChars (b :: rest) =
      ((continuation (leadBits n b) lo hi n rest).1.map Char.ofNat).getD '\uFFFD' ::
        lossyChars (continuation (leadBits n b) lo hi n rest).2 := by
  rw [lossyChars, if_neg, hshape]
  simpa [UInt8.lt_iff_toNat_lt] using hb

private theorem toNat_ofNat {n : Nat} (h : n < 256) : (UInt8.ofNat n).toNat = n := by
  simp [Nat.mod_eq_of_lt h]

/-- A continuation byte that fits adds its six bits. -/
private theorem continuation_cons {acc n k : Nat} {lo hi : UInt8} {rest : List UInt8}
    (hk : k < 64) (hlo : lo.toNat ≤ k + 128) (hhi : k + 128 ≤ hi.toNat) :
    continuation acc lo hi (n + 1) (UInt8.ofNat (k + 128) :: rest) =
      continuation (acc * 64 + k) 0x80 0xBF n rest := by
  have hb : (UInt8.ofNat (k + 128)).toNat = k + 128 := toNat_ofNat (by omega)
  rw [continuation, if_pos]
  · rw [hb, show (k + 128) % 64 = k by omega]
  · simp only [UInt8.le_iff_toNat_le, hb, Bool.and_eq_true, decide_eq_true_eq]
    exact ⟨hlo, hhi⟩

/-- Every continuation byte but the first may have any six bits. -/
private theorem continuation_tail {acc n k : Nat} {rest : List UInt8} (hk : k < 64) :
    continuation acc 0x80 0xBF (n + 1) (UInt8.ofNat (k + 128) :: rest) =
      continuation (acc * 64 + k) 0x80 0xBF n rest :=
  continuation_cons hk (Nat.le_add_left _ _) (by simp; omega)

/-! ## Reading back -/

/-- Two bytes stand for the code that was divided among them. -/
private theorem lossyChars_two {v : Nat} {rest : List UInt8} (h : 0x80 ≤ v) (h' : v < 0x800) :
    lossyChars (UInt8.ofNat (v / 64 % 32 + 192) :: UInt8.ofNat (v % 64 + 128) :: rest) =
      Char.ofNat v :: lossyChars rest := by
  have hlead : (UInt8.ofNat (v / 64 % 32 + 192)).toNat = v / 64 % 32 + 192 :=
    toNat_ofNat (by omega)
  rw [lossyChars_lead (by omega) (leadShape_two (by omega) (by omega)),
    continuation_tail (by omega), continuation]
  simp only [leadBits, hlead, Nat.pow_eq, Nat.reduceSub, Nat.reducePow, Option.map_some,
    Option.getD_some]
  rw [show (v / 64 % 32 + 192) % 32 * 64 + v % 64 = v by omega]

/-- Three bytes stand for the code that was divided among them.  Codes that are no characters
are not written, so the second byte fits. -/
private theorem lossyChars_three {v : Nat} {rest : List UInt8} (h : 0x800 ≤ v)
    (h' : v < 0x10000) (hvalid : v < 0xD800 ∨ 0xDFFF < v) :
    lossyChars (UInt8.ofNat (v / 4096 % 16 + 224) :: UInt8.ofNat (v / 64 % 64 + 128) ::
        UInt8.ofNat (v % 64 + 128) :: rest) = Char.ofNat v :: lossyChars rest := by
  have hlead : (UInt8.ofNat (v / 4096 % 16 + 224)).toNat = v / 4096 % 16 + 224 :=
    toNat_ofNat (by omega)
  rw [lossyChars_lead (by omega) (leadShape_three (by omega) (by omega)),
    continuation_cons (by omega) (by split <;> simp; omega) (by split <;> simp <;> omega),
    continuation_tail (by omega), continuation]
  simp only [leadBits, hlead, Nat.pow_eq, Nat.reduceSub, Nat.reducePow, Option.map_some,
    Option.getD_some]
  rw [show ((v / 4096 % 16 + 224) % 16 * 64 + v / 64 % 64) * 64 + v % 64 = v by omega]

/-- Four bytes stand for the code that was divided among them. -/
private theorem lossyChars_four {v : Nat} {rest : List UInt8} (h : 0x10000 ≤ v)
    (h' : v < 0x110000) :
    lossyChars (UInt8.ofNat (v / 262144 % 8 + 240) :: UInt8.ofNat (v / 4096 % 64 + 128) ::
        UInt8.ofNat (v / 64 % 64 + 128) :: UInt8.ofNat (v % 64 + 128) :: rest) =
      Char.ofNat v :: lossyChars rest := by
  -- The leading byte tells that three more follow, and all their bits make the number again.
  have hlead : (UInt8.ofNat (v / 262144 % 8 + 240)).toNat = v / 262144 % 8 + 240 :=
    toNat_ofNat (by omega)
  rw [lossyChars_lead (by omega) (leadShape_four (by omega) (by omega)),
    continuation_cons (by omega) (by split <;> simp; omega) (by split <;> simp <;> omega),
    continuation_tail (by omega), continuation_tail (by omega), continuation]
  simp only [leadBits, hlead, Nat.pow_eq, Nat.reduceSub, Nat.reducePow, Option.map_some,
    Option.getD_some]
  rw [show (((v / 262144 % 8 + 240) % 8 * 64 + v / 4096 % 64) * 64 +
    v / 64 % 64) * 64 + v % 64 = v by omega]

/-- The first character of an encoding is read back. -/
theorem lossyChars_encodeChar (c : Char) (rest : List UInt8) :
    lossyChars (String.utf8EncodeChar c ++ rest) = c :: lossyChars rest := by
  -- As many bytes as the number needs; each case has its lemma.
  have hvalid : c.val.toNat < 0xD800 ∨ (0xDFFF < c.val.toNat ∧ c.val.toNat < 0x110000) := c.valid
  have hc : Char.ofNat c.val.toNat = c := Char.ofNat_toNat c
  generalize hv : c.val.toNat = v at hvalid hc
  subst hc
  simp only [String.utf8EncodeChar, hv]
  split
  next h =>
    rw [List.cons_append, List.nil_append, lossyChars, toNat_ofNat (by omega), if_pos]
    simp [UInt8.lt_iff_toNat_lt]
    omega
  split
  next => exact lossyChars_two (by omega) (by omega)
  split
  next => exact lossyChars_three (by omega) (by omega) (by omega)
  next => exact lossyChars_four (by omega) (by omega)

private theorem lossyChars_flatMap (cs : List Char) :
    lossyChars (cs.flatMap String.utf8EncodeChar) = cs := by
  induction cs with
  | nil => rw [List.flatMap_nil, lossyChars]
  | cons c cs ih => rw [List.flatMap_cons, lossyChars_encodeChar, ih]

/-- The reading that never fails loses nothing of a text. -/
@[simp] theorem lossy_bytes (s : String) : lossy (bytes s) = s := by
  have h := bytes_ofList s.toList
  rw [String.ofList_toList] at h
  rw [lossy, h, lossyChars_flatMap, String.ofList_toList]

end BearerCache.Text
