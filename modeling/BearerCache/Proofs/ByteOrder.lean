import BearerCache.Proofs.Utf8

/-! # The order of texts and of their bytes

Texts are ordered by code points.  UTF-8 keeps that order: where two texts differ for the first
time, the bytes of the smaller character are smaller than those of the greater one, at the first
byte in which they differ.

## Key results

- `encodeChar_append_lt`: the bytes of a smaller character are smaller, whatever follows them
- `bytes_lt_bytes_iff`: texts and their bytes are in the same order
-/

namespace BearerCache.Text

/-- The bytes of a smaller character are smaller, whatever follows them. -/
theorem encodeChar_append_lt {c d : Char} (h : c < d) (xs ys : List UInt8) :
    String.utf8EncodeChar c ++ xs < String.utf8EncodeChar d ++ ys := by
  have hlt : c.val.toNat < d.val.toNat := h
  have hmax : d.val.toNat < 0x110000 := by
    have hvalid := d.valid
    simp only [UInt32.isValidChar, Nat.isValidChar] at hvalid
    omega
  have hbyte {m n : Nat} (hm : m < 256) (hn : n < 256) (us vs : List UInt8) :
      UInt8.ofNat m :: us < UInt8.ofNat n :: vs ↔ m < n ∨ m = n ∧ us < vs := by
    rw [List.cons_lt_cons_iff, UInt8.lt_iff_toNat_lt, ← UInt8.toNat_inj,
      UInt8.toNat_ofNat_of_lt' hm, UInt8.toNat_ofNat_of_lt' hn]
  -- A code point has four digits to base 64, and the first of them is at most 4.
  have hdigits {n : Nat} (hn : n < 0x110000) :
      n / 4096 = n / 64 / 64 ∧ n / 262144 % 8 = n / 64 / 64 / 64 := by omega
  obtain ⟨hc, hc'⟩ := hdigits (Nat.lt_trans hlt hmax)
  obtain ⟨hd, hd'⟩ := hdigits hmax
  -- Each number of bytes has first bytes of its own, so it is enough to compare the digits.
  unfold String.utf8EncodeChar
  dsimp only
  repeat' split
  all_goals
    simp (disch := omega) only [List.cons_append, List.nil_append, hbyte, hc, hc', hd, hd']
    omega

/-- The bytes of a smaller text are smaller. -/
theorem flatMap_encodeChar_lt {cs ds : List Char} (h : cs < ds) :
    cs.flatMap String.utf8EncodeChar < ds.flatMap String.utf8EncodeChar := by
  induction h with
  | @nil d ds =>
    obtain ⟨b, bs, hbytes⟩ := List.exists_cons_of_ne_nil (String.utf8EncodeChar_ne_nil (c := d))
    rw [List.flatMap_nil, List.flatMap_cons, hbytes, List.cons_append]
    exact List.nil_lt_cons b _
  | rel hlt =>
    rw [List.flatMap_cons, List.flatMap_cons]
    exact encodeChar_append_lt hlt _ _
  | cons _ ih =>
    rw [List.flatMap_cons, List.flatMap_cons]
    exact List.append_left_lt ih

/-- Texts and their bytes are in the same order. -/
theorem bytes_lt_bytes_iff {s t : String} : bytes s < bytes t ↔ s < t := by
  have hmono {s t : String} (h : s < t) : bytes s < bytes t := by
    have hbytes := flatMap_encodeChar_lt (String.lt_iff.mp h)
    rwa [← bytes_ofList, ← bytes_ofList, String.ofList_toList, String.ofList_toList] at hbytes
  refine ⟨fun h => Decidable.byContradiction fun hnot => ?_, hmono⟩
  -- Otherwise the texts are the same or the other way round, and so are their bytes.
  by_cases heq : s = t
  · rw [heq] at h
    exact List.lt_irrefl _ h
  · have hle : t ≤ s := String.not_lt.mp hnot
    have hlt : t < s := String.not_le.mp fun hge => heq (String.le_antisymm hge hle)
    exact List.lt_asymm h (hmono hlt)

end BearerCache.Text
