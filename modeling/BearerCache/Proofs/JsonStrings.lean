import BearerCache.Json.Value
import BearerCache.Proofs.Utf8

/-! # Strings in JSON are read back

A text is written with an escape for the quote, the backslash and the control characters.  Each
written character is read back as the bytes of the character, so the first quote that is not
escaped ends the text, and what is written behind it is left over.

## Key results

- `stringBytes_quote`: a text is read back from its written form, up to its closing quote
- `quote_append_injective`: the written form tells the text and what follows it
-/

namespace BearerCache.Json

/-- A byte that is taken into a text as it is. -/
def IsPlain (b : UInt8) : Prop :=
  b ≠ 0x22 ∧ b ≠ 0x5C ∧ ¬b < 0x20

/-! ## Single bytes and escapes -/

variable {bs rest out after : List UInt8}

theorem stringBytes_cons {b : UInt8} (hb : IsPlain b) (h : stringBytes rest = .ok (out, after)) :
    stringBytes (b :: rest) = .ok (b :: out, after) := by
  rw [stringBytes, if_neg hb.1, if_neg hb.2.1, if_neg hb.2.2, h]

theorem stringBytes_append (hbs : ∀ b ∈ bs, IsPlain b) (h : stringBytes rest = .ok (out, after)) :
    stringBytes (bs ++ rest) = .ok (bs ++ out, after) := by
  induction bs with
  | nil => exact h
  | cons b bs ih =>
    obtain ⟨hb, hbs⟩ := List.forall_mem_cons.mp hbs
    exact stringBytes_cons hb (ih hbs)

theorem stringBytes_escape {taken more : List UInt8} (hescape : escape more = .ok (taken, rest))
    (h : stringBytes rest = .ok (out, after)) :
    stringBytes (0x5C :: more) = .ok (taken ++ out, after) := by
  rw [stringBytes, if_neg (by decide), if_pos rfl]
  split
  next fault hfault => cases hescape.symm.trans hfault
  next taken' rest' hok =>
    cases hescape.symm.trans hok
    rw [h]

/-- A byte of a character that needs no escape is plain. -/
theorem isPlain_of_mem_encodeChar {c : Char} (hquote : c ≠ '"') (hslash : c ≠ '\\')
    (hcontrol : 0x20 ≤ c.toNat) : ∀ b ∈ String.utf8EncodeChar c, IsPlain b := by
  have hquote' : c.val.toNat ≠ 0x22 := fun heq => hquote (Char.toNat_inj.mp heq)
  have hslash' : c.val.toNat ≠ 0x5C := fun heq => hslash (Char.toNat_inj.mp heq)
  have hcontrol' : 0x20 ≤ c.val.toNat := hcontrol
  -- A byte below 0x80 is the character itself; the others are greater.
  have hplain : ∀ n : Nat, n < 256 → 0x20 ≤ n → n ≠ 0x22 → n ≠ 0x5C → IsPlain (UInt8.ofNat n) := by
    intro n hn hge hne hne'
    have htoNat : (UInt8.ofNat n).toNat = n := UInt8.toNat_ofNat_of_lt' hn
    refine ⟨fun heq => hne ?_, fun heq => hne' ?_, fun hlt => ?_⟩
    · rw [← htoNat, heq]
      rfl
    · rw [← htoNat, heq]
      rfl
    · rw [UInt8.lt_iff_toNat_lt, htoNat] at hlt
      exact absurd hge (Nat.not_le.mpr hlt)
  intro b hb
  -- By the number of bytes of the character; all but the first case have only bytes above 0x7F.
  simp only [String.utf8EncodeChar] at hb
  generalize c.val.toNat = v at *
  split at hb
  next =>
    simp only [List.mem_cons, List.not_mem_nil, or_false] at hb
    rw [hb]
    exact hplain v (by omega) hcontrol' hquote' hslash'
  split at hb
  next =>
    simp only [List.mem_cons, List.not_mem_nil, or_false] at hb
    rcases hb with rfl | rfl <;> exact hplain _ (by omega) (by omega) (by omega) (by omega)
  split at hb
  next =>
    simp only [List.mem_cons, List.not_mem_nil, or_false] at hb
    rcases hb with rfl | rfl | rfl <;> exact hplain _ (by omega) (by omega) (by omega) (by omega)
  next =>
    simp only [List.mem_cons, List.not_mem_nil, or_false] at hb
    rcases hb with rfl | rfl | rfl | rfl <;>
      exact hplain _ (by omega) (by omega) (by omega) (by omega)

/-- A hexadecimal digit is one byte, which has the value of the digit. -/
private theorem hexLower_byte : ∀ k : Fin 16,
    String.utf8EncodeChar (Text.hexLower k.val) = [UInt8.ofNat (Text.hexLower k.val).toNat] ∧
      Text.hexValue? (UInt8.ofNat (Text.hexLower k.val).toNat).toNat = some k.val := by
  decide

/-- The escape of a control character by its code. -/
theorem escape_control {n : Nat} (hn : n < 0x20) (rest : List UInt8) :
    escape (0x75 :: 0x30 :: 0x30 :: UInt8.ofNat (Text.hexLower (n / 16)).toNat ::
        UInt8.ofNat (Text.hexLower (n % 16)).toNat :: rest) =
      .ok (String.utf8EncodeChar (Char.ofNat n), rest) := by
  have hhigh := (hexLower_byte ⟨n / 16, by omega⟩).2
  have hlow := (hexLower_byte ⟨n % 16, by omega⟩).2
  -- The two zeros before it add nothing to the number.
  have hzero : Text.hexValue? (0x30 : UInt8).toNat = some 0 := by decide
  have hnumber : ((0 * 16 + 0) * 16 + n / 16) * 16 + n % 16 = n := by omega
  have hfour : fourHex (0x30 :: 0x30 :: UInt8.ofNat (Text.hexLower (n / 16)).toNat ::
      UInt8.ofNat (Text.hexLower (n % 16)).toNat :: rest) = .ok (n, rest) := by
    simp only [fourHex, hzero, hhigh, hlow, hnumber]
  have hunicode : unicodeEscape (0x30 :: 0x30 :: UInt8.ofNat (Text.hexLower (n / 16)).toNat ::
      UInt8.ofNat (Text.hexLower (n % 16)).toNat :: rest) = .ok (codePointBytes n, rest) := by
    simp only [unicodeEscape, hfour]
    rw [if_neg (by omega), if_pos (by omega)]
  exact hunicode

/-- What is written for a character is read back as the bytes of the character. -/
theorem stringBytes_escapeChar (c : Char) (h : stringBytes rest = .ok (out, after)) :
    stringBytes ((escapeChar c).flatMap String.utf8EncodeChar ++ rest) =
      .ok (String.utf8EncodeChar c ++ out, after) := by
  -- Seven characters have an escape of their own; of the others the control characters are written
  -- by their number, and the rest as they are.
  unfold escapeChar
  split
  next => exact stringBytes_escape rfl h
  next => exact stringBytes_escape rfl h
  next => exact stringBytes_escape rfl h
  next => exact stringBytes_escape rfl h
  next => exact stringBytes_escape rfl h
  next => exact stringBytes_escape rfl h
  next => exact stringBytes_escape rfl h
  next hquote hslash _ _ _ _ _ =>
    split
    next hcontrol =>
      have hhigh := (hexLower_byte ⟨c.toNat / 16, by omega⟩).1
      have hlow := (hexLower_byte ⟨c.toNat % 16, by omega⟩).1
      have hescape := escape_control hcontrol rest
      rw [Char.ofNat_toNat] at hescape
      have hbytes : ['\\', 'u', '0', '0', Text.hexLower (c.toNat / 16),
          Text.hexLower (c.toNat % 16)].flatMap String.utf8EncodeChar =
          [0x5C, 0x75, 0x30, 0x30, UInt8.ofNat (Text.hexLower (c.toNat / 16)).toNat,
            UInt8.ofNat (Text.hexLower (c.toNat % 16)).toNat] := by
        simp only [List.flatMap_cons, List.flatMap_nil, hhigh, hlow]
        rfl
      rw [hbytes]
      exact stringBytes_escape hescape h
    next hcontrol =>
      rw [List.flatMap_cons, List.flatMap_nil, List.append_nil]
      exact stringBytes_append (isPlain_of_mem_encodeChar hquote hslash (Nat.not_lt.mp hcontrol)) h

/-! ## Whole texts -/

/-- The characters of a text are read back from their written form. -/
theorem stringBytes_flatMap (cs : List Char) (rest : List UInt8) :
    stringBytes ((cs.flatMap escapeChar).flatMap String.utf8EncodeChar ++ 0x22 :: rest) =
      .ok (cs.flatMap String.utf8EncodeChar, rest) := by
  -- On the characters, each written and read back by itself.
  induction cs with
  | nil =>
    rw [List.flatMap_nil, List.flatMap_nil, List.nil_append, stringBytes, if_pos rfl]
  | cons c cs ih =>
    rw [List.flatMap_cons, List.flatMap_append, List.append_assoc, List.flatMap_cons]
    exact stringBytes_escapeChar c ih

/-- A text is read back from its written form, up to its closing quote. -/
theorem stringBytes_quote (s : String) (rest : List UInt8) :
    ∃ inner, (quote s).flatMap String.utf8EncodeChar ++ rest = 0x22 :: inner ∧
      stringBytes inner = .ok (Text.bytes s, rest) := by
  have hbytes := Text.bytes_ofList s.toList
  rw [String.ofList_toList] at hbytes
  refine ⟨_, ?_, hbytes ▸ stringBytes_flatMap s.toList rest⟩
  simp only [quote, List.cons_append, List.flatMap_cons, List.flatMap_append, List.flatMap_nil,
    List.append_assoc]
  rfl

/-- Texts with the same bytes are the same. -/
theorem bytes_injective {s t : String} (h : Text.bytes s = Text.bytes t) : s = t := by
  have hread := Text.ofBytes?_bytes s
  rw [h, Text.ofBytes?_bytes] at hread
  exact (Option.some.inj hread).symm

/-- The written form of a text tells the text and what follows it. -/
theorem quote_append_injective {s t : String} {cs ds : List Char}
    (h : quote s ++ cs = quote t ++ ds) : s = t ∧ cs = ds := by
  obtain ⟨inner, hs, hread⟩ := stringBytes_quote s (cs.flatMap String.utf8EncodeChar)
  obtain ⟨inner', ht, hread'⟩ := stringBytes_quote t (ds.flatMap String.utf8EncodeChar)
  rw [← List.flatMap_append, h, List.flatMap_append, ht] at hs
  cases hs
  obtain ⟨hbytes, hrest⟩ := Prod.mk.inj (Except.ok.inj (hread.symm.trans hread'))
  rw [← Text.bytes_ofList, ← Text.bytes_ofList] at hrest
  exact ⟨bytes_injective hbytes, String.ofList_injective (bytes_injective hrest)⟩

end BearerCache.Json
