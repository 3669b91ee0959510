import BearerCache.Proofs.TextParts
import BearerCache.Proofs.Utf8
import BearerCache.Text.Form

/-! # Form encoding is read back

Every list of pairs is read back from its form encoding, whatever characters are in it: each
byte of a name or a value is written so that neither `&` nor `=` appears, so the parts are
found again, and each part is decoded byte by byte.

## Key results

- `decodeBytes_encodeChars`: what is written for a text decodes to its bytes
- `decode_encode`: a form decodes to the pairs that were written
-/

namespace BearerCache.Text.Form

/-! ## Written characters -/

/-- The bytes of characters that are all ASCII. -/
def asciiBytes (cs : List Char) : List UInt8 :=
  cs.map fun c => UInt8.ofNat c.toNat

@[simp] theorem asciiBytes_append (cs ds : List Char) :
    asciiBytes (cs ++ ds) = asciiBytes cs ++ asciiBytes ds := List.map_append

theorem bytes_ofList_of_ascii {cs : List Char} (h : ∀ c ∈ cs, c.toNat < 0x80) :
    bytes (String.ofList cs) = asciiBytes cs := by
  rw [bytes_ofList]
  -- On the text, each character of which is one byte.
  induction cs with
  | nil => rfl
  | cons c cs ih =>
    rw [List.flatMap_cons, utf8EncodeChar_of_ascii (h c List.mem_cons_self),
      ih fun d hd => h d (List.mem_cons_of_mem _ hd)]
    rfl

/-- A character that is written for a byte is ASCII, and neither `&` nor `=`. -/
def IsWritten (c : Char) : Prop :=
  c.toNat < 0x80 ∧ c.toNat ≠ 0x26 ∧ c.toNat ≠ 0x3D

private theorem isWritten_hexUpper : ∀ n : Fin 16, IsWritten (hexUpper n.val) := by
  unfold IsWritten
  decide

private theorem isPlain_bounds {b : UInt8} (h : isPlain b) :
    b.toNat < 0x80 ∧ b.toNat ≠ 0x25 ∧ b.toNat ≠ 0x26 ∧ b.toNat ≠ 0x2B ∧ b.toNat ≠ 0x3D := by
  simp only [isPlain, Bool.or_eq_true, Bool.and_eq_true, decide_eq_true_eq, beq_iff_eq,
    UInt8.le_iff_toNat_le, ← UInt8.toNat_inj, UInt8.reduceToNat] at h
  omega

theorem toNat_charOfNat {n : Nat} (h : n < 0x100) : (Char.ofNat n).toNat = n := by
  have hvalid : n.isValidChar := .inl (by omega)
  rw [Char.ofNat, dif_pos hvalid]
  rfl

theorem isWritten_of_mem_encodeByte {b : UInt8} {c : Char} (h : c ∈ encodeByte b) :
    IsWritten c := by
  have hb : b.toNat < 256 := b.toNat_lt
  -- A byte is written as it is, as `+`, or as `%` and two digits.
  unfold encodeByte at h
  split at h
  next hplain =>
    have hbounds := isPlain_bounds hplain
    rw [List.mem_singleton.mp h, IsWritten, toNat_charOfNat b.toNat_lt]
    omega
  split at h
  next => rw [List.mem_singleton.mp h]; exact ⟨by decide, by decide, by decide⟩
  next =>
    simp only [List.mem_cons, List.not_mem_nil, or_false] at h
    rcases h with rfl | rfl | rfl
    · exact ⟨by decide, by decide, by decide⟩
    · exact isWritten_hexUpper ⟨b.toNat / 16, by omega⟩
    · exact isWritten_hexUpper ⟨b.toNat % 16, by omega⟩

theorem isWritten_of_mem_encodeChars {s : String} {c : Char} (h : c ∈ encodeChars s) :
    IsWritten c := by
  obtain ⟨b, -, hc⟩ := List.mem_flatMap.mp h
  exact isWritten_of_mem_encodeByte hc

/-! ## Reading names and values -/

private theorem decodeBytes_cons {b : UInt8} (hpercent : b.toNat ≠ 0x25) (hplus : b.toNat ≠ 0x2B)
    (rest : List UInt8) : decodeBytes (b :: rest) = b :: decodeBytes rest := by
  rw [decodeBytes]
  · rintro rfl
    exact hplus rfl
  · rintro high low rest rfl -
    exact hpercent rfl

private theorem decodeBytes_escape {high low : UInt8} {h l : Nat}
    (hhigh : hexValue? high.toNat = some h) (hlow : hexValue? low.toNat = some l)
    (rest : List UInt8) :
    decodeBytes (0x25 :: high :: low :: rest) = UInt8.ofNat (h * 16 + l) :: decodeBytes rest := by
  rw [decodeBytes, hhigh, hlow]

/-- What is written for a byte decodes to it. -/
theorem decodeBytes_encodeByte (b : UInt8) (rest : List UInt8) :
    decodeBytes (asciiBytes (encodeByte b) ++ rest) = b :: decodeBytes rest := by
  have hb : b.toNat < 256 := b.toNat_lt
  -- The same three ways back: a plain byte is neither `%` nor `+`, and the two digits give the
  -- byte.
  unfold encodeByte
  split
  next hplain =>
    have hbounds := isPlain_bounds hplain
    simp only [asciiBytes, List.map_cons, List.map_nil, List.cons_append, List.nil_append,
      toNat_charOfNat b.toNat_lt, UInt8.ofNat_toNat]
    exact decodeBytes_cons hbounds.2.1 hbounds.2.2.2.1 rest
  split
  next hspace => rw [beq_iff_eq.mp hspace]; rfl
  next =>
    have hhigh := hexValue?_hexUpper ⟨b.toNat / 16, by omega⟩
    have hlow := hexValue?_hexUpper ⟨b.toNat % 16, by omega⟩
    have hdigit (n : Fin 16) :
        (UInt8.ofNat (hexUpper n.val).toNat).toNat = (hexUpper n.val).toNat := by
      have hascii := (isWritten_hexUpper n).1
      simp only [UInt8.toNat_ofNat']
      omega
    rw [← hdigit] at hhigh hlow
    have hsplit : b.toNat / 16 * 16 + b.toNat % 16 = b.toNat := by omega
    have hread := decodeBytes_escape hhigh hlow rest
    rw [hsplit, UInt8.ofNat_toNat] at hread
    exact hread

/-- What is written for a text decodes to its bytes. -/
theorem decodeBytes_encodeChars (s : String) :
    decodeBytes (asciiBytes (encodeChars s)) = bytes s := by
  unfold encodeChars
  induction bytes s with
  | nil => rfl
  | cons b bs ih => rw [List.flatMap_cons, asciiBytes_append, decodeBytes_encodeByte, ih]

/-! ## Finding the parts -/

/-- No byte that is written for a text is one that divides parts. -/
private theorem not_mem_asciiBytes {cs : List Char} (h : ∀ c ∈ cs, IsWritten c) :
    0x26 ∉ asciiBytes cs ∧ 0x3D ∉ asciiBytes cs := by
  simp only [asciiBytes, List.mem_map, not_exists, not_and]
  refine ⟨fun c hc heq => ?_, fun c hc heq => ?_⟩ <;>
  · have hwritten := h c hc
    have hnat := congrArg UInt8.toNat heq
    simp only [UInt8.toNat_ofNat', UInt8.reduceToNat] at hnat
    unfold IsWritten at hwritten
    omega

/-- The written form of a pair holds no `&`. -/
private theorem not_mem_encodePair (pair : String × String) :
    0x26 ∉ asciiBytes (encodePair pair) := by
  have hname := (not_mem_asciiBytes fun c => isWritten_of_mem_encodeChars (s := pair.1)).1
  have hvalue := (not_mem_asciiBytes fun c => isWritten_of_mem_encodeChars (s := pair.2)).1
  simp only [encodePair, asciiBytes_append, List.mem_append, not_or]
  exact ⟨hname, List.not_mem_cons_of_ne_of_not_mem (by decide) hvalue⟩

/-- The bytes of pairs with `&` between them are those of the pairs with its byte between them. -/
private theorem asciiBytes_intercalate (parts : List (List Char)) :
    asciiBytes (['&'].intercalate parts) = [0x26].intercalate (parts.map asciiBytes) := by
  -- On the parts, the last of which has no separator behind it.
  induction parts with
  | nil => rfl
  | cons part rest ih =>
    cases rest with
    | nil => rw [List.map_singleton, List.intercalate_singleton, List.intercalate_singleton]
    | cons next rest =>
      rw [List.map_cons] at ih
      rw [List.intercalate_cons_cons, asciiBytes_append, asciiBytes_append, ih, List.map_cons,
        List.map_cons, List.intercalate_cons_cons]
      rfl

/-- The parts of a form that was written are its pairs. -/
private theorem splitOn_intercalate (pair : String × String) (pairs : List (String × String)) :
    (asciiBytes (['&'].intercalate ((pair :: pairs).map encodePair))).splitOn 0x26 =
      (pair :: pairs).map fun p => asciiBytes (encodePair p) := by
  rw [asciiBytes_intercalate, List.splitOn_intercalate, List.map_map]
  · rfl
  · intro part hpart
    obtain ⟨_, hwritten, rfl⟩ := List.mem_map.mp hpart
    obtain ⟨p, -, rfl⟩ := List.mem_map.mp hwritten
    exact not_mem_encodePair p
  · simp

/-- What is written for a pair decodes to it. -/
private theorem decodePair_encodePair (pair : String × String) :
    decodePair (asciiBytes (encodePair pair)) = pair := by
  -- The name is written without an equals sign, so it ends at the first.
  have hname : ∀ b ∈ asciiBytes (encodeChars pair.1), (b != 0x3D) = true := by
    have hnone := (not_mem_asciiBytes fun c => isWritten_of_mem_encodeChars (s := pair.1)).2
    intro b hb
    simpa using fun heq : b = 0x3D => hnone (heq ▸ hb)
  have hbytes : asciiBytes (encodePair pair) =
      asciiBytes (encodeChars pair.1) ++ 0x3D :: asciiBytes (encodeChars pair.2) := by
    rw [encodePair, asciiBytes_append]
    rfl
  rw [hbytes, decodePair, List.takeWhile_append_of_pos hname, List.dropWhile_append_of_pos hname]
  simp [decodeBytes_encodeChars]

/-! ## The whole form -/

private theorem toNat_lt_of_mem_encodePair {pair : String × String} {c : Char}
    (h : c ∈ encodePair pair) : c.toNat < 0x80 := by
  rcases List.mem_append.mp h with hname | hvalue
  · exact (isWritten_of_mem_encodeChars hname).1
  · rcases List.mem_cons.mp hvalue with rfl | hvalue
    · decide
    · exact (isWritten_of_mem_encodeChars hvalue).1

/-- All characters of a form are ASCII. -/
private theorem toNat_lt_of_mem_intercalate {pairs : List (String × String)} {c : Char}
    (h : c ∈ ['&'].intercalate (pairs.map encodePair)) : c.toNat < 0x80 := by
  rcases mem_intercalate h with hsep | ⟨part, hpart, hc⟩
  · rw [List.mem_singleton.mp hsep]
    decide
  · obtain ⟨pair, -, rfl⟩ := List.mem_map.mp hpart
    exact toNat_lt_of_mem_encodePair hc

/-- A form decodes to the pairs that were written, in their order. -/
theorem decode_encode (pairs : List (String × String)) : decode (encode pairs) = pairs := by
  rw [encode, decode, bytes_ofList_of_ascii fun c => toNat_lt_of_mem_intercalate]
  cases pairs with
  | nil => rfl
  | cons pair pairs =>
    -- A pair is written with an equals sign at least, so no part is left out as empty.
    have hnonempty : ∀ part ∈ (pair :: pairs).map fun p => asciiBytes (encodePair p),
        (!part.isEmpty) = true := by
      intro part hpart
      obtain ⟨p, -, rfl⟩ := List.mem_map.mp hpart
      simp [encodePair, asciiBytes]
    rw [splitOn_intercalate, List.filter_eq_self.mpr hnonempty, List.map_map]
    exact List.map_id'' decodePair_encodePair _

end BearerCache.Text.Form
