import BearerCache.Proofs.JsonGrammar

/-! # Strings are taken up to their closing quote

The two scanners of strings take just what the grammar has for one: the scanner of texts a body
that stands for something, and the one that passes over a string any body.  For each there is one
lemma that what it takes is a body, and one that it takes every body.

## Key results

- `exists_of_stringText`, `stringText_of_spells`: strings that are read as a text
- `exists_of_skipString`, `IsBody.skipString`: strings that are passed over
-/

namespace BearerCache.Json

variable {bs rest out e c body digits : List UInt8} {n : Nat}

/-! ## Escapes -/

theorem FourHex.fourHex (h : FourHex digits n) (rest : List UInt8) :
    fourHex (digits ++ rest) = .ok (n, rest) := by
  obtain ⟨ha, hb, hc, hd⟩ := h
  simp only [List.cons_append, List.nil_append, Json.fourHex, ha, hb, hc, hd]

theorem exists_of_fourHex (h : fourHex bs = .ok (n, rest)) :
    ∃ digits, bs = digits ++ rest ∧ FourHex digits n := by
  unfold fourHex at h
  split at h
  next =>
    split at h
    next ha hb hc hd =>
      cases h
      exact ⟨_, rfl, .mk ha hb hc hd⟩
    next => cases h
  next => cases h

/-- An escape is taken as a whole. -/
theorem Escape.escape (h : Escape e c) (rest : List UInt8) :
    escape (e ++ rest) = .ok (c, rest) := by
  -- The three forms of an escape: a letter, a code point, or two surrogates.
  cases h with
  | letter h =>
    simp only [letters, List.mem_cons, Prod.mk.injEq, List.not_mem_nil, or_false] at h
    rcases h with ⟨rfl, rfl⟩ | ⟨rfl, rfl⟩ | ⟨rfl, rfl⟩ | ⟨rfl, rfl⟩ | ⟨rfl, rfl⟩ | ⟨rfl, rfl⟩ |
      ⟨rfl, rfl⟩ | ⟨rfl, rfl⟩ <;> rfl
  | @code digits n h hn =>
    show unicodeEscape (digits ++ rest) = _
    rw [unicodeEscape, h.fourHex]
    simp only
    rw [if_neg (by omega), if_pos (by omega)]
  | @pair digits digits' high low h hhigh h' hlow =>
    show unicodeEscape (digits ++ 0x5C :: 0x75 :: digits' ++ rest) = _
    rw [List.append_assoc, unicodeEscape, h.fourHex]
    simp only
    rw [if_neg (by omega), if_neg (by omega), List.cons_append, List.cons_append, secondSurrogate,
      if_pos rfl]
    simp only [if_true, h'.fourHex]
    rw [if_neg (by omega)]

/-- What is taken for a second surrogate is an escape of one. -/
private theorem exists_of_secondSurrogate {high : Nat}
    (h : secondSurrogate high bs = .ok (c, rest)) :
    ∃ digits low, bs = 0x5C :: 0x75 :: (digits ++ rest) ∧ FourHex digits low ∧
      (0xDC00 ≤ low ∧ low ≤ 0xDFFF) ∧
      c = codePointBytes ((high - 0xD800) * 0x400 + (low - 0xDC00) + 0x10000) := by
  -- It has to be another escape of a code point, and that one a low surrogate.
  unfold secondSurrogate at h
  split at h
  next => cases h
  next a bs =>
    split at h
    next hslash =>
      split at h
      next => cases h
      next b bs =>
        split at h
        next hu =>
          split at h
          next => cases h
          next low rest' hfour =>
            obtain ⟨digits, rfl, hdigits⟩ := exists_of_fourHex hfour
            split at h
            next => cases h
            next hlow =>
              obtain ⟨rfl, rfl⟩ := Prod.mk.inj (Except.ok.inj h)
              rw [hslash, hu]
              exact ⟨digits, low, rfl, hdigits, by omega, rfl⟩
        next => cases h
    next => cases h

/-- What is taken behind the letter of a code is an escape. -/
private theorem exists_of_unicodeEscape (h : unicodeEscape bs = .ok (c, rest)) :
    ∃ e, bs = e ++ rest ∧ Escape (0x75 :: e) c := by
  unfold unicodeEscape at h
  split at h
  next => cases h
  next high after hfour =>
    obtain ⟨digits, rfl, hdigits⟩ := exists_of_fourHex hfour
    -- A low surrogate alone is refused, and only a high one needs another behind it.
    split at h
    next => cases h
    next hnotLow =>
      split at h
      next hcode =>
        obtain ⟨rfl, rfl⟩ := Prod.mk.inj (Except.ok.inj h)
        exact ⟨digits, rfl, .code hdigits (by omega)⟩
      next hhigh =>
        obtain ⟨digits', low, rfl, hdigits', hlow, hc⟩ := exists_of_secondSurrogate h
        refine ⟨digits ++ 0x5C :: 0x75 :: digits', by simp, ?_⟩
        rw [hc]
        exact .pair hdigits (by omega) hdigits' hlow

/-- What is taken behind a backslash is an escape. -/
theorem exists_of_escape (h : escape bs = .ok (c, rest)) :
    ∃ e, bs = e ++ rest ∧ Escape e c := by
  -- All the escapes of one letter are in the table.
  have hletter {b d : UInt8} {bs : List UInt8} (hmem : (b, d) ∈ letters)
      (h : (.ok ([d], bs) : Scan (List UInt8)) = .ok (c, rest)) :
      ∃ e, b :: bs = e ++ rest ∧ Escape e c := by
    cases h
    exact ⟨[b], rfl, .letter hmem⟩
  unfold escape at h
  split at h
  next => cases h
  next b bs =>
    split at h
    next hb => rcases hb with rfl | rfl | rfl <;> exact hletter (by decide) h
    split at h
    next hb => exact hletter (hb ▸ by decide) h
    split at h
    next hb => exact hletter (hb ▸ by decide) h
    split at h
    next hb => exact hletter (hb ▸ by decide) h
    split at h
    next hb => exact hletter (hb ▸ by decide) h
    split at h
    next hb => exact hletter (hb ▸ by decide) h
    split at h
    next hb =>
      obtain ⟨e, rfl, he⟩ := exists_of_unicodeEscape h
      exact ⟨b :: e, rfl, hb ▸ he⟩
    next => cases h

/-! ## Strings that are read -/

/-- A string is read up to its closing quote. -/
theorem Spells.stringBytes (h : Spells body out) (rest : List UInt8) :
    stringBytes (body ++ 0x22 :: rest) = .ok (out, rest) := by
  -- On the parts of the body, bytes that stand for themselves and escapes.
  induction h with
  | nil => rw [List.nil_append, Json.stringBytes, if_pos rfl]
  | plain hb _ ih => exact stringBytes_cons hb ih
  | escape he _ ih =>
    rw [List.cons_append, List.append_assoc]
    exact stringBytes_escape (he.escape _) ih

/-- What is read of a string stands before a closing quote, and the bytes are what it stands
for. -/
theorem exists_of_stringBytes (h : stringBytes bs = .ok (out, rest)) :
    ∃ body, bs = body ++ 0x22 :: rest ∧ Spells body out := by
  -- Along the recursion: the quotation mark ends the text, an escape or a plain byte is one more
  -- piece.
  fun_induction stringBytes bs generalizing out rest with
  | case1 => cases h
  | case2 rest' =>
    cases h
    exact ⟨[], rfl, .nil⟩
  | case3 => cases h
  | case4 => cases h
  | case5 rest' taken more hescape tail after htail _ ih =>
    cases h
    obtain ⟨e, rfl, he⟩ := exists_of_escape hescape
    obtain ⟨body, rfl, hbody⟩ := ih htail
    exact ⟨0x5C :: (e ++ body), by simp, .escape he hbody⟩
  | case6 => cases h
  | case7 => cases h
  | case8 b rest' hquote hslash hcontrol tail after htail ih =>
    cases h
    obtain ⟨body, rfl, hbody⟩ := ih htail
    exact ⟨b :: body, rfl, .plain ⟨hquote, hslash, hcontrol⟩ hbody⟩

/-- A string that stands for a text is read as the text. -/
theorem stringText_of_spells {name : String} (h : Spells body (Text.bytes name))
    (rest : List UInt8) : stringText (body ++ 0x22 :: rest) = .ok (name, rest) := by
  have htext : String.fromUTF8? ⟨(Text.bytes name).toArray⟩ = some name := Text.ofBytes?_bytes name
  simp only [stringText, h.stringBytes, htext]

/-- A string that is read as a text stands for it. -/
theorem exists_of_stringText {name : String} (h : stringText bs = .ok (name, rest)) :
    ∃ body, bs = body ++ 0x22 :: rest ∧ Spells body (Text.bytes name) := by
  unfold stringText at h
  split at h
  next => cases h
  next out rest' hout =>
    split at h
    next name' htext =>
      cases h
      rw [Text.bytes_of_ofBytes? htext]
      exact exists_of_stringBytes hout
    next => cases h

/-! ## Strings that are passed over -/

/-- A string is passed over up to its closing quote. -/
theorem IsBody.skipString (h : IsBody body) (rest : List UInt8) :
    skipString (body ++ 0x22 :: rest) = .ok rest := by
  -- On the body; each of its pieces is passed over in the way of its first byte.
  induction h with
  | nil =>
    rw [List.nil_append, Json.skipString.eq_def]
    rfl
  | plain hb _ ih =>
    rw [List.cons_append, Json.skipString.eq_def]
    simp only [if_neg hb.1, if_neg hb.2.1, if_neg hb.2.2, ih]
  | @letter b body hb _ ih =>
    have hletter : b = 0x22 ∨ b = 0x5C ∨ b = 0x2F ∨ b = 0x62 ∨ b = 0x66 ∨ b = 0x6E ∨ b = 0x72 ∨
        b = 0x74 := by
      simpa only [letters, List.map_cons, List.map_nil, List.mem_cons, List.not_mem_nil,
        or_false] using hb
    have hu : b ≠ 0x75 := by
      rintro rfl
      exact absurd hb (by decide)
    rw [List.cons_append, List.cons_append, Json.skipString.eq_def]
    simp only
    rw [if_neg (by decide), if_pos trivial, if_neg hu, if_pos hletter, ih]
  | @code digits body n hdigits _ ih =>
    rw [List.cons_append, List.cons_append, List.append_assoc, Json.skipString.eq_def]
    simp only
    rw [if_neg (by decide), if_pos trivial, if_pos trivial]
    split
    next fault hfault => cases hfault.symm.trans (hdigits.fourHex _)
    next n' after hafter =>
      cases hafter.symm.trans (hdigits.fourHex _)
      exact ih

/-- What is passed over as a string has the shape of one. -/
theorem exists_of_skipString (h : skipString bs = .ok rest) :
    ∃ body, bs = body ++ 0x22 :: rest ∧ IsBody body := by
  -- Conversely the recursion of the scanner gives the body piece by piece.
  fun_induction skipString bs with
  | case1 => cases h
  | case2 rest' =>
    cases h
    exact ⟨[], rfl, .nil⟩
  | case3 => cases h
  | case4 => cases h
  | case5 rest' n after hfour _ ih =>
    obtain ⟨digits, rfl, hdigits⟩ := exists_of_fourHex hfour
    obtain ⟨body, rfl, hbody⟩ := ih h
    exact ⟨0x5C :: 0x75 :: (digits ++ body), by simp, .code hdigits hbody⟩
  | case6 b rest' hu hletter _ ih =>
    obtain ⟨body, rfl, hbody⟩ := ih h
    have hmem : b ∈ letters.map (·.1) := by
      rcases hletter with rfl | rfl | rfl | rfl | rfl | rfl | rfl | rfl <;> decide
    exact ⟨0x5C :: b :: body, rfl, .letter hmem hbody⟩
  | case7 => cases h
  | case8 => cases h
  | case9 b rest' hquote hslash hcontrol ih =>
    obtain ⟨body, rfl, hbody⟩ := ih h
    exact ⟨b :: body, rfl, .plain ⟨hquote, hslash, hcontrol⟩ hbody⟩

end BearerCache.Json
