import BearerCache.Proofs.TextParts
import BearerCache.Url.Host

/-! # What the text of a host is made of

The written form of a host never has a character with a meaning in addresses.  A name is read
only if it has none, and the Punycode of a label has the ASCII characters of the label, hyphens,
letters and digits; a number is written with digits, and with points or colons between them.

## Key results

- `Punycode.mem_encode`: what the Punycode of a label is made of
- `Domain.not_reserved_of_ascii?`: a name in ASCII has no reserved character
- `Host.not_mem_write`: no question mark is in the text of a host
-/

namespace BearerCache.Url

/-! ## Punycode -/

namespace Punycode

/-- A digit is a letter or a decimal digit. -/
theorem isAlphanum_digit : ∀ n < 36, (digit n).isAlphanum := by
  decide

/-- The digits of a step are digits. -/
theorem exists_digit_of_mem_digits {bias place delta : Nat} :
    ∀ c ∈ digits bias place delta, ∃ n < 36, c = digit n := by
  -- Along the recursion of `digits`: the threshold is at most 26, so what is written is below 36.
  fun_induction digits bias place delta with
  | case1 place delta t hlt =>
    have hbounds : t ≤ 26 := (threshold_bounds place bias).2
    intro c hc
    exact ⟨delta, by omega, List.mem_singleton.mp hc⟩
  | case2 place delta t hle ih =>
    have hbounds : t ≤ 26 := (threshold_bounds place bias).2
    intro c hc
    rcases List.mem_cons.mp hc with rfl | hc
    · have hmod : (delta - t) % (36 - t) < 36 - t := Nat.mod_lt _ (by omega)
      exact ⟨_, by omega, rfl⟩
    · exact ih c hc

variable {P : Char → Prop}

/-- Passing over a character writes nothing but digits. -/
theorem forall_output_passOver (hdigit : ∀ n < 36, P (digit n)) {plain n : Nat} {p : Progress}
    (h : ∀ c ∈ p.output, P c) (c : Char) : ∀ d ∈ (passOver plain n p c).output, P d := by
  unfold passOver
  -- A character adds digits only if its turn has come; otherwise the output stays as it is.
  split
  next => exact h
  split
  next =>
    intro d hd
    rcases List.mem_append.mp hd with hd | hd
    · exact h d hd
    · obtain ⟨m, hm, rfl⟩ := exists_digit_of_mem_digits d hd
      exact hdigit m hm
  next => exact h

theorem forall_output_foldl (hdigit : ∀ n < 36, P (digit n)) {plain n : Nat} (label : List Char)
    {p : Progress} (h : ∀ c ∈ p.output, P c) :
    ∀ d ∈ (label.foldl (passOver plain n) p).output, P d := by
  induction label generalizing p with
  | nil => exact h
  | cons c rest ih => exact ih (forall_output_passOver hdigit h c)

theorem forall_mem_writeCodes (hdigit : ∀ n < 36, P (digit n)) {label : List Char} {plain : Nat}
    (codes : List Nat) {n : Nat} {p : Progress} (h : ∀ c ∈ p.output, P c) :
    ∀ d ∈ writeCodes label plain codes n p, P d := by
  induction codes generalizing n p with
  | nil => exact h
  | cons code codes ih => exact ih (forall_output_foldl hdigit label h)

/-- The Punycode of a label has ASCII characters of the label, hyphens and digits. -/
theorem mem_encode {label : List Char} :
    ∀ c ∈ encode label,
      (c ∈ label ∧ c.toNat < 0x80) ∨ c = '-' ∨ ∃ n < 36, c = digit n := by
  -- A label keeps its ASCII characters, then a hyphen, then the digits of the others.
  refine forall_mem_writeCodes (fun n hn => .inr (.inr ⟨n, hn, rfl⟩)) _ fun c hc => ?_
  split at hc
  next => cases hc
  next =>
    rcases List.mem_append.mp hc with hc | hc
    · obtain ⟨hmem, hascii⟩ := List.mem_filter.mp hc
      exact .inl ⟨hmem, of_decide_eq_true hascii⟩
    · exact .inr (.inl (List.mem_singleton.mp hc))

end Punycode

/-! ## Names -/

namespace Domain

/-- A letter or a decimal digit is not reserved. -/
theorem isReserved_of_isAlphanum {c : Char} (h : c.isAlphanum) : isReserved c = false := by
  have hcode : ∀ n < 0x80, (Char.ofNat n).isAlphanum → isReserved (Char.ofNat n) = false := by
    decide
  have hlt : c.toNat < 0x80 := by
    delta Char.isAlphanum Char.isAlpha Char.isUpper Char.isLower Char.isDigit at h
    simp [UInt32.le_iff_toNat_le] at h
    omega
  have hc := hcode c.toNat hlt
  rw [Char.ofNat_toNat] at hc
  exact hc h

/-- What is read as a name has no reserved character. -/
theorem not_reserved_of_read? {cs text : List Char} (h : read? cs = some text) :
    ∀ c ∈ text, isReserved c = false := by
  have hplain := (Option.filter_eq_some_iff.mp h).2
  simpa using hplain

/-- When a label is brought to ASCII it gets hyphens, letters and digits, and keeps to its own
characters otherwise. -/
theorem forall_mem_ofMeaning {P : Char → Prop} (hmark : ∀ c ∈ ['x', 'n', '-'], P c)
    (hdigit : ∀ n < 36, P (Punycode.digit n)) {label meant : List Char}
    (hmeaning : meaning? label = some meant) (hlabel : ∀ c ∈ label, P c) :
    ∀ c ∈ ofMeaning meant, P c := by
  unfold meaning? at hmeaning
  split at hmeaning
  next code =>
    split at hmeaning
    next => cases hmeaning
    next =>
      -- The Punycode of what a label with Punycode stands for is the label again.
      have hsame := (Option.filter_eq_some_iff.mp hmeaning).2
      obtain ⟨hwide, hcode⟩ := Bool.and_eq_true_iff.mp hsame
      rwa [ofMeaning, if_pos hwide, beq_iff_eq.mp hcode]
  -- A label without Punycode stands for itself, and is written as it is or as its Punycode.
  next =>
    cases hmeaning
    unfold ofMeaning
    split
    next =>
      intro c hc
      rcases List.mem_append.mp (show c ∈ ['x', 'n', '-', '-'] ++ Punycode.encode label from hc)
        with hc | hc
      · exact hmark c (by simpa using hc)
      · rcases Punycode.mem_encode c hc with ⟨hmem, -⟩ | rfl | ⟨n, hn, rfl⟩
        · exact hlabel c hmem
        · exact hmark '-' (by simp)
        · exact hdigit n hn
    next => exact hlabel

/-- A label keeps to characters that are not reserved when it is brought to ASCII. -/
theorem not_reserved_of_meaning? {label meant : List Char} (hmeaning : meaning? label = some meant)
    (hlabel : ∀ c ∈ label, isReserved c = false) :
    ∀ c ∈ ofMeaning meant, isReserved c = false :=
  forall_mem_ofMeaning (by simp [isReserved])
    (fun n hn => isReserved_of_isAlphanum (Punycode.isAlphanum_digit n hn)) hmeaning hlabel

/-- What a list is mapped to comes from its members. -/
theorem exists_mem_of_mapM {α β : Type} {f : α → Option β} {xs : List α} {ys : List β}
    (h : xs.mapM f = some ys) : ∀ y ∈ ys, ∃ x ∈ xs, f x = some y := by
  -- On the list, each element of which has given one of the results.
  induction xs generalizing ys with
  | nil =>
    cases h
    intro y hy
    cases hy
  | cons x xs ih =>
    simp only [List.mapM_cons, Option.bind_eq_bind, Option.pure_def, Option.bind_eq_some_iff,
      Option.some.injEq] at h
    obtain ⟨first, hfirst, rest, hrest, rfl⟩ := h
    intro y hy
    rcases List.mem_cons.mp hy with rfl | hy
    · exact ⟨x, List.mem_cons_self, hfirst⟩
    · obtain ⟨z, hz, heq⟩ := ih hrest y hy
      exact ⟨z, List.mem_cons_of_mem x hz, heq⟩

/-- A name in ASCII has no reserved character. -/
theorem not_reserved_of_ascii? {name text : List Char} (h : ascii? name = some text) :
    ∀ c ∈ text, isReserved c = false := by
  simp only [ascii?, Option.bind_eq_bind, Option.pure_def, Option.bind_eq_some_iff,
    Option.some.injEq] at h
  obtain ⟨read, hread, meanings, hmeanings, rfl⟩ := h
  have hmapM := (Option.filter_eq_some_iff.mp hmeanings).1
  have hplain := not_reserved_of_read? hread
  intro c hc
  -- Between the labels there are points, and in them only what can be read.
  rcases Text.mem_intercalate hc with hpoint | ⟨part, hpart, hc⟩
  · rw [List.mem_singleton.mp hpoint]
    rfl
  · obtain ⟨meant, hmeant, rfl⟩ := List.mem_map.mp hpart
    obtain ⟨label, hlabel, hmeaning⟩ := exists_mem_of_mapM hmapM meant hmeant
    exact not_reserved_of_meaning? hmeaning
      (fun d hd => hplain d (Text.mem_of_mem_splitOnP hlabel hd)) c hc

end Domain

/-! ## Numbers -/

/-- The digits of a number are digits of its base. -/
theorem forall_mem_toDigits {P : Char → Prop} {base : Nat} (hbase : 1 < base)
    (h : ∀ m < base, P m.digitChar) (n : Nat) : ∀ c ∈ Nat.toDigits base n, P c := by
  induction n using Nat.strongRecOn with
  | ind n ih =>
    rw [Nat.toDigits_eq_if hbase]
    split
    next hlt => exact fun c hc => List.mem_singleton.mp hc ▸ h n hlt
    next hle =>
      intro c hc
      rcases List.mem_append.mp hc with hc | hc
      · exact ih (n / base) (Nat.div_lt_self (by omega) hbase) c hc
      · exact List.mem_singleton.mp hc ▸ h _ (Nat.mod_lt _ (by omega))

/-- No digit is a question mark, whatever the base. -/
theorem not_mem_toDigits {base : Nat} (hbase : 1 < base) (n : Nat) :
    '?' ∉ Nat.toDigits base n := by
  have hdigit : ∀ m < base, m.digitChar ≠ '?' := fun m _ => Nat.digitChar_ne '?' (by decide)
  exact fun hmem => forall_mem_toDigits (P := (· ≠ '?')) hbase hdigit n '?' hmem rfl

/-- The text of a version four address has the digits of four bytes, with points. -/
theorem toList_ipv4Text (n : Nat) : (ipv4Text n).toList = ['.'].intercalate
    [Nat.toDigits 10 (n / 16777216 % 256), Nat.toDigits 10 (n / 65536 % 256),
      Nat.toDigits 10 (n / 256 % 256), Nat.toDigits 10 (n % 256)] := by
  have hpoint : (toString ".").toList = ['.'] := by decide
  simp only [ipv4Text, String.toList_append, hpoint, List.intercalate_cons_cons,
    List.intercalate_singleton]
  simp

/-- The characters of a version four address are decimal digits and points. -/
theorem forall_mem_ipv4Text {P : Char → Prop} (hpoint : P '.') (hdigit : ∀ m < 10, P m.digitChar)
    (n : Nat) : ∀ c ∈ (ipv4Text n).toList, P c := by
  have hall (m : Nat) : ∀ c ∈ Nat.toDigits 10 m, P c := forall_mem_toDigits (by decide) hdigit m
  rw [toList_ipv4Text]
  intro c hc
  rcases Text.mem_intercalate hc with hc | ⟨part, hpart, hc⟩
  · exact List.mem_singleton.mp hc ▸ hpoint
  · simp only [List.mem_cons, List.not_mem_nil, or_false] at hpart
    rcases hpart with rfl | rfl | rfl | rfl <;> exact hall _ c hc

/-- The text of pieces has their digits, with colons. -/
theorem toList_pieceText (pieces : List Nat) :
    (pieceText pieces).toList = [':'].intercalate (pieces.map (Nat.toDigits 16)) := by
  have hdigits : String.toList ∘ Text.hexText = Nat.toDigits 16 :=
    funext fun n => String.toList_ofList
  have hcolon : ":".toList = [':'] := by decide
  rw [pieceText, String.toList_intercalate, List.map_map, hdigits, hcolon]

/-- The characters of a version six address are hexadecimal digits and colons. -/
theorem forall_mem_ipv6Text {P : Char → Prop} (hcolon : P ':') (hdigit : ∀ m < 16, P m.digitChar)
    (pieces : List Nat) : ∀ c ∈ (ipv6Text pieces).toList, P c := by
  -- Each piece is hexadecimal digits, and between the pieces there are colons.
  have hpieces (pieces : List Nat) : ∀ c ∈ (pieceText pieces).toList, P c := by
    rw [toList_pieceText]
    intro c hc
    rcases Text.mem_intercalate hc with hc | ⟨part, hpart, hc⟩
    · exact List.mem_singleton.mp hc ▸ hcolon
    · obtain ⟨n, -, rfl⟩ := List.mem_map.mp hpart
      exact forall_mem_toDigits (by decide) hdigit n c hc
  have hgap : ∀ c ∈ "::".toList, c = ':' := by simp
  unfold ipv6Text
  split
  split
  next => exact hpieces pieces
  next =>
    intro c hc
    simp only [String.toList_append, List.mem_append] at hc
    rcases hc with (hc | hc) | hc
    · exact hpieces _ c hc
    · exact hgap c hc ▸ hcolon
    · exact hpieces _ c hc

/-! ## Hosts -/

namespace Host

theorem not_mem_write_bracketed {cs : List Char} {host : Host} (h : bracketed cs = .ok host) :
    '?' ∉ host.write.toList := by
  unfold bracketed at h
  split at h
  next =>
    split at h
    next pieces hpieces =>
      cases h
      have hmark := forall_mem_ipv6Text (P := (· ≠ '?')) (by decide) (by decide) pieces
      simpa [write, String.toList_append] using fun hmem => hmark '?' hmem rfl
    next => cases h
  next => cases h

/-- The host of an address whose scheme is special has no question mark in its text. -/
theorem not_mem_write {cs : List Char} {host : Host} (h : ofText cs = .ok host) :
    '?' ∉ host.write.toList := by
  -- Each kind of host is written in its own characters; a question mark is among none of them.
  unfold ofText at h
  split at h
  next => exact not_mem_write_bracketed h
  next =>
    split at h
    next => cases h
    next => cases h
    next name _ hascii =>
      have hname : '?' ∉ name.toList := by
        simp only [Domain.toAscii?, Option.bind_eq_bind, Option.pure_def,
          Option.bind_eq_some_iff, Option.some.injEq] at hascii
        obtain ⟨text, htext, ascii, hread, rfl⟩ := hascii
        rw [String.toList_ofList]
        intro hmem
        exact absurd (Domain.not_reserved_of_ascii? hread '?' hmem) (by decide)
      split at h
      next =>
        split at h
        next n hn =>
          cases h
          have hmark := forall_mem_ipv4Text (P := (· ≠ '?')) (by decide) (by decide) n
          exact fun hmem => hmark '?' hmem rfl
        next => cases h
      next =>
        cases h
        exact hname

end Host

end BearerCache.Url
