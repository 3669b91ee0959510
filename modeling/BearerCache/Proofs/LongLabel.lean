import BearerCache.Proofs.AddressText
import BearerCache.Proofs.Ideographs
import Mathlib.Data.List.Sort

/-! # A host that is not read back

Punycode takes one character after the other in the order of their codes, and writes how far it is
to the next.  When the codes are far apart and many characters have been written already, each
takes three digits.  So a label of ideographs that is short enough to be written may have a
Punycode that is too long to be read, and an address with it is not read back.

## Key results

- `Punycode.length_encode`: how long the Punycode of such a label is
- `Host.ofText_of_ideographs`, `parse_http`: an address with nothing but such a host
-/

namespace BearerCache.Url

namespace Punycode

/-! ## How long a Punycode is -/

/-- A great step takes three digits. -/
theorem three_le_length_digits {bias place delta : Nat} (h : 911 ≤ delta) :
    3 ≤ (digits bias place delta).length := by
  have hfirst := threshold_bounds place bias
  have hsecond := threshold_bounds (place + 36) bias
  generalize hs : threshold place bias = s at hfirst
  generalize ht : threshold (place + 36) bias = t at hsecond
  -- Two digits are written before the threshold can be reached.
  have hquotient : 26 ≤ (delta - s) / (36 - s) := by
    rw [Nat.le_div_iff_mul_le (by omega)]
    omega
  have hone : ∀ place delta, 1 ≤ (digits bias place delta).length := by
    intro place delta
    rw [digits]
    split <;> simp
  rw [digits, hs, if_neg (by omega), digits, ht, if_neg (by omega)]
  simp only [List.length_cons]
  exact Nat.succ_le_succ (Nat.succ_le_succ (hone _ _))

/-- Passing over characters takes nothing back. -/
theorem foldl_passOver_grows (plain n : Nat) (label : List Char) (p : Progress) :
    p.output.length ≤ (label.foldl (passOver plain n) p).output.length ∧
      p.done ≤ (label.foldl (passOver plain n) p).done := by
  -- On the characters: output and count never go back.
  induction label generalizing p with
  | nil => exact ⟨Nat.le_refl _, Nat.le_refl _⟩
  | cons c rest ih =>
    have hrest := ih (passOver plain n p c)
    have hfirst : p.output.length ≤ (passOver plain n p c).output.length ∧
        p.done ≤ (passOver plain n p c).done := by
      unfold passOver
      split
      next => exact ⟨Nat.le_refl _, Nat.le_refl _⟩
      split
      next => exact ⟨by simp, Nat.le_succ _⟩
      next => exact ⟨Nat.le_refl _, Nat.le_refl _⟩
    exact ⟨Nat.le_trans hfirst.1 hrest.1, Nat.le_trans hfirst.2 hrest.2⟩

/-- A character of the label is written, after a great step with three digits. -/
theorem foldl_passOver_writes (plain : Nat) {n : Nat} {label : List Char}
    (hmem : n ∈ label.map Char.toNat) (p : Progress) :
    p.done + 1 ≤ (label.foldl (passOver plain n) p).done ∧
      (911 ≤ p.delta → p.output.length + 3 ≤ (label.foldl (passOver plain n) p).output.length) := by
  -- The character itself is met once in the label, where the digits are written.
  induction label generalizing p with
  | nil => cases hmem
  | cons c rest ih =>
    rw [List.foldl_cons]
    by_cases hc : c.toNat = n
    · have hgrows := foldl_passOver_grows plain n rest (passOver plain n p c)
      rw [passOver, if_neg (by omega), if_pos hc] at hgrows ⊢
      refine ⟨hgrows.2, fun hdelta => Nat.le_trans ?_ hgrows.1⟩
      rw [List.length_append]
      exact Nat.add_le_add_left (three_le_length_digits hdelta) _
    · have hrest : n ∈ rest.map Char.toNat := by
        rcases List.mem_cons.mp hmem with heq | hrest
        · exact absurd heq.symm hc
        · exact hrest
      obtain ⟨hdone, houtput⟩ := ih hrest (passOver plain n p c)
      -- Only the steps that are counted change here.
      have hsame : (passOver plain n p c).done = p.done ∧
          (passOver plain n p c).output = p.output ∧ p.delta ≤ (passOver plain n p c).delta := by
        rw [passOver, if_neg hc]
        split
        next => exact ⟨rfl, rfl, Nat.le_succ _⟩
        next => exact ⟨rfl, rfl, Nat.le_refl _⟩
      rw [hsame.1] at hdone
      rw [hsame.2.1] at houtput
      exact ⟨hdone, fun hdelta => houtput (Nat.le_trans hdelta hsame.2.2)⟩

/-- Codes that stand twenty apart take three digits each, once there are enough of them before. -/
theorem length_writeCodes {label : List Char} (plain count : Nat) :
    ∀ (first n : Nat) (p : Progress),
      -- The induction is on how many codes are left; only after 47 characters is the gap large
      -- enough for three digits each.
      (∀ code ∈ List.range' first count 20, code ∈ label.map Char.toNat) → n + 19 ≤ first →
      p.output.length + 3 * (count - (47 - p.done)) ≤
        (writeCodes label plain (List.range' first count 20) n p).length := by
  induction count with
  | zero =>
    intro first n p _ _
    simp [writeCodes]
  | succ count ih =>
    intro first n p hmem hgap
    rw [List.range'_succ] at hmem ⊢
    obtain ⟨hfirst, hrest⟩ := List.forall_mem_cons.mp hmem
    rw [writeCodes]
    generalize hstart : { p with delta := p.delta + (first - n) * (p.done + 1) } = start
    obtain ⟨hdone, houtput⟩ := foldl_passOver_writes plain hfirst start
    have hgrows := (foldl_passOver_grows plain first label start).1
    generalize hwritten : label.foldl (passOver plain first) start = written at *
    have hnext := ih (first + 20) (first + 1) { written with delta := written.delta + 1 } hrest
      (by omega)
    refine Nat.le_trans ?_ hnext
    dsimp only
    rw [← hstart] at hdone houtput hgrows
    dsimp only at hdone houtput hgrows
    by_cases hmany : 47 ≤ p.done
    · have hdelta : 19 * 48 ≤ (first - n) * (p.done + 1) := Nat.mul_le_mul (by omega) (by omega)
      have hthree := houtput (by omega)
      omega
    · omega

/-- A label of characters that stand twenty apart has a long Punycode. -/
theorem length_encode {label : List Char} {first count : Nat} (hfirst : 0x93 ≤ first)
    (hcodes : label.map Char.toNat = List.range' first count 20) :
    3 * (count - 47) ≤ (encode label).length := by
  -- The codes are in order already, and no character is plain.
  have hwide : ∀ m, m ∈ wideCodes label ↔ m ∈ List.range' first count 20 := by
    intro m
    rw [mem_wideCodes, hcodes]
    refine and_iff_left_of_imp fun hm => ?_
    obtain ⟨i, -, rfl⟩ := List.mem_range'.mp hm
    omega
  have hsame : wideCodes label = List.range' first count 20 :=
    (pairwise_wideCodes label).eq_of_mem_iff (List.pairwise_lt_range' 20) hwide
  have hnone : label.filter (fun c => c.toNat < 0x80) = [] := by
    refine List.filter_eq_nil_iff.mpr fun c hc hlt => ?_
    have hmem := List.mem_map_of_mem (f := Char.toNat) hc
    rw [hcodes, List.mem_range'] at hmem
    obtain ⟨i, -, heq⟩ := hmem
    exact absurd (of_decide_eq_true hlt) (by omega)
  have hlength := length_writeCodes 0 count first 0x80 ⟨[], 0, 72, 0⟩
    (fun code hcode => hcodes ▸ hcode) (by omega)
  rw [encode, hnone, ← wideCodes, hsame]
  simpa using hlength

end Punycode

/-! ## An address of ideographs -/

/-- A name of one label that starts with a letter does not end like a number. -/
theorem endsInNumber_of_labels {name rest : List Char}
    (hlabels : Domain.labels name = ['x' :: rest]) : endsInNumber name = false := by
  have hparts : ipv4Parts name = ['x' :: rest] := by
    rw [ipv4Parts, hlabels]
    rfl
  have hnumber : numberInBase? 10 ('x' :: rest) = none := rfl
  have hletter : ¬ ('x' ≤ '9') := by decide
  rw [endsInNumber, hparts]
  simp [ipv4Number?, hnumber, hletter]

variable {cs : List Char}

/-- A text of ideographs stands for a host. -/
theorem isHostText_of_ideographs (hne : cs ≠ []) (h : ∀ c ∈ cs, Text.isIdeograph c.toNat) :
    IsHostText cs :=
  isHostText_of_plain hne fun c hc => Domain.not_reserved_of_isIdeograph (h c hc)

/-- The host of a text of ideographs is its Punycode, if the text is not too long. -/
theorem Host.ofText_of_ideographs (hne : cs ≠ []) (hlength : cs.length ≤ Domain.longestWide)
    (h : ∀ c ∈ cs, Text.isIdeograph c.toNat) :
    Host.ofText cs =
      .ok (.domain (String.ofList ('x' :: 'n' :: '-' :: '-' :: Punycode.encode cs))) := by
  -- The Punycode of the name does not end in a number, so it is kept as a name.
  have hnumber := endsInNumber_of_labels (Domain.labels_encode_of_ideographs hne h)
  have hascii := Domain.ascii?_of_ideographs hne hlength h
  generalize hname : 'x' :: 'n' :: '-' :: '-' :: Punycode.encode cs = name at hnumber hascii
  have hnonempty : String.ofList name ≠ "" := by
    rw [← hname]
    exact fun hempty => List.cons_ne_nil _ _ (String.ofList_eq_empty_iff.mp hempty)
  rw [← String.toList_ofList (l := name)] at hnumber hascii
  rw [Host.ofText_of_ascii? (fun hc => absurd (h _ hc) (by decide))
    (fun hc => absurd (h _ hc) (by decide)) hascii hnonempty, hnumber, if_neg Bool.false_ne_true]

/-- An address of HTTP may be nothing but a host. -/
theorem parse_http (hcs : IsHostText cs) {host : Host} (hof : Host.ofText cs = .ok host) :
    parse (String.ofList ('h' :: 't' :: 't' :: 'p' :: ':' :: '/' :: '/' :: cs)) =
      .ok ⟨"http", "", none, some host, none, .segments [""], none, none⟩ := by
  have hplain : ∀ c ∈ cs, 0x20 < c.toNat ∧ (!(isSlash true c || endsPath c)) = true :=
    fun c hc => plain_of_isInner (hcs.inner c hc)
  -- There is neither an at sign nor a slash in the host, so all of it is the host.
  have hat : '@' ∉ cs := fun hmem => (ne_of_isInner (hcs.inner _ hmem)).2 rfl
  have hnil : ∀ c ∈ ([] : List Char).head?, isSlash true c := by simp
  have hafter := afterSlashes_append (isSpecial_of_http (.inl rfl)) (fun c hc => (hplain c hc).2)
    hnil (splitAtSign_of_not_mem hat) (List.append_nil cs).symm hcs.nonempty hcs.hostChars rfl rfl
  rw [parse_eq_afterSlashes (.inl rfl) hcs.nonempty hplain (List.forall_mem_nil _) ?_, hafter,
    hof]
  · rfl
  · rw [String.toList_ofList, List.append_nil]
    rfl

end BearerCache.Url
