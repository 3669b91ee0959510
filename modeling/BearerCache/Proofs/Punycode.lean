import BearerCache.Proofs.HostText
import Mathlib.Data.List.Basic
import Mathlib.Data.List.TakeWhile
import Mathlib.Tactic.Ring

/-! # Punycode is read back

The encoder writes the characters beyond ASCII in the order of their codes, and from left to right
where one stands several times; the decoder puts each in as it comes.  So at any moment the decoder
has the characters of lower codes, and those of the code at hand up to the place that the encoder
has come to (`putInSoFar`).  `Follows` says that in this sense the two stand at the same place, and
that the steps the encoder has counted since its last character lead the decoder there.

## Key results

- `readStep_digits`: the digits of a step are read as the step
- `Follows.passOver`: encoder and decoder stay together over one character
- `decode?_encode`: the Punycode of a label stands for the label
-/

namespace BearerCache.Url.Punycode

/-! ## Steps -/

theorem digitValue?_digit : ∀ n < 36, digitValue? (digit n) = some n := by
  decide

/-- The digits of a step are read as the step, whatever follows. -/
theorem readStep_digits (bias place delta : Nat) (rest : List Char) (weight acc : Nat) :
    readStep bias place weight acc (digits bias place delta ++ rest) =
      some (acc + delta * weight, rest) := by
  -- Along the recursion that writes the digits, with the weight that the reader has come to.
  fun_induction digits bias place delta generalizing weight acc with
  | case1 place delta t hlt =>
    have hbounds : 1 ≤ t ∧ t ≤ 26 := threshold_bounds place bias
    have hvalue := digitValue?_digit delta (by omega)
    simp only [List.cons_append, List.nil_append, readStep, hvalue, Option.bind_eq_bind,
      Option.bind_some]
    exact if_pos hlt
  | case2 place delta t hle ih =>
    have hbounds : 1 ≤ t ∧ t ≤ 26 := threshold_bounds place bias
    have hmod : (delta - t) % (36 - t) < 36 - t := Nat.mod_lt _ (by omega)
    have hvalue := digitValue?_digit (t + (delta - t) % (36 - t)) (by omega)
    have hnot : ¬t + (delta - t) % (36 - t) < t := by omega
    -- What the digit leaves over has the weight of all further digits.
    have hsum : (t + (delta - t) % (36 - t)) * weight +
        (delta - t) / (36 - t) * (weight * (36 - t)) = delta * weight := by
      have hdiv := Nat.mod_add_div (delta - t) (36 - t)
      have hdelta : t + ((delta - t) % (36 - t) + (36 - t) * ((delta - t) / (36 - t))) = delta := by
        omega
      calc _ = (t + ((delta - t) % (36 - t) + (36 - t) * ((delta - t) / (36 - t)))) * weight := by
            ring
        _ = delta * weight := by rw [hdelta]
    simp only [List.cons_append, readStep, hvalue, Option.bind_eq_bind, Option.bind_some]
    exact (if_neg hnot).trans (by rw [ih, Nat.add_assoc, hsum])

theorem digits_ne_nil (bias place delta : Nat) : digits bias place delta ≠ [] := by
  rw [digits]
  split <;> simp

/-! ## Encoder and decoder together -/

/-- What the decoder has put in when the encoder writes the characters of a code and has passed
over `front`, `back` being ahead. -/
def putInSoFar (code : Nat) (front back : List Char) : List Char :=
  front.filter (·.toNat ≤ code) ++ back.filter (·.toNat < code)

/-- The encoder has passed over `front` in writing the characters of a code, and the decoder, whose
code is `n` and whose place is `i`, has all that has been written. -/
structure Follows (plain : Nat) (p : Progress) (code : Nat) (front back : List Char) (n i : Nat) :
    Prop where
  done : p.done = (putInSoFar code front back).length
  low : n ≤ code
  /-- The steps since the last character lead to the code at hand and behind `front`. -/
  place : n * (p.done + 1) + (i + p.delta) =
    code * (p.done + 1) + (front.filter (·.toNat ≤ code)).length
  begun : plain ≤ p.done
  first : i = 0 ↔ p.done = plain

variable {plain code n i : Nat} {p : Progress} {front back label : List Char} {c : Char}

/-- A character of the code at hand is put in behind `front`. -/
theorem insertIdx_putInSoFar (front back : List Char) (c : Char) :
    (putInSoFar c.toNat front (c :: back)).insertIdx (front.filter (·.toNat ≤ c.toNat)).length c =
      putInSoFar c.toNat (front ++ [c]) back := by
  have hinsert : ∀ xs ys : List Char, (xs ++ ys).insertIdx xs.length c = xs ++ c :: ys := by
    intro xs ys
    induction xs with
    | nil => rfl
    | cons x xs ih => simp [ih]
  simp [putInSoFar, hinsert]

/-- The decoder puts a character in where the encoder has come to. -/
theorem Follows.putIn_digits (h : Follows plain p c.toNat front (c :: back) n i)
    (rest : List Char) :
    putIn p.bias n i (putInSoFar c.toNat front (c :: back)) (digits p.bias 36 p.delta ++ rest) =
      putIn (adapt p.delta (p.done + 1) (p.done == plain)) c.toNat
        ((front.filter (·.toNat ≤ c.toNat)).length + 1)
        (putInSoFar c.toNat (front ++ [c]) back) rest := by
  have hread := readStep_digits p.bias 36 p.delta rest 1 i
  rw [Nat.mul_one] at hread
  have hne : digits p.bias 36 p.delta ++ rest ≠ [] := by simp [digits_ne_nil]
  have hplace := h.place
  have hinsert := insertIdx_putInSoFar front back c
  generalize hk : (front.filter (·.toNat ≤ c.toNat)).length = k at *
  have hk' : k < p.done + 1 := by
    rw [h.done, putInSoFar, List.length_append, hk]
    omega
  -- The steps are whole rounds up to the code, and then places up to the character.
  have hsum : i + p.delta = k + (c.toNat - n) * (p.done + 1) := by
    have hsub := Nat.sub_mul c.toNat n (p.done + 1)
    have hle := Nat.mul_le_mul_right (p.done + 1) h.low
    omega
  have hdiv : (i + p.delta) / (p.done + 1) = c.toNat - n := by
    rw [hsum, Nat.add_mul_div_right _ _ (Nat.succ_pos _), Nat.div_eq_of_lt hk', Nat.zero_add]
  have hmod : (i + p.delta) % (p.done + 1) = k := by
    rw [hsum, Nat.add_mul_mod_self_right, Nat.mod_eq_of_lt hk']
  have hcode : n + (c.toNat - n) = c.toNat := Nat.add_sub_cancel' h.low
  have hvalid : c.toNat.isValidChar := c.valid
  have hfirst : (i == 0) = (p.done == plain) := by
    rw [Bool.eq_iff_iff, beq_iff_eq, beq_iff_eq, h.first]
  rw [putIn, if_neg hne]
  split
  next hnone => rw [hread] at hnone; cases hnone
  next sum rest' hsome =>
    rw [hread] at hsome
    cases hsome
    simp only [← h.done, hdiv, hmod, hcode, if_pos hvalid, Char.ofNat_toNat, hfirst,
      Nat.add_sub_cancel_left, hinsert]

/-- What the encoder writes from one state to another is letters and digits, and leads the decoder
from one place to another. -/
def Leads (label label' : List Char) (p q : Progress) (n i m j : Nat) : Prop :=
  ∃ tail, q.output = p.output ++ tail ∧ (∀ c ∈ tail, c.isAlphanum) ∧
    ∀ rest, putIn p.bias n i label (tail ++ rest) = putIn q.bias m j label' rest

/-- Encoder and decoder stay together over one character. -/
theorem Follows.passOver (h : Follows plain p code front (c :: back) n i) :
    ∃ m j, Follows plain (passOver plain code p c) code (front ++ [c]) back m j ∧
      Leads (putInSoFar code front (c :: back)) (putInSoFar code (front ++ [c]) back) p
        (passOver plain code p c) n i m j := by
  obtain ⟨hdone, hlow, hplace, hbegun, hfirst⟩ := h
  unfold Punycode.passOver
  rcases Nat.lt_trichotomy c.toNat code with hlt | heq | hgt
  · -- The decoder has the character already, and steps over it.
    have hle : c.toNat ≤ code := Nat.le_of_lt hlt
    have hsame : putInSoFar code (front ++ [c]) back = putInSoFar code front (c :: back) := by
      simp [putInSoFar, hlt, hle]
    rw [if_pos hlt, hsame]
    refine ⟨n, i, ⟨hsame ▸ hdone, hlow, ?_, hbegun, hfirst⟩, [], by simp, by simp, fun _ => rfl⟩
    simp only [List.filter_append, List.length_append, List.filter_cons, decide_eq_true hle]
    simp only [if_true, List.filter_nil, List.length_singleton]
    omega
  · -- The step to the character is written, and the decoder puts the character in.
    subst heq
    have hnot : ¬c.toNat < c.toNat := Nat.lt_irrefl _
    rw [if_neg hnot, if_pos rfl]
    have hlength : (putInSoFar c.toNat (front ++ [c]) back).length = p.done + 1 := by
      rw [hdone]
      simp [putInSoFar]
      omega
    refine ⟨c.toNat, (front.filter (·.toNat ≤ c.toNat)).length + 1,
      ⟨hlength.symm, Nat.le_refl _, ?_, Nat.le_succ_of_le hbegun, ?_⟩, digits p.bias 36 p.delta,
      rfl, ?_, fun rest => Follows.putIn_digits ⟨hdone, hlow, hplace, hbegun, hfirst⟩ rest⟩
    · simp
    · constructor
      · intro hzero; cases hzero
      · intro hsucc; exact absurd hsucc (by simp only; omega)
    · intro d hd
      obtain ⟨m, hm, rfl⟩ := exists_digit_of_mem_digits d hd
      exact isAlphanum_digit m hm
  · -- The character comes later, and neither of the two takes note of it.
    have hnot : ¬c.toNat < code := by omega
    have hne : ¬c.toNat = code := by omega
    have hlarge : ¬c.toNat ≤ code := by omega
    have hsame : putInSoFar code (front ++ [c]) back = putInSoFar code front (c :: back) := by
      simp [putInSoFar, hnot, hlarge]
    rw [if_neg hnot, if_neg hne, hsame]
    refine ⟨n, i, ⟨hsame ▸ hdone, hlow, ?_, hbegun, hfirst⟩, [], by simp, by simp, fun _ => rfl⟩
    simpa [hlarge] using hplace

theorem Leads.trans {first second third : List Char} {p q r : Progress} {n i m j k l : Nat}
    (h : Leads first second p q n i m j) (h' : Leads second third q r m j k l) :
    Leads first third p r n i k l := by
  obtain ⟨tail, hwritten, halnum, hread⟩ := h
  obtain ⟨tail', hwritten', halnum', hread'⟩ := h'
  refine ⟨tail ++ tail', by rw [hwritten', hwritten, List.append_assoc], fun c hc => ?_,
    fun rest => ?_⟩
  · exact (List.mem_append.mp hc).elim (halnum c) (halnum' c)
  · rw [List.append_assoc, hread, hread']

/-- Encoder and decoder stay together over the rest of a label. -/
theorem Follows.foldl (h : Follows plain p code front back n i) :
    ∃ m j, Follows plain (back.foldl (Punycode.passOver plain code) p) code (front ++ back) [] m j ∧
      Leads (putInSoFar code front back) (putInSoFar code (front ++ back) []) p
        (back.foldl (Punycode.passOver plain code) p) n i m j := by
  -- On the characters that are still to come, one step of the reader for each that has the code.
  induction back generalizing front p n i with
  | nil =>
    rw [List.append_nil]
    exact ⟨n, i, h, [], (List.append_nil _).symm, by simp, fun _ => rfl⟩
  | cons c back ih =>
    obtain ⟨m, j, hstep, hleads⟩ := h.passOver
    obtain ⟨k, l, hrest, hleads'⟩ := ih hstep
    rw [List.append_assoc, List.singleton_append] at hrest hleads'
    exact ⟨k, l, hrest, hleads.trans hleads'⟩

/-- Where no character of a label has one of some codes, they make no difference. -/
theorem putInSoFar_eq_of_forall {m : Nat} (h : ∀ c ∈ label, c.toNat < code ↔ c.toNat < m) :
    putInSoFar code [] label = putInSoFar m [] label :=
  List.filter_congr fun c hc => decide_eq_decide.mpr (h c hc)

/-- At the end of a label all characters are put in that come before the next code. -/
theorem putInSoFar_succ (code : Nat) (label : List Char) :
    putInSoFar (code + 1) [] label = putInSoFar code label [] := by
  simp only [putInSoFar, List.filter_nil, List.nil_append, List.append_nil, Nat.lt_succ_iff]

/-- The encoder goes on to a code at once if no character has one in between. -/
theorem Follows.goOn {m : Nat} (h : Follows plain p m [] label n i) (hcode : m ≤ code)
    (hsame : putInSoFar code [] label = putInSoFar m [] label) :
    Follows plain { p with delta := p.delta + (code - m) * (p.done + 1) } code [] label n i := by
  refine ⟨hsame ▸ h.done, Nat.le_trans h.low hcode, ?_, h.begun, h.first⟩
  have hplace := h.place
  have hsub := Nat.sub_mul code m (p.done + 1)
  have hle := Nat.mul_le_mul_right (p.done + 1) hcode
  simp only [List.filter_nil, List.length_nil, Nat.add_zero] at hplace ⊢
  omega

/-- From the end of a label the encoder begins again with the next code. -/
theorem Follows.beginAgain (h : Follows plain p code label [] n i) :
    Follows plain { p with delta := p.delta + 1 } (code + 1) [] label n i := by
  refine ⟨putInSoFar_succ code label ▸ h.done, Nat.le_succ_of_le h.low, ?_, h.begun, h.first⟩
  have hplace := h.place
  have hdone := h.done
  simp only [putInSoFar, List.filter_nil, List.length_nil, List.append_nil] at hplace hdone ⊢
  rw [← hdone] at hplace
  rw [Nat.succ_mul]
  omega

/-- From the codes that a label has from some code on, the decoder gets the label. -/
theorem Follows.writeCodes {codes : List Nat} {m : Nat} (h : Follows plain p m [] label n i)
    (hsorted : codes.Pairwise (· < ·)) (hleast : ∀ code ∈ codes, m ≤ code)
    (hall : ∀ c ∈ label, m ≤ c.toNat → c.toNat ∈ codes) :
    ∃ tail, writeCodes label plain codes m p = p.output ++ tail ∧ (∀ c ∈ tail, c.isAlphanum) ∧
      putIn p.bias n i (putInSoFar m [] label) tail = some label := by
  -- The induction is on the codes; between two of them reader and writer stand at the same place.
  induction codes generalizing m p n i with
  | nil =>
    have hlow : ∀ c ∈ label, c.toNat < m := fun c hc =>
      Nat.lt_of_not_le fun hle => List.not_mem_nil (hall c hc hle)
    have hlabel : putInSoFar m [] label = label :=
      List.filter_eq_self.mpr fun c hc => decide_eq_true (hlow c hc)
    exact ⟨[], (List.append_nil _).symm, by simp, by rw [hlabel, putIn, if_pos rfl]⟩
  | cons code codes ih =>
    obtain ⟨hfirst, hsorted⟩ := List.pairwise_cons.mp hsorted
    have hcode : m ≤ code := hleast code List.mem_cons_self
    -- The codes in between are of no character.
    have hsame : putInSoFar code [] label = putInSoFar m [] label := by
      refine putInSoFar_eq_of_forall fun c hc => ⟨fun hlt => ?_, fun hlt => by omega⟩
      refine Nat.lt_of_not_le fun hle => ?_
      rcases List.mem_cons.mp (hall c hc hle) with heq | hmem
      · omega
      · exact absurd (hfirst _ hmem) (by omega)
    obtain ⟨k, l, hend, front, hwritten, halnum, hread⟩ := (h.goOn hcode hsame).foldl
    rw [List.nil_append] at hend hread
    generalize hq : label.foldl (Punycode.passOver plain code)
      { p with delta := p.delta + (code - m) * (p.done + 1) } = q at hend hwritten hread
    obtain ⟨tail, hwritten', halnum', hread'⟩ := ih hend.beginAgain hsorted
      (fun other hother => hfirst other hother)
      fun c hc hle => (List.mem_cons.mp (hall c hc (by omega))).resolve_left (by omega)
    refine ⟨front ++ tail, ?_, fun c hc => ?_, ?_⟩
    · have hwhole : Punycode.writeCodes label plain (code :: codes) m p =
          Punycode.writeCodes label plain codes (code + 1) { q with delta := q.delta + 1 } := by
        rw [← hq]
        rfl
      rw [hwhole, hwritten', ← List.append_assoc, ← hwritten]
    · exact (List.mem_append.mp hc).elim (halnum c) (halnum' c)
    · rw [← hsame, hread tail, ← putInSoFar_succ, hread']

/-! ## The code of a label -/

/-- A sorted list without its repetitions is strictly sorted. -/
theorem pairwise_lt_eraseDups {ns : List Nat} (h : ns.Pairwise (· ≤ ·)) :
    ns.eraseDups.Pairwise (· < ·) := by
  -- On the length, as the rest of the list is filtered before it goes on.
  induction hlength : ns.length using Nat.strongRecOn generalizing ns with
  | ind size ih =>
    cases ns with
    | nil => simp
    | cons n ns =>
      obtain ⟨hfirst, hrest⟩ := List.pairwise_cons.mp h
      rw [List.eraseDups_cons]
      refine List.pairwise_cons.mpr ⟨fun m hm => ?_, ?_⟩
      · obtain ⟨hmem, hne⟩ := List.mem_filter.mp (List.mem_eraseDups.mp hm)
        have hle := hfirst m hmem
        simp only [Bool.not_eq_true', beq_eq_false_iff_ne] at hne
        omega
      · refine ih _ ?_ (hrest.filter _) rfl
        have hshort := List.length_filter_le (fun m => !m == n) ns
        rw [List.length_cons] at hlength
        omega

/-- A code falls into the ASCII characters of its label and the rest, which has no hyphen. -/
theorem decode?_append {plain tail : List Char} (h : ∀ c ∈ tail, c.isAlphanum) :
    decode? ((if plain = [] then [] else plain ++ ['-']) ++ tail) = putIn 72 0x80 0 plain tail := by
  -- The hyphen is none of the digits, so the last one in the text stands before them.
  have hne : ∀ c ∈ tail.reverse, (c != '-') = true := by
    intro c hc
    refine bne_iff_ne.mpr ?_
    rintro rfl
    exact absurd (h '-' (List.mem_reverse.mp hc)) (by decide)
  unfold decode?
  split
  next hnil =>
    subst hnil
    simp only [List.nil_append, List.takeWhile_eq_self_iff.mpr hne, List.reverse_reverse,
      Nat.sub_self, Nat.zero_sub, List.take_zero]
  next =>
    have hreverse : (plain ++ ['-'] ++ tail).reverse = tail.reverse ++ '-' :: plain.reverse := by
      simp
    have htake : (tail.reverse ++ '-' :: plain.reverse).takeWhile (· != '-') = tail.reverse := by
      rw [List.takeWhile_append_of_pos hne]
      simp
    have hlength : (plain ++ ['-'] ++ tail).length - tail.length - 1 = plain.length := by
      simp only [List.length_append, List.length_singleton]
      omega
    simp only [hreverse, htake, List.reverse_reverse, hlength]
    rw [List.append_assoc, List.take_left]

/-- The codes of a label that are beyond ASCII, each once and in their order. -/
def wideCodes (label : List Char) : List Nat :=
  ((label.map Char.toNat).filter (0x80 ≤ ·)).mergeSort.eraseDups

theorem mem_wideCodes {label : List Char} {m : Nat} :
    m ∈ wideCodes label ↔ m ∈ label.map Char.toNat ∧ 0x80 ≤ m := by
  rw [wideCodes, List.mem_eraseDups, List.mem_mergeSort, List.mem_filter, decide_eq_true_iff]

theorem pairwise_wideCodes (label : List Char) : (wideCodes label).Pairwise (· < ·) := by
  have htrans : ∀ a b c : Nat, decide (a ≤ b) → decide (b ≤ c) → decide (a ≤ c) := by
    simp only [decide_eq_true_eq]
    omega
  have htotal : ∀ a b : Nat, decide (a ≤ b) || decide (b ≤ a) := by
    simp only [Bool.or_eq_true, decide_eq_true_eq]
    omega
  have hsorted := List.pairwise_mergeSort htrans htotal ((label.map Char.toNat).filter (0x80 ≤ ·))
  exact pairwise_lt_eraseDups (by simpa using hsorted)

/-- The Punycode of a label stands for the label. -/
theorem decode?_encode (label : List Char) : decode? (encode label) = some label := by
  have hplain : putInSoFar 0x80 [] label = label.filter fun c => c.toNat < 0x80 := rfl
  have hstart : ∀ start, Follows (label.filter fun c => c.toNat < 0x80).length
      ⟨start, 0, 72, (label.filter fun c => c.toNat < 0x80).length⟩ 0x80 [] label 0x80 0 :=
    fun _ => ⟨rfl, Nat.le_refl _, rfl, Nat.le_refl _, by simp⟩
  unfold encode
  obtain ⟨tail, hwritten, halnum, hread⟩ := (hstart _).writeCodes (pairwise_wideCodes label)
    (fun m hm => (mem_wideCodes.mp hm).2)
    fun c hc hle => mem_wideCodes.mpr ⟨List.mem_map_of_mem hc, hle⟩
  rw [← wideCodes, hwritten, decode?_append halnum, ← hplain, hread]

end BearerCache.Url.Punycode
