import BearerCache.Proofs.HostText
import Mathlib.Data.Nat.Bitwise

/-! # Names are read in lower case

No name that has been read has a capital letter of ASCII in it.  Capital letters are read as small
ones, but a letter with an accent is taken apart when a name is composed, and its parts are put
together again; so a capital letter may also come out of a character beyond ASCII (`capitals`).  The
tables rule that out: each such character is read as something else, and no character is read as
one of them.

## Key results

- `Text.CharMap.mem_pairs_of_image?`, `Text.CharMap.mem_pairs_of_preimage?`: what a map says, as a
  list of pairs
- `Url.Domain.readings_lower`, `Url.Domain.capitals_read`: what the tables say of capital letters
- `Url.Domain.toLower_of_mem_read?`: a name that has been read is in lower case
-/

namespace BearerCache

/-! ## Maps as pairs -/

namespace Text.CharMap

/-- The codes that a row tells of, each with those in its place. -/
def Row.pairs : Row → List (Nat × List Nat)
  | moved first last step distance =>
    ((List.range (last + 1 - first)).filter (· % step = 0)).map fun i =>
      (first + i, [(first + i + distance).toNat])
  | listed first images => images.zipIdx.map fun p => (first + p.2, p.1)

/-- The codes that a map tells of, each with those in its place. -/
def pairs (map : CharMap) : List (Nat × List Nat) :=
  map.rows.flatMap Row.pairs

theorem Row.image?_eq_some_iff {row : Row} {n : Nat} {codes : List Nat} :
    row.image? n = some codes ↔ (n, codes) ∈ row.pairs := by
  cases row with
  | moved first last step distance =>
    simp only [Row.image?, Row.pairs, Option.ite_none_right_eq_some, Option.some.injEq,
      List.mem_map, List.mem_filter, List.mem_range, decide_eq_true_eq, Prod.mk.injEq]
    constructor
    -- The place of a character in its range tells its image, and the other way round.
    · rintro ⟨⟨hfirst, hlast, hstep⟩, rfl⟩
      exact ⟨n - first, ⟨by omega, hstep⟩, by omega, by congr 2; omega⟩
    · rintro ⟨i, ⟨hi, hstep⟩, rfl, rfl⟩
      exact ⟨⟨by omega, by omega, by rwa [Nat.add_sub_cancel_left]⟩, rfl⟩
  | listed first images =>
    simp only [Row.image?, Row.pairs, Option.ite_none_right_eq_some, List.mem_map,
      Prod.mk.injEq, Prod.exists, List.mem_zipIdx_iff_getElem?]
    constructor
    · rintro ⟨hfirst, hget⟩
      exact ⟨codes, n - first, hget, by omega, rfl⟩
    · rintro ⟨image, i, hget, rfl, rfl⟩
      exact ⟨by omega, by rwa [Nat.add_sub_cancel_left]⟩

variable {map : CharMap}

/-- The text in place of a character is of a pair. -/
theorem mem_pairs_of_image? {c : Char} {text : List Char} (h : map.image? c = some text) :
    ∃ codes, (c.toNat, codes) ∈ map.pairs ∧ text = codes.map Char.ofNat := by
  obtain ⟨codes, hcodes, rfl⟩ := Option.map_eq_some_iff.mp h
  obtain ⟨row, hrow, himage⟩ := List.exists_of_findSome?_eq_some hcodes
  exact ⟨codes, List.mem_flatMap.mpr ⟨row, hrow, Row.image?_eq_some_iff.mp himage⟩, rfl⟩

/-- A map tells nothing of a character that is in no pair. -/
theorem not_mem_pairs_of_image? {c : Char} (h : map.image? c = none) :
    c.toNat ∉ map.pairs.map (·.1) := by
  intro hmem
  obtain ⟨⟨n, codes⟩, hpair, rfl⟩ := List.mem_map.mp hmem
  obtain ⟨row, hrow, hpair⟩ := List.mem_flatMap.mp hpair
  have hnone := List.findSome?_eq_none_iff.mp (Option.map_eq_none_iff.mp h) row hrow
  rw [Row.image?_eq_some_iff.mpr hpair] at hnone
  cases hnone

/-- The character that stands for a text is of a pair. -/
theorem mem_pairs_of_preimage? {c : Char} {text : List Char} (h : map.preimage? text = some c) :
    ∃ n, (n, text.map Char.toNat) ∈ map.pairs ∧ c = Char.ofNat n := by
  obtain ⟨n, hn, rfl⟩ := Option.map_eq_some_iff.mp h
  obtain ⟨row, hrow, hpreimage⟩ := List.exists_of_findSome?_eq_some hn
  refine ⟨n, List.mem_flatMap.mpr ⟨row, hrow, ?_⟩, rfl⟩
  cases row with
  | moved => cases hpreimage
  | listed first images =>
    obtain ⟨i, hi, rfl⟩ := Option.map_eq_some_iff.mp hpreimage
    obtain ⟨hlt, heq, -⟩ := List.findIdx?_eq_some_iff_getElem.mp hi
    refine List.mem_map.mpr ⟨(text.map Char.toNat, i), List.mem_zipIdx_iff_getElem?.mpr ?_, rfl⟩
    rw [List.getElem?_eq_getElem hlt, beq_iff_eq.mp heq]

end Text.CharMap

/-! ## What the tables say of capital letters -/

/-- Whether a code is that of a capital letter of ASCII. -/
def Text.isCapital (n : Nat) : Bool :=
  0x41 ≤ n && n ≤ 0x5A

/-- The set of some codes as the bits of a number, which is asked at once however many they are. -/
def Text.bits (ns : List Nat) : Nat :=
  ns.foldl (fun set n => set ||| 1 <<< n) 0

theorem Text.testBit_bits (ns : List Nat) (n : Nat) : (bits ns).testBit n = decide (n ∈ ns) := by
  -- Generalised over the set that the fold starts from.
  have hfold : ∀ set, (ns.foldl (fun set n => set ||| 1 <<< n) set).testBit n =
      (set.testBit n || decide (n ∈ ns)) := by
    induction ns with
    | nil => simp
    | cons m ns ih =>
      intro set
      rw [List.foldl_cons, ih, Nat.testBit_or, Nat.one_shiftLeft, Nat.testBit_two_pow]
      simp [Bool.or_assoc, eq_comm]
  rw [bits, hfold]
  simp

namespace Url.Domain

open Text (isCapital bits testBit_bits)

/-- The codes of the characters beyond ASCII that have a capital letter of ASCII in them. -/
def capitals : List Nat :=
  ((Text.composites.pairs ++ Text.replaced.pairs).filter fun p => p.2.any isCapital).map (·.1)

/-- All these characters are beyond ASCII. -/
theorem capitals_wide : capitals.all (0x80 ≤ ·) := by decide +kernel

/-- No character is read as a capital letter, or as one that has a capital letter in it. -/
theorem readings_lower :
    readings.pairs.all fun p => p.2.all fun n => !isCapital n && !(bits capitals).testBit n := by
  decide +kernel

/-- A character that has a capital letter in it is read as something else. -/
theorem capitals_read :
    capitals.all (bits (readings.pairs.map (·.1))).testBit := by
  decide +kernel

/-- Characters are only put together to characters beyond ASCII. -/
theorem composites_wide : Text.composites.pairs.all (0x80 ≤ ·.1) := by decide +kernel

/-! ## Names in lower case -/

/-- A character that is not a capital letter of ASCII and has none in it. -/
def IsLower (c : Char) : Prop :=
  isCapital c.toNat = false ∧ c.toNat ∉ capitals

theorem toNat_ofNat_cases (n : Nat) : (Char.ofNat n).toNat = n ∨ (Char.ofNat n).toNat = 0 := by
  by_cases hvalid : n.isValidChar
  · exact .inl (by rw [Char.ofNat, dif_pos hvalid]; rfl)
  · exact .inr (by rw [Char.ofNat, dif_neg hvalid]; rfl)

theorem not_mem_capitals_of_lt {n : Nat} (h : n < 0x80) : n ∉ capitals := by
  intro hmem
  have hwide := of_decide_eq_true (List.all_eq_true.mp capitals_wide n hmem)
  omega

/-- The character with a code that may stand in a name. -/
theorem isLower_ofNat {n : Nat} (hcapital : isCapital n = false) (hmem : n ∉ capitals) :
    IsLower (Char.ofNat n) := by
  rcases toNat_ofNat_cases n with hn | hzero
  · exact ⟨by rwa [hn], by rwa [hn]⟩
  · exact ⟨by rw [hzero]; rfl, by rw [hzero]; exact not_mem_capitals_of_lt (by decide)⟩

/-- A character beyond ASCII, if the code is one at all. -/
theorem isCapital_ofNat {n : Nat} (h : 0x80 ≤ n) : isCapital (Char.ofNat n).toNat = false := by
  rcases toNat_ofNat_cases n with hn | hzero
  · simp only [hn, isCapital, Bool.and_eq_false_iff, decide_eq_false_iff_not]
    omega
  · rw [hzero]
    rfl

/-- A character of ASCII is read in lower case. -/
theorem isLower_toLower {c : Char} (h : c.toNat < 0x80) : IsLower c.toLower := by
  have hall : ∀ n < 0x80, isCapital (Char.ofNat n).toLower.toNat = false ∧
      (Char.ofNat n).toLower.toNat < 0x80 := by decide
  obtain ⟨hcapital, hascii⟩ := hall c.toNat h
  rw [Char.ofNat_toNat] at hcapital hascii
  exact ⟨hcapital, not_mem_capitals_of_lt hascii⟩

/-- The characters that a character is read as. -/
theorem isLower_of_reading? {c d : Char} {text : List Char} (h : reading? c = some text)
    (hd : d ∈ text) : IsLower d := by
  unfold reading? at h
  split at h
  -- Letters of ASCII are read in lower case.
  next hascii =>
    cases h
    rw [List.mem_singleton.mp hd]
    exact isLower_toLower hascii
  next hwide =>
  split at h
  next => cases h
  split at h
  next => cases h; cases hd
  next =>
    cases h
    cases himage : readings.image? c with
    | none =>
      -- A character that is read as itself is none that the map has to read as another.
      rw [himage, Option.getD_none, List.mem_singleton] at hd
      subst hd
      refine ⟨?_, fun hmem => ?_⟩
      · simp only [isCapital, Bool.and_eq_false_iff, decide_eq_false_iff_not]
        omega
      · have hread := List.all_eq_true.mp capitals_read d.toNat hmem
        rw [testBit_bits, decide_eq_true_iff] at hread
        exact Text.CharMap.not_mem_pairs_of_image? himage hread
    -- None of the texts in the map has a capital letter or what would be composed to one.
    | some text =>
      obtain ⟨codes, hpair, rfl⟩ := Text.CharMap.mem_pairs_of_image? himage
      rw [himage, Option.getD_some] at hd
      obtain ⟨n, hn, rfl⟩ := List.mem_map.mp hd
      have hlower := List.all_eq_true.mp (List.all_eq_true.mp readings_lower _ hpair) n hn
      simp only [testBit_bits, Bool.and_eq_true, Bool.not_eq_true', decide_eq_false_iff_not]
        at hlower
      exact isLower_ofNat hlower.1 hlower.2

/-- The letters of a Hangul syllable. -/
theorem isCapital_of_mem_hangulLetters? {c d : Char} {letters : List Char}
    (h : Text.hangulLetters? c = some letters) (hd : d ∈ letters) : isCapital d.toNat = false := by
  -- The letters of the script have codes far beyond the capital letters.
  have hwide : ∀ m n : Nat, 0x80 ≤ m → isCapital (Char.ofNat (m + n)).toNat = false :=
    fun m n hm => isCapital_ofNat (Nat.le_add_right_of_le hm)
  unfold Text.hangulLetters? at h
  dsimp only at h
  split at h
  next =>
    split at h
    next =>
      obtain rfl := Option.some.inj h
      -- A syllable of two letters, and below one of three.
      rcases List.mem_cons.mp hd with rfl | hd
      · exact hwide _ _ (by decide)
      · rw [List.mem_singleton.mp hd]
        exact hwide _ _ (by decide)
    next =>
      obtain rfl := Option.some.inj h
      rcases List.mem_cons.mp hd with rfl | hd
      · exact hwide _ _ (by decide)
      rcases List.mem_cons.mp hd with rfl | hd
      · exact hwide _ _ (by decide)
      · rw [List.mem_singleton.mp hd]
        exact hwide _ _ (by decide)
  next => cases h

/-- The sequence in the place of a character that is no capital letter and has none in it. -/
theorem isCapital_of_mem_image? {map : Text.CharMap}
    (hmap : map = Text.composites ∨ map = Text.replaced) {c d : Char} {text : List Char}
    (hc : IsLower c) (htext : map.image? c = some text) (hd : d ∈ text) :
    isCapital d.toNat = false := by
  obtain ⟨codes, hpair, rfl⟩ := Text.CharMap.mem_pairs_of_image? htext
  obtain ⟨n, hn, rfl⟩ := List.mem_map.mp hd
  -- A sequence with a capital letter would make the character one that has it in it.
  have hnot : isCapital n = false := by
    refine Bool.eq_false_iff.mpr fun hcapital => hc.2 ?_
    refine List.mem_map.mpr ⟨(c.toNat, codes), List.mem_filter.mpr ⟨?_, ?_⟩, rfl⟩
    · rcases hmap with rfl | rfl
      · exact List.mem_append_left _ hpair
      · exact List.mem_append_right _ hpair
    · exact List.any_eq_true.mpr ⟨n, hn, hcapital⟩
  -- A code that no character has stands for the character of code zero.
  rcases toNat_ofNat_cases n with hsame | hzero
  · rwa [hsame]
  · rw [hzero]; rfl

/-- The parts of a character that is no capital letter and has none in it. -/
theorem isCapital_of_mem_decomposition {c d : Char} (hc : IsLower c)
    (hd : d ∈ Text.decomposition c) : isCapital d.toNat = false := by
  unfold Text.decomposition at hd
  split at hd
  next =>
    rw [List.mem_singleton.mp hd]
    exact hc.1
  next =>
  -- The three tables are asked one after the other, and each gives no capital letters.
  cases hhangul : Text.hangulLetters? c with
  | some letters =>
    rw [hhangul] at hd
    exact isCapital_of_mem_hangulLetters? hhangul hd
  | none =>
  cases hcomposite : Text.composites.image? c with
  | some text =>
    rw [hhangul, hcomposite] at hd
    exact isCapital_of_mem_image? (.inl rfl) hc hcomposite hd
  | none =>
  cases hreplaced : Text.replaced.image? c with
  | some text =>
    rw [hhangul, hcomposite, hreplaced] at hd
    exact isCapital_of_mem_image? (.inr rfl) hc hreplaced hd
  | none =>
    rw [hhangul, hcomposite, hreplaced] at hd
    rw [List.mem_singleton.mp hd]
    exact hc.1

/-- A Hangul syllable is no capital letter. -/
theorem isCapital_of_hangulSyllable? {a b c : Char} (h : Text.hangulSyllable? a b = some c) :
    isCapital c.toNat = false := by
  unfold Text.hangulSyllable? at h
  dsimp only at h
  split at h
  -- A leading consonant and a vowel: the syllable lies beyond ASCII, so it is no capital.
  next =>
    obtain rfl := Option.some.inj h
    rw [Nat.add_assoc]
    exact isCapital_ofNat (Nat.le_add_right_of_le (by decide))
  split at h
  -- A syllable and a trailing consonant: the same, further up.
  next hsyllable =>
    obtain rfl := Option.some.inj h
    exact isCapital_ofNat (Nat.le_add_right_of_le (Nat.le_trans (by decide) hsyllable.1))
  next => cases h

/-- What two characters are put together to is no capital letter. -/
theorem isCapital_of_composition? {a b c : Char} (h : Text.composition? a b = some c) :
    isCapital c.toNat = false := by
  unfold Text.composition? at h
  split at h
  next => cases h
  next =>
    rcases Option.or_eq_some_iff.mp h with hhangul | ⟨-, hpreimage⟩
    · exact isCapital_of_hangulSyllable? hhangul
    · obtain ⟨n, hpair, rfl⟩ := Text.CharMap.mem_pairs_of_preimage? hpreimage
      exact isCapital_ofNat (of_decide_eq_true (List.all_eq_true.mp composites_wide _ hpair))

/-- A character of a composed text is of the text, or two were put together to it. -/
theorem mem_composeFrom {first c : Char} {kept cs : List Char}
    (h : c ∈ Text.composeFrom first kept cs) :
    c = first ∨ c ∈ kept ∨ c ∈ cs ∨ ∃ a b, Text.composition? a b = some c := by
  induction cs generalizing first kept with
  | nil =>
    simp only [Text.composeFrom, List.mem_cons, List.mem_reverse] at h
    exact h.imp_right .inl
  | cons d rest ih =>
    rw [Text.composeFrom] at h
    split at h
    next whole hwhole =>
      -- The character at the front is put together with this one.
      have hcomposed : Text.composition? first d = some whole :=
        (Option.ite_none_right_eq_some.mp hwhole).2
      rcases ih h with rfl | hkept | hrest | hother
      · exact .inr (.inr (.inr ⟨first, d, hcomposed⟩))
      · exact .inr (.inl hkept)
      · exact .inr (.inr (.inl (List.mem_cons_of_mem d hrest)))
      · exact .inr (.inr (.inr hother))
    next =>
      split at h
      next =>
        -- This one begins anew, and what was kept stays behind the one before.
        rcases List.mem_append.mp h with hfront | hrest
        · rcases List.mem_cons.mp hfront with hfirst | hkept
          · exact .inl hfirst
          · exact .inr (.inl (List.mem_reverse.mp hkept))
        · rcases ih hrest with rfl | hnil | hrest | hother
          · exact .inr (.inr (.inl List.mem_cons_self))
          · cases hnil
          · exact .inr (.inr (.inl (List.mem_cons_of_mem d hrest)))
          · exact .inr (.inr (.inr hother))
      next =>
        -- This one is a mark that is kept.
        rcases ih h with hfirst | hkept | hrest | hother
        · exact .inl hfirst
        · rcases List.mem_cons.mp hkept with rfl | hkept
          · exact .inr (.inr (.inl List.mem_cons_self))
          · exact .inr (.inl hkept)
        · exact .inr (.inr (.inl (List.mem_cons_of_mem d hrest)))
        · exact .inr (.inr (.inr hother))

/-- A composed text has no capital letter if the text has none, and none in its characters. -/
theorem isCapital_of_mem_composed {cs : List Char} (h : ∀ c ∈ cs, IsLower c) {c : Char}
    (hc : c ∈ Text.composed cs) : isCapital c.toNat = false := by
  -- The order of the parts is changed, but not which they are.
  have hordered : ∀ d ∈ Text.ordered (cs.flatMap Text.decomposition),
      isCapital d.toNat = false := by
    intro d hd
    obtain ⟨whole, hwhole, hd⟩ := List.mem_flatMap.mp ((Text.ordered_perm _).mem_iff.mp hd)
    exact isCapital_of_mem_decomposition (h whole hwhole) hd
  unfold Text.composed at hc
  split at hc
  next => cases hc
  next first rest hparts =>
    rw [hparts] at hordered
    -- A character of the composed text is one of the parts or is composed of two of them.
    rcases mem_composeFrom hc with rfl | hnil | hrest | ⟨a, b, hcomposition⟩
    · exact hordered c List.mem_cons_self
    · cases hnil
    · exact hordered c (List.mem_cons_of_mem first hrest)
    · exact isCapital_of_composition? hcomposition

/-- A name that has been read is in lower case. -/
theorem toLower_of_mem_read? {cs text : List Char} (h : read? cs = some text) :
    ∀ c ∈ text, c.toLower = c := by
  obtain ⟨hmap, -⟩ := Option.filter_eq_some_iff.mp h
  obtain ⟨texts, htexts, rfl⟩ := Option.map_eq_some_iff.mp hmap
  have hlower : ∀ c ∈ texts.flatten, IsLower c := by
    intro c hc
    obtain ⟨text, htext, hc⟩ := List.mem_flatten.mp hc
    obtain ⟨d, -, hd⟩ := exists_mem_of_mapM htexts text htext
    exact isLower_of_reading? hd hc
  intro c hc
  -- There are no capital letters among those of ASCII, so nothing is to be put in lower case.
  have hcapital := isCapital_of_mem_composed hlower hc
  simp only [isCapital, Bool.and_eq_false_iff, decide_eq_false_iff_not] at hcapital
  refine dif_neg fun hletter => ?_
  simp only [ge_iff_le, UInt32.le_iff_toNat_le] at hletter
  have hcode : 0x41 ≤ c.toNat ∧ c.toNat ≤ 0x5A := hletter
  omega

end Url.Domain

end BearerCache
