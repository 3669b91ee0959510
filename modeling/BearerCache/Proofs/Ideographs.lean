import BearerCache.Proofs.DomainText

/-! # Names of ideographs

The tables leave the unified ideographs alone: each is read as itself, is not taken apart and not
put together with another, and has no rule of its own.  So a text of ideographs that is not too long
is a label, and in ASCII it is its Punycode.

## Key results

- `ascii?_of_ideographs`, `labels_encode_of_ideographs`: a text of ideographs in ASCII
-/

namespace BearerCache

/-- Whether a code is that of a unified ideograph of the first block. -/
def Text.isIdeograph (n : Nat) : Bool :=
  0x4E00 ≤ n && n ≤ 0x9FFF

namespace Text

/-! ## What the tables say of ideographs -/

/-- Whether no ideograph is in a set. -/
def CharSet.isFreeOfIdeographs (set : CharSet) : Bool :=
  set.ranges.all fun range => range.2 < 0x4E00 || 0x9FFF < range.1

/-- Whether a map tells nothing of ideographs. -/
def CharMap.isFreeOfIdeographs (map : CharMap) : Bool :=
  map.pairs.all fun p => !isIdeograph p.1

/-- No ideograph is excluded from names or ignored in them, and none is a mark or turns a text. -/
theorem sets_free :
    [Url.Domain.excluded, Url.Domain.ignored, marks, rightToLeftLetters, arabicDigits].all
      CharSet.isFreeOfIdeographs := by
  decide +kernel

/-- No ideograph has a combining class. -/
theorem combiningClasses_free : combiningClasses.all fun p => p.2.isFreeOfIdeographs := by
  decide +kernel

/-- No ideograph is taken apart or read as another text. -/
theorem maps_free :
    [composites, replaced, Url.Domain.readings].all CharMap.isFreeOfIdeographs := by
  decide +kernel

/-- Nothing is put together of ideographs. -/
theorem composites_free : composites.pairs.all fun p => p.2.all fun n => !isIdeograph n := by
  decide +kernel

section

variable {c : Char}

theorem bounds_of_isIdeograph (h : isIdeograph c.toNat) : 0x4E00 ≤ c.toNat ∧ c.toNat ≤ 0x9FFF := by
  simpa [isIdeograph] using h

/-- An ideograph is in no such set. -/
theorem contains_eq_false {set : CharSet} (hset : set.isFreeOfIdeographs)
    (h : isIdeograph c.toNat) : set.contains c = false := by
  obtain ⟨hlow, hhigh⟩ := bounds_of_isIdeograph h
  refine Bool.eq_false_iff.mpr fun hmem => ?_
  obtain ⟨range, hrange, hfirst, hlast⟩ := (CharSet.contains_iff set c).mp hmem
  have hfree := List.all_eq_true.mp hset range hrange
  simp only [Bool.or_eq_true, decide_eq_true_eq] at hfree
  omega

/-- A map that tells nothing of ideographs has nothing in the place of one. -/
theorem image?_eq_none {map : CharMap} (hmap : map.isFreeOfIdeographs)
    (h : isIdeograph c.toNat) : map.image? c = none := by
  refine Option.eq_none_iff_forall_ne_some.mpr fun text htext => ?_
  obtain ⟨codes, hpair, -⟩ := CharMap.mem_pairs_of_image? htext
  have hfree := List.all_eq_true.mp hmap _ hpair
  simp [h] at hfree

/-- The combining class of an ideograph is zero. -/
theorem combiningClass_of_isIdeograph (h : isIdeograph c.toNat) : combiningClass c = 0 := by
  have hnone : combiningClasses.find? (·.2.contains c) = none := by
    refine List.find?_eq_none.mpr fun p hp => ?_
    rw [contains_eq_false (List.all_eq_true.mp combiningClasses_free p hp) h]
    exact Bool.false_ne_true
  rw [combiningClass, hnone]
  split <;> rfl

/-- An ideograph is not taken apart. -/
theorem decomposition_of_isIdeograph (h : isIdeograph c.toNat) : decomposition c = [c] := by
  obtain ⟨hlow, hhigh⟩ := bounds_of_isIdeograph h
  have hfree := List.all_eq_true.mp maps_free
  rw [decomposition, if_neg (by omega), hangulLetters?, if_neg (by omega),
    image?_eq_none (hfree composites (by simp)) h, image?_eq_none (hfree replaced (by simp)) h]
  rfl

/-- An ideograph is not put together with what follows it. -/
theorem composition?_of_isIdeograph (h : isIdeograph c.toNat) (d : Char) :
    composition? c d = none := by
  obtain ⟨hlow, hhigh⟩ := bounds_of_isIdeograph h
  -- No ideograph begins a Hangul syllable, nor is it the first half of a composite character.
  have hsyllable : hangulSyllable? c d = none := by
    unfold hangulSyllable?
    dsimp only
    rw [if_neg (by omega), if_neg (by omega)]
  have hwhole : composites.preimage? ([c] ++ [d]) = none := by
    refine Option.eq_none_iff_forall_ne_some.mpr fun whole hsome => ?_
    obtain ⟨n, hpair, -⟩ := CharMap.mem_pairs_of_preimage? hsome
    have hfree := List.all_eq_true.mp composites_free _ hpair
    simp [h] at hfree
  rw [composition?, decomposition_of_isIdeograph h, hsyllable, hwhole]
  split <;> rfl

end

/-! ## Texts of ideographs -/

variable {cs : List Char}

theorem ordered_of_ideographs (h : ∀ c ∈ cs, isIdeograph c.toNat) : ordered cs = cs := by
  induction cs with
  | nil => rfl
  | cons c rest ih =>
    have hrest := ih fun d hd => h d (List.mem_cons_of_mem c hd)
    rw [ordered, List.foldr_cons, ← ordered, hrest]
    cases rest with
    | nil => rfl
    | cons d more =>
      -- No ideograph is a mark, so none is moved.
      have hclass := combiningClass_of_isIdeograph (h d (by simp))
      rw [placeMark, hclass, if_neg (by simp)]

theorem composeFrom_of_ideographs {first : Char} (hfirst : isIdeograph first.toNat)
    (h : ∀ c ∈ cs, isIdeograph c.toNat) : composeFrom first [] cs = first :: cs := by
  induction cs generalizing first with
  | nil => rfl
  | cons c rest ih =>
    obtain ⟨hc, hrest⟩ := List.forall_mem_cons.mp h
    simp [composeFrom, composition?_of_isIdeograph hfirst, combiningClass_of_isIdeograph hc,
      ih hc hrest]

/-- A text of ideographs is its own composed form. -/
theorem composed_of_ideographs (h : ∀ c ∈ cs, isIdeograph c.toNat) : composed cs = cs := by
  have hparts : cs.flatMap decomposition = cs := by
    rw [List.flatMap_congr fun c hc => decomposition_of_isIdeograph (h c hc),
      List.flatMap_singleton']
  rw [composed, hparts, ordered_of_ideographs h]
  cases cs with
  | nil => rfl
  | cons c rest =>
    obtain ⟨hc, hrest⟩ := List.forall_mem_cons.mp h
    exact composeFrom_of_ideographs hc hrest

end Text

namespace Url.Domain

open Text (isIdeograph bounds_of_isIdeograph contains_eq_false)

variable {cs : List Char}

/-- No ideograph has a meaning of its own in an address. -/
theorem not_reserved_of_isIdeograph {c : Char} (h : isIdeograph c.toNat) :
    isReserved c = false := by
  have hmarks : ∀ d ∈ "%#/:<>?@[\\]^|".toList, d.toNat < 0x80 :=
    List.all_iff_forall_prop.mp (by decide)
  obtain ⟨hlow, hhigh⟩ := bounds_of_isIdeograph h
  -- All reserved characters are in ASCII, and no ideograph is.
  refine Bool.eq_false_iff.mpr fun hreserved => ?_
  simp only [isReserved, Bool.or_eq_true, decide_eq_true_eq, beq_iff_eq,
    List.contains_iff_mem] at hreserved
  rcases hreserved with (hreserved | hreserved) | hmem
  · omega
  · omega
  · exact absurd (hmarks c hmem) (by omega)

/-- A text of ideographs is read as itself. -/
theorem read?_of_ideographs (h : ∀ c ∈ cs, isIdeograph c.toNat) : read? cs = some cs := by
  have hsets := List.all_eq_true.mp Text.sets_free
  have hmaps := List.all_eq_true.mp Text.maps_free
  -- None of the tables has an ideograph in it, so each is read as itself.
  have hread : cs.mapM reading? = some (cs.map fun c => [c]) := by
    refine mapM_eq_some_iff.mpr ?_
    rw [List.forall₂_map_right_iff, List.forall₂_same]
    intro c hc
    obtain ⟨hlow, hhigh⟩ := bounds_of_isIdeograph (h c hc)
    rw [reading?, if_neg (by omega), contains_eq_false (hsets excluded (by simp)) (h c hc),
      contains_eq_false (hsets ignored (by simp)) (h c hc),
      Text.image?_eq_none (hmaps readings (by simp)) (h c hc)]
    rfl
  have hplain : cs.any isReserved = false :=
    List.any_eq_false.mpr fun c hc => by simp [not_reserved_of_isIdeograph (h c hc)]
  rw [read?, hread, Option.map_some, ← List.flatMap_def, List.flatMap_singleton',
    Text.composed_of_ideographs h]
  exact Option.filter_some_pos (by rw [hplain, Bool.not_false])

/-- The joiners of a text of ideographs fit, since there are none. -/
theorem joinersFit_of_ideographs (before : List Char) (h : ∀ c ∈ cs, isIdeograph c.toNat) :
    joinersFit before cs := by
  -- On the characters: none is a joiner, whatever stands before it.
  induction cs generalizing before with
  | nil => rfl
  | cons c rest ih =>
    obtain ⟨hc, hrest⟩ := List.forall_mem_cons.mp h
    have hjoiner {d : Char} (hd : isIdeograph d.toNat = false) : c ≠ d := fun heq => by
      rw [heq, hd] at hc
      cases hc
    have hfirst : c ≠ '\u200C' := hjoiner (by decide)
    have hsecond : c ≠ '\u200D' := hjoiner (by decide)
    rw [joinersFit, if_neg hfirst, decide_eq_true hsecond, Bool.true_or, Bool.true_and]
    exact ih (c :: before) hrest

/-- A text of ideographs is a label, if it is not too long. -/
theorem isWellFormed_of_ideographs (hlength : cs.length ≤ longestWide)
    -- The five conditions on a wide label: it is read as itself, begins with no mark, fits joiners
    -- and length.
    (h : ∀ c ∈ cs, isIdeograph c.toNat) : isWellFormed cs := by
  have hmarks := List.all_eq_true.mp Text.sets_free Text.marks (by simp)
  have hfirst : cs.head?.any Text.isMark = false := by
    cases cs with
    | nil => rfl
    | cons c rest =>
      rw [List.head?_cons, Option.any_some, Text.isMark,
        contains_eq_false hmarks (h c List.mem_cons_self)]
      split <;> rfl
  rw [isWellFormed, read?_of_ideographs h, hfirst, joinersFit_of_ideographs [] h,
    decide_eq_true hlength, beq_self_eq_true]
  rfl

/-- A text of ideographs is one label, and means itself. -/
theorem mapM_meaning?_of_ideographs (h : ∀ c ∈ cs, isIdeograph c.toNat) :
    (labels cs).mapM meaning? = some [cs] := by
  -- There is neither a point nor the mark `xn--` in ideographs, so they are one label that means
  -- itself.
  have hlabels : labels cs = [cs] := by
    refine List.splitOnP_eq_singleton fun c hc => beq_false_of_ne ?_
    rintro rfl
    exact absurd (h _ hc) (by decide)
  have hmeaning : meaning? cs = some cs := by
    unfold meaning?
    split
    next => exact absurd (h 'x' List.mem_cons_self) (by decide)
    next => rfl
  rw [hlabels, List.mapM_cons, hmeaning]
  rfl

/-- The label of a text of ideographs is its Punycode. -/
theorem ofMeaning_of_ideographs (hne : cs ≠ []) (h : ∀ c ∈ cs, isIdeograph c.toNat) :
    isWide cs ∧ ofMeaning cs = 'x' :: 'n' :: '-' :: '-' :: Punycode.encode cs := by
  have hwide : isWide cs := by
    obtain ⟨c, rest, rfl⟩ := List.exists_cons_of_ne_nil hne
    have hc := bounds_of_isIdeograph (h c List.mem_cons_self)
    rw [isWide, List.any_cons, decide_eq_true (by omega), Bool.true_or]
  exact ⟨hwide, by rw [ofMeaning, if_pos hwide]⟩

/-- A text of ideographs in ASCII is its Punycode, if it is not too long. -/
theorem ascii?_of_ideographs (hne : cs ≠ []) (hlength : cs.length ≤ longestWide)
    (h : ∀ c ∈ cs, isIdeograph c.toNat) :
    ascii? cs = some ('x' :: 'n' :: '-' :: '-' :: Punycode.encode cs) := by
  have hsets := List.all_eq_true.mp Text.sets_free
  obtain ⟨hwide, hlabel⟩ := ofMeaning_of_ideographs hne h
  -- No ideograph makes a text run from right to left.
  have hstays : cs.any Text.turnsText = false := by
    refine List.any_eq_false.mpr fun c hc => ?_
    rw [Text.turnsText, contains_eq_false (hsets Text.rightToLeftLetters (by simp)) (h c hc),
      contains_eq_false (hsets Text.arabicDigits (by simp)) (h c hc)]
    simp
  have hfit : areWellFormed [cs] := by
    rw [areWellFormed, List.filter_cons_of_pos hwide, List.filter_nil, List.all_cons, List.all_nil,
      isWellFormed_of_ideographs hlength h, List.any_cons, List.any_nil, hstays]
    rfl
  rw [ascii?, read?_of_ideographs h]
  simp only [Option.bind_eq_bind, Option.bind_some, Option.pure_def, mapM_meaning?_of_ideographs h]
  rw [Option.filter_some_pos hfit, Option.bind_some, List.map_singleton,
    List.intercalate_singleton, hlabel]

/-- The Punycode of a text of ideographs is one label. -/
theorem labels_encode_of_ideographs (hne : cs ≠ []) (h : ∀ c ∈ cs, isIdeograph c.toNat) :
    labels ('x' :: 'n' :: '-' :: '-' :: Punycode.encode cs) =
      ['x' :: 'n' :: '-' :: '-' :: Punycode.encode cs] := by
  have hlabels := labels_ascii (mapM_meaning?_of_ideographs h)
  rwa [List.map_singleton, List.intercalate_singleton, (ofMeaning_of_ideographs hne h).2]
    at hlabels

end Url.Domain

end BearerCache
