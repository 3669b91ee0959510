import Mathlib.Data.Bool.AllAny
import Mathlib.Data.List.Forall2
import BearerCache.Proofs.Casing
import BearerCache.Proofs.Punycode
import BearerCache.Proofs.TextParts

/-! # Names are read back

A name that has been brought to ASCII is brought to itself: it has small letters only, its labels
are those it was made of, and each label means what it was made from.  For a label beyond ASCII that
is so because its Punycode is read back; but a Punycode may be too long to be read at all, although
the label is not too long to be written (`isShort`).

## Key results

- `meaning?_ofMeaning`: a label in ASCII has the meaning that it was made from
- `ascii?_of_ascii?`: a name in ASCII is brought to itself
- `ascii?_eq_none_of_long`: a name with a Punycode that is too long is not read
-/

namespace BearerCache.Url.Domain

/-- A list is mapped to another when its members are, one by one. -/
theorem mapM_eq_some_iff {α β : Type} {f : α → Option β} {xs : List α} {ys : List β} :
    xs.mapM f = some ys ↔ List.Forall₂ (fun x y => f x = some y) xs ys := by
  induction xs generalizing ys with
  | nil =>
    rw [List.mapM_nil, List.forall₂_nil_left_iff]
    exact ⟨fun h => (Option.some.inj h).symm, fun h => h ▸ rfl⟩
  | cons x xs ih =>
    simp only [List.mapM_cons, Option.bind_eq_bind, Option.pure_def, Option.bind_eq_some_iff,
      Option.some.injEq, List.forall₂_cons_left_iff, ih]
    grind

/-! ## Labels -/

/-- Whether a label has no Punycode that is too long to be read. -/
def isShort (label : List Char) : Bool :=
  match label with
  | 'x' :: 'n' :: '-' :: '-' :: code => code.length ≤ longestCode
  | _ => true

/-- A label in ASCII has the meaning that it was made from. -/
theorem meaning?_ofMeaning {label meant : List Char} (h : meaning? label = some meant)
    (hshort : isShort (ofMeaning meant)) : meaning? (ofMeaning meant) = some meant := by
  have hlabel := h
  unfold meaning? at h
  split at h
  -- A label that is read as Punycode has to be the Punycode of its meaning; any other one is
  -- written as Punycode only when it has a character outside ASCII.
  next code =>
    split at h
    next => cases h
    next =>
      -- The label has Punycode itself, and that is the Punycode of its meaning.
      obtain ⟨hwide, hcode⟩ := Bool.and_eq_true_iff.mp (Option.filter_eq_some_iff.mp h).2
      rw [ofMeaning, if_pos hwide, beq_iff_eq.mp hcode]
      exact hlabel
  next =>
    cases h
    -- The label means itself. Written as Punycode it is read again unless it got too long.
    unfold ofMeaning at hshort ⊢
    split
    next hwide =>
      rw [if_pos hwide] at hshort
      have hlength : ¬longestCode < (Punycode.encode label).length :=
        Nat.not_lt.mpr (of_decide_eq_true hshort)
      rw [meaning?, if_neg hlength, Punycode.decode?_encode]
      exact Option.filter_some_pos (by rw [hwide, beq_self_eq_true, Bool.and_self])
    next => exact hlabel

/-- A label in ASCII has characters of ASCII only. -/
theorem lt_of_mem_ofMeaning {meant : List Char} {c : Char} (h : c ∈ ofMeaning meant) :
    c.toNat < 0x80 := by
  have hdigit : ∀ n < 36, (Punycode.digit n).toNat < 0x80 := by decide
  unfold ofMeaning at h
  split at h
  next =>
    rcases List.mem_append.mp (show c ∈ ['x', 'n', '-', '-'] ++ Punycode.encode meant from h)
      with hc | hc
    · have hmark : ∀ c ∈ ['x', 'n', '-', '-'], c.toNat < 0x80 :=
        List.all_iff_forall_prop.mp (by decide)
      exact hmark c hc
    -- Punycode consists of the ASCII characters of the label, the hyphen and its own digits.
    · rcases Punycode.mem_encode c hc with ⟨-, hascii⟩ | rfl | ⟨n, hn, rfl⟩
      · exact hascii
      · decide
      · exact hdigit n hn
  next hnarrow =>
    have hnot := fun hle => hnarrow (List.any_eq_true.mpr ⟨c, h, decide_eq_true hle⟩)
    exact Nat.lt_of_not_le hnot

/-! ## Names -/

/-- What a name in ASCII is made of. -/
theorem exists_meanings {name text : List Char} (h : ascii? name = some text) :
    ∃ read meanings, read? name = some read ∧ (labels read).mapM meaning? = some meanings ∧
      areWellFormed meanings ∧ text = ['.'].intercalate (meanings.map ofMeaning) := by
  simp only [ascii?, Option.bind_eq_bind, Option.pure_def, Option.bind_eq_some_iff,
    Option.some.injEq] at h
  obtain ⟨read, hread, meanings, hmeanings, rfl⟩ := h
  obtain ⟨hmapM, hfit⟩ := Option.filter_eq_some_iff.mp hmeanings
  exact ⟨read, meanings, hread, hmapM, hfit, rfl⟩

/-- A text that is read as itself is in ASCII if its labels mean what they were made from. -/
theorem ascii?_of_read? {text : List Char} {meanings : List (List Char)}
    (hread : read? text = some text) (hmeanings : (labels text).mapM meaning? = some meanings)
    (hfit : areWellFormed meanings) (htext : text = ['.'].intercalate (meanings.map ofMeaning)) :
    ascii? text = some text := by
  rw [ascii?, hread]
  simp only [Option.bind_eq_bind, Option.bind_some, Option.pure_def, hmeanings]
  rw [Option.filter_some_pos hfit, Option.bind_some, ← htext]

section

variable {name text read : List Char} {meanings : List (List Char)}

/-- The labels of a name in ASCII are those it was made of. -/
theorem labels_ascii (hmeanings : (labels read).mapM meaning? = some meanings) :
    labels (['.'].intercalate (meanings.map ofMeaning)) = meanings.map ofMeaning := by
  refine Text.splitOnP_intercalate rfl ?_ fun label hlabel => ?_
  -- A name has at least one label, and as many meanings as labels.
  · have hne := List.splitOnP_ne_nil (· == '.') read
    intro hnil
    have hlength := (mapM_eq_some_iff.mp hmeanings).length_eq
    rw [List.map_eq_nil_iff.mp hnil] at hlength
    exact hne (List.length_eq_zero_iff.mp hlength)
  · obtain ⟨meant, hmeant, rfl⟩ := List.mem_map.mp hlabel
    obtain ⟨part, hpart, hmeaning⟩ := exists_mem_of_mapM hmeanings meant hmeant
    -- Neither a Punycode digit nor the label as it was read has a full stop in it.
    have hdigit : ∀ n < 36, Punycode.digit n ≠ '.' := by decide
    have hplain : ∀ c ∈ part, c ≠ '.' := fun c hc => by
      have hno := Text.not_of_mem_splitOnP hpart hc
      exact ne_of_beq_false hno
    have hpoint := forall_mem_ofMeaning (P := (· ≠ '.'))
      (List.all_iff_forall_prop.mp (by decide)) hdigit hmeaning hplain
    exact fun c hc => beq_false_of_ne (hpoint c hc)

/-- A name in ASCII has characters of ASCII only. -/
theorem lt_of_mem_ascii? (h : ascii? name = some text) : ∀ c ∈ text, c.toNat < 0x80 := by
  obtain ⟨read, meanings, -, -, -, rfl⟩ := exists_meanings h
  intro c hc
  rcases Text.mem_intercalate hc with hpoint | ⟨label, hlabel, hc⟩
  · rw [List.mem_singleton.mp hpoint]
    decide
  · obtain ⟨meant, -, rfl⟩ := List.mem_map.mp hlabel
    exact lt_of_mem_ofMeaning hc

/-- A name in ASCII is read as itself. -/
theorem read?_ascii (h : ascii? name = some text) : read? text = some text := by
  have hascii := lt_of_mem_ascii? h
  have hplain := not_reserved_of_ascii? h
  obtain ⟨read, meanings, hread, hmeanings, -, rfl⟩ := exists_meanings h
  have hlower := toLower_of_mem_read? hread
  refine read?_of_ascii hascii (fun c hc => ?_) hplain
  -- What is written is in lower case already, so reading it maps nothing.
  rcases Text.mem_intercalate hc with hpoint | ⟨label, hlabel, hc⟩
  · rw [List.mem_singleton.mp hpoint]
    decide
  · obtain ⟨meant, hmeant, rfl⟩ := List.mem_map.mp hlabel
    obtain ⟨part, hpart, hmeaning⟩ := exists_mem_of_mapM hmeanings meant hmeant
    have hdigit : ∀ n < 36, (Punycode.digit n).toLower = Punycode.digit n := by decide
    exact forall_mem_ofMeaning (P := fun c => c.toLower = c)
      (List.all_iff_forall_prop.mp (by decide)) hdigit hmeaning
      (fun d hd => hlower d (Text.mem_of_mem_splitOnP hpart hd)) c hc

/-- A name in ASCII is brought to itself, if no label has a Punycode that is too long. -/
theorem ascii?_of_ascii? (h : ascii? name = some text)
    (hshort : ∀ label ∈ labels text, isShort label) : ascii? text = some text := by
  have hself := read?_ascii h
  obtain ⟨read, meanings, -, hmeanings, hfit, rfl⟩ := exists_meanings h
  refine ascii?_of_read? hself ?_ hfit rfl
  rw [labels_ascii hmeanings] at hshort ⊢
  refine mapM_eq_some_iff.mpr ?_
  rw [List.forall₂_map_left_iff, List.forall₂_same]
  -- The text of a label is read back as what the label means.
  intro meant hmeant
  obtain ⟨part, -, hmeaning⟩ := exists_mem_of_mapM hmeanings meant hmeant
  exact meaning?_ofMeaning hmeaning (hshort _ (List.mem_map_of_mem hmeant))

/-- A name in ASCII with a Punycode that is too long is not read. -/
theorem ascii?_eq_none_of_long (h : ascii? name = some text) {label : List Char}
    (hlabel : label ∈ labels text) (hlong : isShort label = false) : ascii? text = none := by
  have hnone : meaning? label = none := by
    unfold isShort at hlong
    split at hlong
    next code => rw [meaning?, if_pos (Nat.lt_of_not_le (of_decide_eq_false hlong))]
    next => cases hlong
  refine Option.eq_none_iff_forall_ne_some.mpr fun again hagain => ?_
  obtain ⟨read, meanings, hread, hmeanings, -, -⟩ := exists_meanings hagain
  cases (read?_ascii h).symm.trans hread
  -- Each label of a name that is brought to ASCII has a meaning.
  have hall := (mapM_eq_some_iff.mp hmeanings).imp fun label meant hmeaning =>
    And.intro (Option.isSome_of_eq_some hmeaning) hmeaning
  have hsome := ((List.forall₂_and_left _ _).mp hall).1 label hlabel
  rw [hnone] at hsome
  cases hsome

end

end BearerCache.Url.Domain
