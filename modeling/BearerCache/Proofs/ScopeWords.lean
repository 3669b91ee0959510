import BearerCache.Scopes
import Mathlib.Data.List.Sort
import Mathlib.Data.List.TakeWhile

/-! # Scope sets and words

A text is read as the scope set of its words.  A word is never empty and has no blank in it, so
any text with a word in it is read, and which set it is read as depends only on which words it
has.  Words with single spaces between them are found again, so the normal text of a set is read
as that set.

## Key results

- `Text.scopeFault?_of_mem_words`: every word of a text is a scope
- `Text.words_eq_nil_iff`: a text has no words if and only if it is blank
- `Text.wordChars_append_blank`: a blank parts the words before it from the words behind it
- `Scopes.ofText_congr`: texts with the same words are the same scope set, or neither is one
- `Scopes.ofText_normalText`: the normal text of a scope set is read back
-/

namespace BearerCache

/-! ## Words -/

namespace Text

/-- A run of characters that are not blank has one, and no other. -/
theorem wordChars_spec {cs word : List Char} (h : word ∈ wordChars cs) :
    word ≠ [] ∧ ∀ c ∈ word, isBlank c = false := by
  fun_induction wordChars cs with
  | case1 cs hrest => cases h
  | case2 cs c rest hrest ih =>
    rcases List.mem_cons.mp h with rfl | htail
    · refine ⟨List.cons_ne_nil _ _, fun d hd => ?_⟩
      rcases List.mem_cons.mp hd with rfl | hd
      · -- The run starts where the blanks before it end.
        have hfirst := List.head_dropWhile_not (l := cs) isBlank (by simp [hrest])
        simpa only [hrest, List.head_cons] using hfirst
      · simpa using List.mem_takeWhile_imp hd
    · exact ih htail

/-- There are no runs if and only if all characters are blank. -/
theorem wordChars_eq_nil_iff {cs : List Char} : wordChars cs = [] ↔ cs.all isBlank := by
  have hall : cs.all isBlank ↔ cs.dropWhile isBlank = [] :=
    List.all_eq_true.trans List.dropWhile_eq_nil_iff.symm
  rw [hall, wordChars]
  split
  next hrest => exact iff_of_true rfl hrest
  next hrest => simp [hrest]

/-- A text has no words if and only if it is blank. -/
theorem words_eq_nil_iff {s : String} : words s = [] ↔ isAllBlank s := by
  rw [words, List.map_eq_nil_iff, wordChars_eq_nil_iff, isAllBlank]

/-- Every word of a text is a scope. -/
theorem scopeFault?_of_mem_words {s word : String} (h : word ∈ words s) :
    scopeFault? word = none := by
  obtain ⟨cs, hcs, rfl⟩ := List.mem_map.mp h
  obtain ⟨hne, hblank⟩ := wordChars_spec hcs
  have hnone : cs.any isBlank = false := by
    simpa using hblank
  rw [scopeFault?, String.toList_ofList, if_neg hne, if_neg (by simp [hnone])]

end Text

/-! ## The set of the words -/

namespace Scopes

/-- Lists with the same texts have the same normal order. -/
theorem normalOrder_congr {xs ys : List String} (h : ∀ x, x ∈ xs ↔ x ∈ ys) :
    normalOrder xs = normalOrder ys := by
  refine (sorted_normalOrder xs).eq_of_mem_iff (sorted_normalOrder ys) fun x => ?_
  rw [mem_normalOrder, mem_normalOrder, h]

/-- A list of scopes that is not empty is a scope set. -/
theorem ofList_of_valid {xs : List String} (hvalid : ∀ x ∈ xs, scopeFault? x = none)
    (hne : xs ≠ []) : ∃ scopes, ofList xs = .ok scopes ∧ scopes.elements = normalOrder xs := by
  have hnone : xs.findSome? scopeFault? = none := List.findSome?_eq_none_iff.mpr hvalid
  unfold ofList
  split
  next fault hfault => cases hnone.symm.trans hfault
  next => exact ⟨_, dif_neg hne, rfl⟩

/-- A text with a word in it is the scope set of its words. -/
theorem ofText_of_words {s : String} (h : Text.words s ≠ []) :
    ∃ scopes, ofText s = .ok scopes ∧ scopes.elements = normalOrder (Text.words s) :=
  ofList_of_valid (fun _ => Text.scopeFault?_of_mem_words) h

/-- Scope sets with the same scopes are the same. -/
theorem eq_of_elements {a b : Scopes} (h : a.elements = b.elements) : a = b := by
  cases a
  cases b
  cases h
  rfl

/-- Texts with the same words are the same scope set, or neither is one. -/
theorem ofText_congr {s t : String} (h : ∀ word, word ∈ Text.words s ↔ word ∈ Text.words t) :
    ofText s = ofText t := by
  by_cases hs : Text.words s = []
  · -- Then the other text has no words either.
    have ht : Text.words t = [] := by
      rw [List.eq_nil_iff_forall_not_mem] at hs ⊢
      exact fun word hword => hs word ((h word).mpr hword)
    rw [ofText, ofText, hs, ht]
  · have ht : Text.words t ≠ [] := by
      obtain ⟨word, hword⟩ := List.exists_mem_of_ne_nil _ hs
      exact List.ne_nil_of_mem ((h word).mp hword)
    obtain ⟨scopes, hscopes, helements⟩ := ofText_of_words hs
    obtain ⟨scopes', hscopes', helements'⟩ := ofText_of_words ht
    have heq : scopes = scopes' :=
      eq_of_elements (by rw [helements, helements', normalOrder_congr h])
    rw [hscopes, hscopes', heq]

end Scopes

/-! ## Words put together -/

namespace Text

/-- The first run starts where the blanks in front end. -/
private theorem wordChars_eq (cs : List Char) :
    wordChars cs =
      match cs.dropWhile isBlank with
      | [] => []
      | c :: rest =>
        (c :: rest.takeWhile (!isBlank ·)) :: wordChars (rest.dropWhile (!isBlank ·)) := by
  rw [wordChars]
  split
  next hnil => rw [hnil]
  next c rest hcons => rw [hcons]

@[simp] theorem wordChars_nil : wordChars [] = [] :=
  wordChars_eq_nil_iff.mpr rfl

/-- Characters that are not blank are a run. -/
theorem wordChars_run {run : List Char} (hne : run ≠ [])
    (hrun : ∀ c ∈ run, isBlank c = false) : wordChars run = [run] := by
  obtain ⟨first, rest, rfl⟩ := List.exists_cons_of_ne_nil hne
  obtain ⟨hfirst, hrest⟩ := List.forall_mem_cons.mp hrun
  have hstart : (first :: rest).dropWhile isBlank = first :: rest :=
    List.dropWhile_cons_of_neg (by rw [hfirst]; exact Bool.false_ne_true)
  have hinside : ∀ c ∈ rest, (!isBlank c) = true := fun c hc => by rw [hrest c hc]; rfl
  rw [wordChars_eq, hstart]
  simp only
  rw [List.takeWhile_eq_self_iff.mpr hinside, List.dropWhile_eq_nil_iff.mpr hinside, wordChars_nil]

/-- A blank parts the runs before it from the runs behind it. -/
theorem wordChars_append_blank {c : Char} (hc : isBlank c) (cs ds : List Char) :
    wordChars (cs ++ c :: ds) = wordChars cs ++ wordChars ds := by
  -- Along the words of the first text.
  fun_induction wordChars cs with
  | case1 cs hnone =>
    have hblank : (cs ++ c :: ds).dropWhile isBlank = ds.dropWhile isBlank := by
      rw [List.dropWhile_append_of_pos (List.dropWhile_eq_nil_iff.mp hnone),
        List.dropWhile_cons_of_pos hc]
    rw [wordChars_eq, hblank, ← wordChars_eq, List.nil_append]
  | case2 cs first rest hrest ih =>
    have hstart : (cs ++ c :: ds).dropWhile isBlank = first :: (rest ++ c :: ds) := by
      rw [List.dropWhile_append, hrest]
      rfl
    -- The first run ends before the blank, at the latest.
    have hrun : (rest ++ c :: ds).takeWhile (!isBlank ·) = rest.takeWhile (!isBlank ·) := by
      rw [List.takeWhile_append, List.takeWhile_cons_of_neg (by simp [hc]), List.append_nil]
      split
      next hlength => exact ((List.takeWhile_prefix _).eq_of_length hlength).symm
      next => rfl
    have hbehind : (rest ++ c :: ds).dropWhile (!isBlank ·) =
        rest.dropWhile (!isBlank ·) ++ c :: ds := by
      rw [List.dropWhile_append, List.dropWhile_cons_of_neg (by simp [hc])]
      split
      next hempty => rw [List.isEmpty_iff.mp hempty, List.nil_append]
      next => rfl
    rw [wordChars_eq, hstart]
    simp only
    rw [hrun, hbehind, ih, List.cons_append]

/-- Runs with single spaces between them are found again. -/
private theorem wordChars_intercalate {runs : List (List Char)}
    (h : ∀ run ∈ runs, run ≠ [] ∧ ∀ c ∈ run, isBlank c = false) :
    wordChars ([' '].intercalate runs) = runs := by
  -- On the runs, with a blank behind each but the last.
  induction runs with
  | nil => rw [List.intercalate_nil, wordChars_nil]
  | cons run rest ih =>
    obtain ⟨⟨hne, hrun⟩, hrest⟩ := List.forall_mem_cons.mp h
    cases rest with
    | nil => rw [List.intercalate_singleton, wordChars_run hne hrun]
    | cons next rest =>
      rw [List.intercalate_cons_cons, List.append_assoc, List.singleton_append,
        wordChars_append_blank rfl, wordChars_run hne hrun, ih hrest, List.singleton_append]

/-- Scopes with single spaces between them are the words of the text. -/
theorem words_intercalate {scopes : List String} (h : ∀ s ∈ scopes, scopeFault? s = none) :
    words (" ".intercalate scopes) = scopes := by
  -- A scope is a run of characters without a blank.
  have hruns : ∀ run ∈ scopes.map String.toList, run ≠ [] ∧ ∀ c ∈ run, isBlank c = false := by
    intro run hrun
    obtain ⟨s, hs, rfl⟩ := List.mem_map.mp hrun
    have hvalid := h s hs
    unfold scopeFault? at hvalid
    split at hvalid
    next => cases hvalid
    next hne =>
      split at hvalid
      next => cases hvalid
      next hblank => exact ⟨hne, by simpa using hblank⟩
  have hspace : " ".toList = [' '] := rfl
  rw [words, String.toList_intercalate, hspace, wordChars_intercalate hruns, List.map_map]
  exact List.map_id'' (fun _ => String.ofList_toList) _

end Text

namespace Scopes

/-- The words of the normal text of a scope set are its scopes. -/
theorem words_normalText (scopes : Scopes) : Text.words scopes.normalText = scopes.elements :=
  Text.words_intercalate scopes.valid

/-- The normal text of a scope set is read as the set. -/
theorem ofText_normalText (scopes : Scopes) : ofText scopes.normalText = .ok scopes := by
  have hne : Text.words scopes.normalText ≠ [] := words_normalText scopes ▸ scopes.nonempty
  obtain ⟨read, hread, helements⟩ := ofText_of_words hne
  have hnormal : normalOrder scopes.elements = scopes.elements :=
    (sorted_normalOrder _).eq_of_mem_iff scopes.sorted fun _ => mem_normalOrder
  rw [words_normalText, hnormal] at helements
  rw [hread, eq_of_elements helements]

/-- The normal text of a scope set is not blank. -/
theorem isAllBlank_normalText (scopes : Scopes) : Text.isAllBlank scopes.normalText = false := by
  rw [Bool.eq_false_iff, ne_eq, ← Text.words_eq_nil_iff, words_normalText]
  exact scopes.nonempty

end Scopes

end BearerCache
