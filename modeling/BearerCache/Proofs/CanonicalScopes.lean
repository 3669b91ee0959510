import BearerCache.Proofs.ByteOrder
import BearerCache.Proofs.ExactReaders
import BearerCache.Proofs.ScopeWords

/-! # Scope sets in canonical form

A scope set is made of a list, of the words of a text, or of a string in JSON.  Whatever it is made
of, it holds each scope once, in the order of the bytes, and which scopes those are is all there is
to say about it.  So the set of a list is the one that holds what the list holds, and its normal
text stands for it.

## Key results

- `Text.mem_words_iff`: the words of a text, as the parts of it between blanks
- `Scopes.isCanonical`: the scopes of a set are in canonical form
- `Scopes.ofList_eq_ok_iff`, `Scopes.ofText_eq_ok_iff`: the set of a list and of a text
- `Scopes.canonical_sets`: where scope sets come from, and what makes no difference to them
-/

namespace BearerCache

/-- A scope: a text with characters in it, none of which is blank. -/
def IsScope (s : String) : Prop :=
  s ≠ "" ∧ ∀ c ∈ s.toList, Text.isBlank c = false

/-- Nothing is wrong with a scope. -/
theorem scopeFault?_eq_none_iff {s : String} : scopeFault? s = none ↔ IsScope s := by
  rw [scopeFault?, IsScope, ne_eq, ← String.toList_eq_nil_iff]
  by_cases hnil : s.toList = []
  · simp [hnil]
  · simp [hnil]

/-! ## Words -/

namespace Text

/-- A part of some characters that is not empty and in which none is blank, with a blank or an end
on either side. -/
def IsRun (cs run : List Char) : Prop :=
  ∃ before after, cs = before ++ (run ++ after) ∧
    (run ≠ [] ∧ ∀ c ∈ run, isBlank c = false) ∧
    (∀ c ∈ before.getLast?, isBlank c) ∧ ∀ c ∈ after.head?, isBlank c

/-- A word of a text. -/
def IsWord (text word : String) : Prop :=
  IsRun text.toList word.toList

variable {cs ds run : List Char}

/-- What follows a blank makes no difference to the runs before it. -/
theorem IsRun.append_blank {c : Char} (hc : isBlank c) (h : IsRun cs run) (ds : List Char) :
    IsRun (cs ++ c :: ds) run := by
  obtain ⟨before, after, rfl, hrun, hbefore, hafter⟩ := h
  refine ⟨before, after ++ c :: ds, by simp, hrun, hbefore, fun d hd => ?_⟩
  cases after with
  | nil =>
    cases hd
    exact hc
  | cons first after => exact hafter d hd

/-- What stands before a blank makes no difference to the runs behind it. -/
theorem IsRun.blank_append {c : Char} (hc : isBlank c) (h : IsRun ds run) (cs : List Char) :
    IsRun (cs ++ c :: ds) run := by
  obtain ⟨before, after, rfl, hrun, hbefore, hafter⟩ := h
  refine ⟨cs ++ c :: before, after, by simp, hrun, fun d hd => ?_, hafter⟩
  rw [List.getLast?_append, List.getLast?_cons] at hd
  -- With nothing before the run, it is the new blank that stands in front of it.
  cases hlast : before.getLast? with
  | none =>
    rw [hlast] at hd
    cases hd
    exact hc
  | some last =>
    rw [hlast] at hd hbefore
    exact hbefore d hd

/-- What is found as a run is one. -/
theorem isRun_of_mem_wordChars {cs run : List Char} (h : run ∈ wordChars cs) : IsRun cs run := by
  by_cases hblank : ∃ c ∈ cs, isBlank c
  · -- A blank parts the characters, and the run is found on one side of it.
    obtain ⟨c, hc, hc'⟩ := hblank
    obtain ⟨cs₁, cs₂, hcs⟩ := List.append_of_mem hc
    rw [hcs, wordChars_append_blank hc', List.mem_append] at h
    rw [hcs]
    rcases h with h | h
    · exact (isRun_of_mem_wordChars h).append_blank hc' cs₂
    · exact (isRun_of_mem_wordChars h).blank_append hc' cs₁
  · have hnone : ∀ c ∈ cs, isBlank c = false := fun c hc =>
      Bool.eq_false_iff.mpr fun hc' => hblank ⟨c, hc, hc'⟩
    -- Without a blank all the characters are one run, unless there are none.
    by_cases hnil : cs = []
    · simp [hnil] at h
    · rw [wordChars_run hnil hnone, List.mem_singleton] at h
      subst h
      exact ⟨[], [], by simp, ⟨hnil, hnone⟩, by simp, by simp⟩
termination_by cs.length
decreasing_by all_goals rw [hcs, List.length_append, List.length_cons]; omega

/-- A run is found as one. -/
theorem IsRun.mem_wordChars (h : IsRun cs run) : run ∈ wordChars cs := by
  obtain ⟨before, after, rfl, ⟨hne, hrun⟩, hbefore, hafter⟩ := h
  -- The run ends where a blank or nothing follows, and it is then the first word.
  have hbehind : run ∈ wordChars (run ++ after) := by
    cases after with
    | nil => rw [List.append_nil, wordChars_run hne hrun]; exact List.mem_singleton_self run
    | cons c after =>
      rw [wordChars_append_blank (hafter c rfl), wordChars_run hne hrun]
      exact List.mem_append_left _ (List.mem_singleton_self run)
  -- Before the run is nothing or a blank, which parts it from the words in front.
  cases hlast : before.getLast? with
  | none => rwa [List.getLast?_eq_none_iff.mp hlast]
  | some c =>
    obtain ⟨front, rfl⟩ := List.getLast?_eq_some_iff.mp hlast
    rw [List.append_assoc, List.singleton_append, wordChars_append_blank (hbefore c hlast)]
    exact List.mem_append_right _ hbehind

/-- The words of a text are found. -/
theorem mem_words_iff {text word : String} : word ∈ words text ↔ IsWord text word := by
  rw [words, List.mem_map, IsWord]
  constructor
  · rintro ⟨run, hrun, rfl⟩
    rw [String.toList_ofList]
    exact isRun_of_mem_wordChars hrun
  · intro h
    exact ⟨word.toList, h.mem_wordChars, String.ofList_toList⟩

/-- A text has a word if and only if it has a character that is not blank. -/
theorem words_ne_nil_iff {text : String} :
    words text ≠ [] ↔ ∃ c ∈ text.toList, isBlank c = false := by
  rw [ne_eq, words_eq_nil_iff, isAllBlank]
  simp

end Text

/-! ## The scopes of a set -/

/-- Scopes in canonical form: there are some, and their bytes increase. -/
structure IsCanonical (elements : List String) : Prop where
  ne_nil : elements ≠ []
  increasing : elements.Pairwise fun s t => Text.bytes s < Text.bytes t
  isScope : ∀ s ∈ elements, IsScope s

namespace Scopes

variable {xs ys : List String} {text : String} {scopes : Scopes}

/-- The scopes of a set are in canonical form. -/
theorem isCanonical (scopes : Scopes) : IsCanonical scopes.elements where
  ne_nil := scopes.nonempty
  increasing := scopes.sorted.imp Text.bytes_lt_bytes_iff.mpr
  isScope s hs := scopeFault?_eq_none_iff.mp (scopes.valid s hs)

/-- Sets that hold the same scopes are the same. -/
theorem eq_of_mem_iff {a b : Scopes} (h : ∀ s, s ∈ a.elements ↔ s ∈ b.elements) : a = b :=
  eq_of_elements (a.sorted.eq_of_mem_iff b.sorted h)

/-- A list is a set if it is not empty and holds nothing but scopes. -/
theorem exists_ofList_iff :
    (∃ scopes, ofList xs = .ok scopes) ↔ xs ≠ [] ∧ ∀ x ∈ xs, IsScope x := by
  constructor
  -- Neither a fault nor an empty list has stood in the way.
  · rintro ⟨scopes, h⟩
    unfold ofList at h
    split at h
    next => cases h
    next hnone =>
      split at h
      next => cases h
      next hne =>
        exact ⟨hne, fun x hx => scopeFault?_eq_none_iff.mp
          (List.findSome?_eq_none_iff.mp hnone x hx)⟩
  · rintro ⟨hne, hvalid⟩
    obtain ⟨scopes, hscopes, -⟩ :=
      ofList_of_valid (fun x hx => scopeFault?_eq_none_iff.mpr (hvalid x hx)) hne
    exact ⟨scopes, hscopes⟩

/-- The set of a list is the one that holds what the list holds. -/
theorem ofList_eq_ok_iff : ofList xs = .ok scopes ↔ ∀ s, s ∈ scopes.elements ↔ s ∈ xs := by
  have hread (hne : xs ≠ []) (hvalid : ∀ x ∈ xs, IsScope x) :
      ∃ read, ofList xs = .ok read ∧ ∀ s, s ∈ read.elements ↔ s ∈ xs := by
    obtain ⟨read, hok, helements⟩ :=
      ofList_of_valid (fun x hx => scopeFault?_eq_none_iff.mpr (hvalid x hx)) hne
    exact ⟨read, hok, fun s => by rw [helements, mem_normalOrder]⟩
  constructor
  · intro h
    obtain ⟨hne, hvalid⟩ := exists_ofList_iff.mp ⟨scopes, h⟩
    obtain ⟨read, hok, hmem⟩ := hread hne hvalid
    cases hok.symm.trans h
    exact hmem
  · intro h
    -- What the set holds is valid, and so is the list.
    obtain ⟨s, hs⟩ := List.exists_mem_of_ne_nil _ scopes.nonempty
    obtain ⟨read, hok, hmem⟩ := hread (List.ne_nil_of_mem ((h s).mp hs))
      fun x hx => scopes.isCanonical.isScope x ((h x).mpr hx)
    rw [hok, eq_of_mem_iff fun s => (hmem s).trans (h s).symm]

/-- A text is a set if not all of it is blank. -/
theorem exists_ofText_iff :
    (∃ scopes, ofText text = .ok scopes) ↔ ∃ c ∈ text.toList, Text.isBlank c = false := by
  rw [ofText, exists_ofList_iff, Text.words_ne_nil_iff]
  refine and_iff_left fun word hword => ?_
  exact scopeFault?_eq_none_iff.mp (Text.scopeFault?_of_mem_words hword)

/-- The set of a text is the one that holds its words. -/
theorem ofText_eq_ok_iff :
    ofText text = .ok scopes ↔ ∀ s, s ∈ scopes.elements ↔ Text.IsWord text s := by
  rw [ofText, ofList_eq_ok_iff]
  simp only [Text.mem_words_iff]

/-- A set is read from the JSON that a text of it is read from. -/
theorem parse_reader_eq_ok_iff {json : List UInt8} :
    reader.parse json = .ok scopes ↔
      ∃ text, Json.Reader.text.parse json = .ok text ∧ ofText text = .ok scopes :=
  Json.Reader.parse_checked_eq_ok_iff

/-- Sets are the same if and only if their normal texts are. -/
theorem normalText_inj {a b : Scopes} : a.normalText = b.normalText ↔ a = b := by
  constructor
  · intro h
    have hread := ofText_normalText a
    rw [h, ofText_normalText b] at hread
    exact (Except.ok.inj hread).symm
  · rintro rfl
    rfl

/-- Lists that hold the same texts are the same set, or neither is one. -/
theorem toOption_ofList_congr (h : ∀ x, x ∈ xs ↔ x ∈ ys) :
    (ofList xs).toOption = (ofList ys).toOption := by
  have hsame (scopes : Scopes) : ofList xs = .ok scopes ↔ ofList ys = .ok scopes := by
    rw [ofList_eq_ok_iff, ofList_eq_ok_iff]
    simp only [h]
  cases hxs : ofList xs with
  | ok scopes => rw [(hsame scopes).mp hxs]
  | error fault =>
    cases hys : ofList ys with
    | ok scopes => cases hxs.symm.trans ((hsame scopes).mpr hys)
    | error fault => rfl

/-- The scopes of a set are in canonical form.  A list is a set if it is not empty and holds nothing
but scopes, and a text if it is not blank, by itself or as a string in JSON; the set then holds what
the list holds, or the words of the text, and no other set does.  The normal text of a set stands
for that set and no other.  Neither the order of a list nor how often a scope is in it makes a
difference, nor do the blanks between the words of a text. -/
theorem canonical_sets :
    (∀ scopes : Scopes, IsCanonical scopes.elements) ∧
    (∀ xs, (∃ scopes, ofList xs = .ok scopes) ↔ xs ≠ [] ∧ ∀ x ∈ xs, IsScope x) ∧
    (∀ xs scopes, ofList xs = .ok scopes ↔ ∀ s, s ∈ scopes.elements ↔ s ∈ xs) ∧
    (∀ text, (∃ scopes, ofText text = .ok scopes) ↔
      ∃ c ∈ text.toList, Text.isBlank c = false) ∧
    (∀ text scopes, ofText text = .ok scopes ↔ ∀ s, s ∈ scopes.elements ↔ Text.IsWord text s) ∧
    (∀ json scopes, reader.parse json = .ok scopes ↔
      ∃ text, Json.IsString text json ∧ ofText text = .ok scopes) ∧
    (∀ scopes, ofText scopes.normalText = .ok scopes) ∧
    (∀ a b : Scopes, a.normalText = b.normalText ↔ a = b) ∧
    (∀ xs ys, (∀ x, x ∈ xs ↔ x ∈ ys) → (ofList xs).toOption = (ofList ys).toOption) ∧
    (∀ s t, (∀ word, Text.IsWord s word ↔ Text.IsWord t word) → ofText s = ofText t) := by
  refine ⟨isCanonical, fun xs => exists_ofList_iff, fun xs scopes => ofList_eq_ok_iff,
    fun text => exists_ofText_iff, fun text scopes => ofText_eq_ok_iff, fun json scopes => ?_,
    ofText_normalText, fun a b => normalText_inj, fun xs ys => toOption_ofList_congr,
    fun s t h => ofText_congr fun word => ?_⟩
  -- What JSON reads is a text, and what it is made into depends on the text alone.
  · simp only [parse_reader_eq_ok_iff, Json.Reader.text, Json.Reader.parse_text_eq_ok_iff]
  · rw [Text.mem_words_iff, Text.mem_words_iff, h]

end Scopes

namespace Sample

open Scopes

/-- Two scopes the other way round, once more, and with other blanks are the same set. -/
theorem rearranged_scopes :
    (ofList ["b:2", "a:1"]).toOption = (ofList ["a:1", "b:2", "a:1"]).toOption ∧
      ofText "b:2 a:1" = ofText "\ta:1\n b:2" := by
  obtain ⟨-, -, -, -, -, -, -, -, hlists, htexts⟩ := canonical_sets
  have hwords (word : String) :
      Text.IsWord "b:2 a:1" word ↔ Text.IsWord "\ta:1\n b:2" word := by
    have hfirst : Text.words "b:2 a:1" = ["b:2", "a:1"] := by decide +kernel
    have hsecond : Text.words "\ta:1\n b:2" = ["a:1", "b:2"] := by decide +kernel
    rw [← Text.mem_words_iff, ← Text.mem_words_iff, hfirst, hsecond]
    simp [or_comm]
  exact ⟨hlists _ _ (by simp [or_comm]), htexts _ _ hwords⟩

end Sample

end BearerCache
