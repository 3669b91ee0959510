/-! # Parts of a text

A text with separators in it falls into parts, which `List.splitOnP` gives: what is before the first
of them, between two of them, and after the last.  Here is what characters the parts have, and what
becomes of parts that are put together again with separators between them. -/

namespace BearerCache.Text

/-- The characters of a part are of the text, and none of them separates. -/
private theorem of_mem_splitOnP {isSeparator : Char → Bool} {cs part : List Char} {c : Char}
    (hpart : part ∈ cs.splitOnP isSeparator) (hc : c ∈ part) :
    c ∈ cs ∧ isSeparator c = false := by
  -- On the text; a character is in the first part of what follows, or in a later one.
  induction cs generalizing part with
  | nil =>
    rw [List.splitOnP_nil, List.mem_singleton] at hpart
    rw [hpart] at hc
    cases hc
  | cons d rest ih =>
    have hlater {other : List Char} (hother : other ∈ rest.splitOnP isSeparator)
        (hc : c ∈ other) : c ∈ d :: rest ∧ isSeparator c = false :=
      (ih hother hc).imp_left (List.mem_cons_of_mem d)
    rw [List.splitOnP_cons_eq_if_modifyHead] at hpart
    split at hpart
    next =>
      rcases List.mem_cons.mp hpart with rfl | hpart
      · cases hc
      · exact hlater hpart hc
    next hd =>
      cases hrest : rest.splitOnP isSeparator with
      | nil => exact absurd hrest (List.splitOnP_ne_nil isSeparator rest)
      | cons first more =>
        rw [hrest, List.modifyHead_cons] at hpart
        rw [hrest] at hlater
        -- The character is put before the first of the later parts.
        rcases List.mem_cons.mp hpart with rfl | hpart
        · rcases List.mem_cons.mp hc with rfl | hc
          · exact ⟨List.mem_cons_self, Bool.eq_false_iff.mpr hd⟩
          · exact hlater List.mem_cons_self hc
        · exact hlater (List.mem_cons_of_mem first hpart) hc

/-- The characters of a part are of the text. -/
theorem mem_of_mem_splitOnP {isSeparator : Char → Bool} {cs part : List Char} {c : Char}
    (hpart : part ∈ cs.splitOnP isSeparator) (hc : c ∈ part) : c ∈ cs :=
  (of_mem_splitOnP hpart hc).1

/-- No part has a separator in it. -/
theorem not_of_mem_splitOnP {isSeparator : Char → Bool} {cs part : List Char} {c : Char}
    (hpart : part ∈ cs.splitOnP isSeparator) (hc : c ∈ part) : isSeparator c = false :=
  (of_mem_splitOnP hpart hc).2

/-- Parts that are put together are the parts again, if there are any and none has a separator. -/
theorem splitOnP_intercalate {isSeparator : Char → Bool} {d : Char} {list : List (List Char)}
    (hd : isSeparator d) (hne : list ≠ [])
    (h : ∀ part ∈ list, ∀ c ∈ part, isSeparator c = false) :
    ([d].intercalate list).splitOnP isSeparator = list := by
  -- On the parts; the separator behind the first one is where the text is first cut.
  induction list with
  | nil => exact absurd rfl hne
  | cons part rest ih =>
    obtain ⟨hpart, hrest⟩ := List.forall_mem_cons.mp h
    cases rest with
    | nil => rw [List.intercalate_singleton, List.splitOnP_eq_singleton hpart]
    | cons next rest =>
      rw [List.intercalate_cons_cons, List.append_assoc, List.singleton_append,
        List.splitOnP_append_cons_of_forall_mem hpart d hd, ih (List.cons_ne_nil next rest) hrest]

/-- The characters of parts that are put together are those of the parts and between them. -/
theorem mem_intercalate {sep : List Char} {parts : List (List Char)} {c : Char}
    (h : c ∈ sep.intercalate parts) : c ∈ sep ∨ ∃ part ∈ parts, c ∈ part := by
  -- On the parts, with the separators between them.
  induction parts with
  | nil => simp at h
  | cons part rest ih =>
    cases rest with
    | nil =>
      rw [List.intercalate_singleton] at h
      exact .inr ⟨part, List.mem_cons_self, h⟩
    | cons next rest =>
      rw [List.intercalate_cons_cons, List.mem_append, List.mem_append] at h
      rcases h with (hpart | hsep) | hrest
      · exact .inr ⟨part, List.mem_cons_self, hpart⟩
      · exact .inl hsep
      · rcases ih hrest with hsep | ⟨other, hother, hc⟩
        · exact .inl hsep
        · exact .inr ⟨other, List.mem_cons_of_mem part hother, hc⟩

/-- The first separator of a text divides it. -/
theorem append_cons_inj {d : Char} {front front' back back' : List Char} (hfront : d ∉ front)
    (hfront' : d ∉ front') (h : front ++ d :: back = front' ++ d :: back') :
    front = front' ∧ back = back' := by
  -- No character of the front is the separator, so both fronts end where it is first met.
  have hne : ∀ {cs : List Char}, d ∉ cs → ∀ c ∈ cs, (c != d) = true := fun hcs c hc =>
    bne_iff_ne.mpr fun heq => hcs (heq ▸ hc)
  have hself : (d != d) = false := bne_self_eq_false d
  have htake := congrArg (List.takeWhile (· != d)) h
  have hdrop := congrArg (List.dropWhile (· != d)) h
  rw [List.takeWhile_append_of_pos (hne hfront),
    List.takeWhile_append_of_pos (hne hfront')] at htake
  rw [List.dropWhile_append_of_pos (hne hfront),
    List.dropWhile_append_of_pos (hne hfront')] at hdrop
  simp only [List.takeWhile_cons, List.dropWhile_cons, hself, Bool.false_eq_true, if_false,
    List.append_nil, List.cons.injEq, true_and] at htake hdrop
  exact ⟨htake, hdrop⟩

end BearerCache.Text
