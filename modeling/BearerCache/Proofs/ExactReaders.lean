import BearerCache.Proofs.JsonSkip

/-! # Readers that take just one value

A reader takes a value if it gives the same for it wherever it stands: behind white space, and
before whatever can follow a value.  It is exact if all that it ever reads is a value which it
takes.  What an exact reader reads is therefore settled by the text of the value alone.

## Key results

- `IsExact.takes_iff`: what an exact reader takes is what it reads from the value by itself
- `isExact_skip`, `isExact_number`, `isExact_text`, `IsExact.refine`, `IsExact.option`: readers that
  are exact
- `takes_text_iff`: the strings that are taken for a text
-/

namespace BearerCache.Json.Reader

variable {α β : Type} {r : Reader α} {v : List UInt8} {a : α} {b : β}

/-- A reader takes a value, wherever it stands. -/
def Takes (r : Reader α) (v : List UInt8) (a : α) : Prop :=
  ∀ w rest, IsBlank w → Stops rest → r.run (w ++ (v ++ rest)) = .ok (a, rest)

/-- A reader refuses a value, wherever it stands. -/
def Rejects (r : Reader α) (v : List UInt8) : Prop :=
  ∀ w rest, IsBlank w → Stops rest → ∃ fault, r.run (w ++ (v ++ rest)) = .error fault

/-- All that a reader reads is a value that it takes, with white space before it. -/
def IsExact (r : Reader α) : Prop :=
  ∀ bs a rest, r.run bs = .ok (a, rest) →
    ∃ w v, bs = w ++ (v ++ rest) ∧ IsBlank w ∧ IsValue v ∧ r.Takes v a

/-- A value that is taken is read from its text alone. -/
theorem Takes.run (h : r.Takes v a) : r.run v = .ok (a, []) := by
  simpa using h [] [] .nil trivial

/-- An exact reader takes just the values that it reads from their text alone. -/
theorem IsExact.takes_iff (h : r.IsExact) (hv : IsValue v) :
    r.Takes v a ↔ r.run v = .ok (a, []) := by
  refine ⟨Takes.run, fun hrun => ?_⟩
  obtain ⟨w, v', rfl, hw, -, htakes⟩ := h v a [] hrun
  obtain rfl := hw.eq_nil_of_isValue hv
  simpa using htakes

/-- What is read of a whole text is read of its front, and white space follows it. -/
theorem parse_eq_ok_iff {text : List UInt8} :
    r.parse text = .ok a ↔ ∃ w, r.run text = .ok (a, w) ∧ IsBlank w := by
  unfold parse
  split
  next fault hrun => simp [hrun]
  next a' rest hrun =>
    rw [hrun]
    -- Only blanks may follow the value, and that they all are blank is what `blanks` finds.
    split
    next hnil =>
      constructor
      · intro h
        cases h
        exact ⟨rest, rfl, blanks_eq_nil_iff.mp hnil⟩
      · rintro ⟨w, h, -⟩
        cases h
        rfl
    next b more hcons =>
      constructor
      · intro h
        cases h
      · rintro ⟨w, h, hw⟩
        cases h
        rw [blanks_eq_nil_iff.mpr hw] at hcons
        cases hcons

/-- What is read of the front of a text does not depend on what follows. -/
theorem parseFront_eq_ok_iff {text : List UInt8} :
    r.parseFront text = .ok a ↔ ∃ rest, r.run text = .ok (a, rest) := by
  unfold parseFront
  cases r.run text with
  | error fault => simp [Except.map]
  | ok p => simp [Except.map, Prod.ext_iff]

/-! ## What is read may be turned into something else -/

theorem Takes.refine (h : r.Takes v a) {f : α → Except String β} (hf : f a = .ok b) :
    (r.refine f).Takes v b := by
  intro w rest hw hrest
  simp only [Reader.refine, h w rest hw hrest, hf]

theorem Takes.map (h : r.Takes v a) (f : α → β) : (r.map f).Takes v (f a) :=
  h.refine rfl

theorem Rejects.map (h : r.Rejects v) (f : α → β) : (r.map f).Rejects v := by
  intro w rest hw hrest
  obtain ⟨fault, hrun⟩ := h w rest hw hrest
  exact ⟨fault, by simp only [Reader.map, Reader.refine, hrun]⟩

/-- What is read and then turned into something else has been read. -/
theorem refine_eq_ok_iff {f : α → Except String β} {bs rest : List UInt8} :
    (r.refine f).run bs = .ok (b, rest) ↔ ∃ a, r.run bs = .ok (a, rest) ∧ f a = .ok b := by
  simp only [Reader.refine]
  -- The reader fails or its value is refused, and the value is the same one on both sides.
  cases hrun : r.run bs with
  | error fault => simp
  | ok p =>
    obtain ⟨a, tail⟩ := p
    dsimp only
    cases hf : f a with
    | error detail =>
      refine iff_of_false nofun ?_
      rintro ⟨a', ha', hf'⟩
      cases ha'
      cases hf.symm.trans hf'
    | ok b' =>
      constructor
      · intro h
        cases h
        exact ⟨a, rfl, hf⟩
      · rintro ⟨a', ha', hf'⟩
        cases ha'
        cases hf.symm.trans hf'
        rfl

/-- A whole text that is read and then turned into something else has been read. -/
theorem parse_refine_eq_ok_iff {f : α → Except String β} {text : List UInt8} :
    (r.refine f).parse text = .ok b ↔ ∃ a, r.parse text = .ok a ∧ f a = .ok b := by
  simp only [parse_eq_ok_iff, refine_eq_ok_iff]
  constructor
  · rintro ⟨w, ⟨a, hrun, hf⟩, hw⟩
    exact ⟨a, ⟨w, hrun, hw⟩, hf⟩
  · rintro ⟨a, ⟨w, hrun, hw⟩, hf⟩
    exact ⟨w, ⟨a, hrun, hf⟩, hw⟩

/-- What a check has passed has been read, whatever the words are for what the check finds. -/
theorem parse_checked_eq_ok_iff {ε : Type} {check : α → Except ε β} {message : ε → String}
    {text : List UInt8} :
    (r.refine fun a => (check a).mapError message).parse text = .ok b ↔
      ∃ a, r.parse text = .ok a ∧ check a = .ok b := by
  have hcheck (a : α) : (check a).mapError message = .ok b ↔ check a = .ok b := by
    cases check a <;> simp [Except.mapError]
  simp only [parse_refine_eq_ok_iff, hcheck]

theorem map_eq_ok {f : α → β} {bs rest : List UInt8} (h : (r.map f).run bs = .ok (b, rest)) :
    ∃ a, r.run bs = .ok (a, rest) ∧ f a = b := by
  obtain ⟨a, hrun, hf⟩ := refine_eq_ok_iff.mp h
  exact ⟨a, hrun, Except.ok.inj hf⟩

theorem IsExact.refine (h : r.IsExact) (f : α → Except String β) : (r.refine f).IsExact := by
  intro bs b rest hrun
  obtain ⟨a, hrun, hf⟩ := refine_eq_ok_iff.mp hrun
  obtain ⟨w, v, hbs, hw, hv, htakes⟩ := h bs a rest hrun
  exact ⟨w, v, hbs, hw, hv, htakes.refine hf⟩

theorem IsExact.map (h : r.IsExact) (f : α → β) : (r.map f).IsExact :=
  h.refine _

/-! ## Values that are passed over -/

/-- Every value is passed over. -/
theorem takes_skip (hv : IsValue v) : skip.Takes v () := by
  intro w rest hw hrest
  simp only [skip, hv.skipValue hw hrest]
  rfl

theorem isExact_skip : skip.IsExact := by
  intro bs a rest hrun
  cases hskip : skipValue bs with
  | error fault =>
    simp only [skip, hskip] at hrun
    cases hrun
  | ok more =>
    simp only [skip, hskip] at hrun
    cases hrun
    obtain ⟨w, v, hbs, hw, hv⟩ := exists_of_skipValue hskip
    exact ⟨w, v, hbs, hw, hv, takes_skip hv⟩

/-! ## Numbers -/

variable {expected : String} {m : Numeral}

/-- What stands behind white space is looked at as a number. -/
theorem run_number {w tail : List UInt8} {first : UInt8} (hw : IsBlank w)
    (hfirst : first = 0x2D ∨ isDigit first) :
    (number expected).run (w ++ first :: tail) = numeral (first :: tail) := by
  have hblanks := hw.blanks_eq_cons (startsValue_of_sign_or_digit hfirst).1 tail
  simp only [number, ofByte, hblanks, if_pos hfirst]

/-- A number is taken if it is read. -/
theorem takes_number (hv : IsNumber v) (h : numeral v = .ok (m, [])) :
    (number expected).Takes v m := by
  intro w rest hw hrest
  obtain ⟨v', hv', -, hmore⟩ := scans_numeral v m [] h
  rw [List.append_nil] at hv'
  subst hv'
  obtain ⟨first, tail, rfl, hfirst⟩ := hv.exists_cons
  rw [List.cons_append, run_number hw hfirst]
  exact hmore rest hrest

theorem isExact_number : (number expected).IsExact := by
  intro bs m rest hrun
  obtain ⟨w, hw, hbs⟩ := exists_isBlank bs
  simp only [number, ofByte] at hrun
  split at hrun
  -- The blanks are skipped before the first byte decides that a number stands here.
  next first tail hblanks =>
    split at hrun
    next hfirst =>
      obtain ⟨v, hv, hnumber, hmore⟩ := scans_numeral _ m rest hrun
      have hread : numeral v = .ok (m, []) := by simpa using hmore [] trivial
      refine ⟨w, v, ?_, hw, .number hnumber, takes_number hnumber hread⟩
      rw [hbs, hblanks, hv]
    next => cases hrun
  next => cases hrun

/-- What is read as a number by itself is one. -/
theorem numeral_of_run (hv : IsValue v) (h : (number expected).run v = .ok (m, [])) :
    IsNumber v ∧ numeral v = .ok (m, []) := by
  obtain ⟨first, tail, rfl, hstart⟩ := hv.exists_cons
  simp only [number, ofByte, blanks_cons hstart.1] at h
  split at h
  next =>
    obtain ⟨v, hv, hnumber, -⟩ := scans_numeral _ m [] h
    rw [hv, List.append_nil] at h ⊢
    exact ⟨hnumber, h⟩
  next => cases h

/-! ## Texts -/

variable {s : String}

/-- A string is taken for the text that it stands for. -/
theorem takes_text (h : IsStringOf s v) : (textAs expected).Takes v s := by
  intro w rest hw _
  cases h with | @mk body hbody =>
  have hblanks : blanks (w ++ 0x22 :: (body ++ 0x22 :: rest)) = 0x22 :: (body ++ 0x22 :: rest) :=
    hw.blanks_eq_cons (by decide) _
  simp only [textAs, ofByte, List.cons_append, List.append_assoc, List.nil_append, hblanks,
    if_true]
  exact stringText_of_spells hbody rest

/-- What is read as a text is a string that stands for it. -/
theorem exists_of_run_text {bs rest : List UInt8} (h : (textAs expected).run bs = .ok (s, rest)) :
    ∃ w v, bs = w ++ (v ++ rest) ∧ IsBlank w ∧ IsStringOf s v := by
  obtain ⟨w, hw, hbs⟩ := exists_isBlank bs
  simp only [textAs, ofByte] at h
  split at h
  next first tail hblanks =>
    split at h
    next hfirst =>
      obtain ⟨body, rfl, hbody⟩ := exists_of_stringText h
      exact ⟨w, _, by rw [hbs, hblanks, hfirst]; simp, hw, .mk hbody⟩
    next => cases h
  next => cases h

theorem isExact_text : (textAs expected).IsExact := by
  intro bs s rest hrun
  obtain ⟨w, v, hbs, hw, hv⟩ := exists_of_run_text hrun
  exact ⟨w, v, hbs, hw, hv.isValue, takes_text hv⟩

/-- Just the strings that stand for a text are taken for it. -/
theorem takes_text_iff (hv : IsValue v) : (textAs expected).Takes v s ↔ IsStringOf s v := by
  refine ⟨fun h => ?_, takes_text⟩
  obtain ⟨w, v', rfl, hw, hstring⟩ := exists_of_run_text h.run
  obtain rfl := hw.eq_nil_of_isValue hv
  simpa using hstring

/-- A whole text is read as what it is a string for. -/
theorem parse_text_eq_ok_iff {text : List UInt8} :
    (textAs expected).parse text = .ok s ↔ IsString s text := by
  rw [parse_eq_ok_iff]
  -- A text that is read whole is blanks, the value, and blanks.
  constructor
  · rintro ⟨w', hrun, hw'⟩
    obtain ⟨w, v, rfl, hw, hv⟩ := exists_of_run_text hrun
    exact .mk hw hv hw'
  · intro h
    cases h with | @mk w v w' hw hv hw' =>
    have hstops : Stops w' := by simpa using @Stops.of_isBlank w' [] hw' trivial
    exact ⟨w', takes_text hv w w' hw hstops, hw'⟩

/-! ## Values that may be null -/

/-- A value that does not start as `null` does is read as it is. -/
theorem run_option {bs tail : List UInt8} {first : UInt8} (h : blanks bs = first :: tail)
    (hne : first ≠ 0x6E) : (option r).run bs = (r.map some).run bs := by
  simp only [option, h]
  split
  next heq => exact absurd (List.cons.inj heq).1 hne
  next => rfl

/-- Null is taken for nothing. -/
theorem takes_null : (option r).Takes [0x6E, 0x75, 0x6C, 0x6C] none := by
  intro w rest hw hrest
  have hblanks : blanks (w ++ ([0x6E, 0x75, 0x6C, 0x6C] ++ rest)) =
      0x6E :: ([0x75, 0x6C, 0x6C] ++ rest) := hw.blanks_eq_cons (by decide) _
  simp only [option, hblanks, ident_append]
  rfl

theorem Takes.option (h : r.Takes v a) (hv : IsValue v) (hne : v.head? ≠ some 0x6E) :
    (option r).Takes v (some a) := by
  intro w rest hw hrest
  have hblanks := hv.blanks hw rest
  obtain ⟨first, tail, rfl, -⟩ := hv.exists_cons
  rw [run_option hblanks fun heq => hne (congrArg some heq)]
  exact h.map some w rest hw hrest

theorem Rejects.option (h : r.Rejects v) (hv : IsValue v) (hne : v.head? ≠ some 0x6E) :
    (option r).Rejects v := by
  intro w rest hw hrest
  have hblanks := hv.blanks hw rest
  obtain ⟨first, tail, rfl, -⟩ := hv.exists_cons
  rw [run_option hblanks fun heq => hne (congrArg some heq)]
  exact h.map some w rest hw hrest

/-- What starts as `null` does is null. -/
theorem run_option_null {bs tail rest : List UInt8} {a : Option α} (h : blanks bs = 0x6E :: tail)
    (hrun : (option r).run bs = .ok (a, rest)) :
    a = none ∧ tail = [0x75, 0x6C, 0x6C] ++ rest := by
  simp only [option, h] at hrun
  cases hident : ident [0x75, 0x6C, 0x6C] tail with
  | error fault =>
    rw [hident] at hrun
    cases hrun
  | ok more =>
    rw [hident] at hrun
    cases hrun
    exact ⟨rfl, eq_append_of_ident hident⟩

theorem IsExact.option (h : r.IsExact) : (option r).IsExact := by
  intro bs a rest hrun
  obtain ⟨w, hw, hbs⟩ := exists_isBlank bs
  cases hblanks : blanks bs with
  -- At the end of the text the reader itself would have to succeed, and it needs a byte.
  | nil =>
    simp only [Reader.option, hblanks] at hrun
    obtain ⟨a, hread, -⟩ := map_eq_ok hrun
    obtain ⟨w', v, hbs', hw', hv, -⟩ := h bs a rest hread
    rw [hbs', hv.blanks hw'] at hblanks
    obtain ⟨first, tail, rfl, -⟩ := hv.exists_cons
    cases hblanks
  | cons first tail =>
    by_cases hfirst : first = 0x6E
    -- An `n` starts nothing but `null`.
    · subst hfirst
      obtain ⟨rfl, rfl⟩ := run_option_null hblanks hrun
      refine ⟨w, [0x6E, 0x75, 0x6C, 0x6C], ?_, hw, .word (by decide), takes_null⟩
      rw [hbs, hblanks]
      rfl
    -- Whatever else stands there is read by the reader itself.
    · rw [run_option hblanks hfirst] at hrun
      obtain ⟨a, hread, rfl⟩ := map_eq_ok hrun
      obtain ⟨w', v, hbs', hw', hv, htakes⟩ := h bs a rest hread
      refine ⟨w', v, hbs', hw', hv, htakes.option hv fun hhead => hfirst ?_⟩
      rw [hbs', hv.blanks hw'] at hblanks
      obtain ⟨other, more, rfl, -⟩ := hv.exists_cons
      rw [← (List.cons.inj hblanks).1]
      exact Option.some.inj hhead

end BearerCache.Json.Reader
