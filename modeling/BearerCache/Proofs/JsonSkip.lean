import BearerCache.Proofs.JsonNumberScan
import BearerCache.Proofs.JsonStringScan

/-! # Values are passed over

The pass over a value takes just what the grammar has for one.  It keeps no more than the brackets
that are open, so what it has still to take is described by them: the rest of the innermost one,
its closing byte, and so on outwards (`Pending`).

## Key results

- `pending_of_skipFrom`: what the pass takes from any place on
- `Derives.skipped`: a value is passed over, and so is the rest of a bracket
- `exists_of_skipValue`, `IsValue.skipValue`: whole values
-/

namespace BearerCache.Json

variable {bs rest more w v key inner : List UInt8} {brackets outer : List Bracket}
  {bracket : Bracket} {first : Bool} {place : SkipAt} {b : UInt8}

/-! ## Words, keys and values without brackets -/

/-- A word is taken letter by letter. -/
theorem ident_append (letters rest : List UInt8) : ident letters (letters ++ rest) = .ok rest := by
  induction letters with
  | nil => rfl
  | cons letter letters ih => rw [List.cons_append, ident, if_pos rfl, ih]

theorem eq_append_of_ident {letters : List UInt8} (h : ident letters bs = .ok rest) :
    bs = letters ++ rest := by
  fun_induction ident letters bs with
  | case1 => cases h; rfl
  | case2 => cases h
  | case3 letter letters bs ih => rw [ih h, List.cons_append]
  | case4 => cases h

/-- A value that is not in brackets is passed over. -/
theorem exists_of_skipScalar (h : skipScalar b bs = .ok rest) :
    ∃ v, bs = v ++ rest ∧ IsValue (b :: v) := by
  -- The first byte tells the kind of the value, and each of them has its own scanner.
  unfold skipScalar at h
  split at h
  next hb => exact ⟨_, eq_append_of_ident h, .word (hb ▸ by decide)⟩
  split at h
  next hb => exact ⟨_, eq_append_of_ident h, .word (hb ▸ by decide)⟩
  split at h
  next hb => exact ⟨_, eq_append_of_ident h, .word (hb ▸ by decide)⟩
  split at h
  next hb =>
    obtain ⟨v, rfl, hv⟩ := exists_of_skipUnsigned h
    exact ⟨v, rfl, hb ▸ .number (.negative hv)⟩
  split at h
  next hb =>
    obtain ⟨v, hv, hnumber⟩ := exists_of_skipUnsigned h
    obtain ⟨d, tail, rfl, hd⟩ := hnumber.exists_cons
    obtain ⟨rfl, rfl⟩ := List.cons.inj hv
    exact ⟨tail, rfl, .number (.positive hnumber)⟩
  split at h
  next hb =>
    obtain ⟨body, rfl, hbody⟩ := exists_of_skipString h
    exact ⟨body ++ [0x22], by simp, hb ▸ .string hbody⟩
  next => cases h

/-- A number is passed over. -/
theorem IsNumber.skipScalar {tail : List UInt8} (h : IsNumber (b :: tail)) (hrest : Stops rest) :
    skipScalar b (tail ++ rest) = .ok rest := by
  -- A sign is asked for before the digits are, and no digit is one of the bytes asked for.
  generalize hv : b :: tail = v at h
  cases h with
  | negative h =>
    obtain ⟨rfl, rfl⟩ := List.cons.inj hv
    exact h.skipUnsigned hrest
  | positive h =>
    obtain ⟨d, tail, rfl, hd⟩ := h.exists_cons
    obtain ⟨rfl, rfl⟩ := List.cons.inj hv
    have hne {c : UInt8} (hc : isDigit c = false) : b ≠ c := by
      rintro rfl
      cases hd.symm.trans hc
    rw [Json.skipScalar, if_neg (hne (by decide)), if_neg (hne (by decide)),
      if_neg (hne (by decide)), if_neg (hne (by decide)), if_pos hd]
    exact h.skipUnsigned hrest

/-- A name and the colon behind it are passed over. -/
theorem IsKey.skipKey (h : IsKey .object key) (rest : List UInt8) :
    skipKey (key ++ rest) = .ok rest := by
  cases h with | name hw hbody hw' =>
  simp only [List.append_assoc, List.cons_append, List.nil_append, Json.skipKey, hw.blanks_append,
    blanks_cons (b := 0x22) (by decide), if_true, hbody.skipString, hw'.blanks_append,
    blanks_cons (b := 0x3A) (by decide)]

theorem exists_of_skipKey (h : skipKey bs = .ok rest) :
    ∃ key, bs = key ++ rest ∧ IsKey .object key := by
  -- The quotation mark, the text and the colon have to be there, with blanks before the first and
  -- the last.
  unfold skipKey at h
  split at h
  next => cases h
  next k tail htail =>
    split at h
    next hquote =>
      split at h
      next => cases h
      next afterKey hskip =>
        split at h
        next => cases h
        next c more hcolon =>
          split at h
          next hc =>
            cases h
            obtain ⟨w, hw, hbs⟩ := exists_isBlank bs
            obtain ⟨body, rfl, hbody⟩ := exists_of_skipString hskip
            obtain ⟨w', hw', hafter⟩ := exists_isBlank afterKey
            refine ⟨_, ?_, .name hw hbody hw'⟩
            rw [hbs, htail, hquote, hafter, hcolon, hc]
            simp
          next => cases h
    next => cases h

/-- White space may stand before a name. -/
theorem IsKey.blank_append (h : IsKey .object key) (hw : IsBlank w) :
    IsKey .object (w ++ key) := by
  cases h with | name hw' hbody hw'' =>
  rw [← List.append_assoc]
  exact .name (hw.append hw') hbody hw''

/-! ## What a pass takes -/

/-- What a pass over a value has still to take where it stands: the value, and then for each
bracket that is open the rest of it and its closing byte. -/
inductive Pending : SkipAt → List Bracket → List UInt8 → Prop where
  | done {first : Bool} : Pending (.after first) [] []
  | close {first : Bool} {bracket : Bracket} {outer : List Bracket} {inner more : List UInt8}
      (h : Derives (.rest bracket first) inner) (hmore : Pending (.after false) outer more) :
      Pending (.after first) (bracket :: outer) (inner ++ bracket.closing :: more)
  | value {brackets : List Bracket} {w v more : List UInt8} (hw : IsBlank w) (hv : IsValue v)
      (hmore : Pending (.after false) brackets more) : Pending .value brackets (w ++ (v ++ more))

/-- A bracket that is opened and whose rest is taken is a value. -/
theorem Pending.opened (h : Pending (.after true) (bracket :: brackets) bs) (hw : IsBlank w) :
    Pending .value brackets (w ++ bracket.opening :: bs) := by
  cases h with | @close _ _ _ inner more h hmore =>
  have hvalue : IsValue (bracket.opening :: (inner ++ [bracket.closing])) := .bracket h
  have hpending := Pending.value hw hvalue hmore
  simpa using hpending

/-- A value that is taken in a bracket belongs to the rest of the bracket. -/
theorem Pending.item {comma key : List UInt8} (h : Pending .value (bracket :: outer) bs)
    (hcomma : IsComma first comma) (hkey : IsKey bracket key) (hw : IsBlank w) :
    Pending (.after first) (bracket :: outer) (comma ++ (key ++ (w ++ bs))) := by
  cases h with | @value _ w' v _ hw' hv hmore =>
  cases hmore with | @close _ _ _ inner more hinner hmore =>
  have hitem := Derives.item hcomma hkey (hw.append hw') hv hinner
  have hpending := Pending.close hitem hmore
  simpa using hpending

/-- Before what is looked at next in a bracket stands a comma, unless that is the first thing. -/
theorem exists_afterComma {tail : List UInt8} (h : blanks bs = b :: tail)
    (hcomma : ¬(!first && b != 0x2C) = true) :
    ∃ comma w, IsComma first comma ∧ IsBlank w ∧ bs = comma ++ (w ++ afterComma first b tail) := by
  obtain ⟨w, hw, hbs⟩ := exists_isBlank bs
  rw [h] at hbs
  cases first with
  | true => exact ⟨[], w, .none, hw, hbs⟩
  | false =>
    have hb : b = 0x2C := by simpa using hcomma
    refine ⟨w ++ [0x2C], [], .comma hw, .nil, ?_⟩
    rw [hbs, hb]
    simp [afterComma]

/-- From any place a pass takes what is pending there. -/
theorem pending_of_skipFrom (h : skipFrom place brackets bs = .ok rest) :
    ∃ taken, bs = taken ++ rest ∧ Pending place brackets taken := by
  -- Along the recursion of the scanner; the cases that end it with a fault come first.
  fun_induction skipFrom place brackets bs with
  | case1 | case4 | case7 | case9 | case11 => cases h
  | case2 brackets input tail hb ih =>
    obtain ⟨taken, rfl, hpending⟩ := ih h
    obtain ⟨w, hw, hinput⟩ := exists_isBlank input
    refine ⟨w ++ Bracket.list.opening :: taken, ?_, hpending.opened hw⟩
    rw [hinput, hb, List.append_assoc]
    rfl
  | case3 brackets input tail hb _ ih =>
    obtain ⟨taken, rfl, hpending⟩ := ih h
    obtain ⟨w, hw, hinput⟩ := exists_isBlank input
    refine ⟨w ++ Bracket.object.opening :: taken, ?_, hpending.opened hw⟩
    rw [hinput, hb, List.append_assoc]
    rfl
  -- A value without brackets is passed over at once, and the scan goes on behind it.
  | case5 brackets input b tail hb _ _ more hscalar ih =>
    obtain ⟨taken, rfl, hpending⟩ := ih h
    obtain ⟨w, hw, hinput⟩ := exists_isBlank input
    obtain ⟨v, rfl, hv⟩ := exists_of_skipScalar hscalar
    refine ⟨w ++ (b :: v ++ taken), ?_, .value hw hv hpending⟩
    rw [hinput, hb]
    simp
  | case6 =>
    cases h
    exact ⟨[], rfl, .done⟩
  | case8 input first bracket outer tail hb ih =>
    obtain ⟨taken, rfl, hpending⟩ := ih h
    obtain ⟨w, hw, hinput⟩ := exists_isBlank input
    refine ⟨w ++ bracket.closing :: taken, ?_, .close (.finish hw) hpending⟩
    rw [hinput, hb, List.append_assoc]
    rfl
  -- One more element of a list.
  | case10 input first outer b tail hb hcomma _ ih =>
    obtain ⟨taken, htaken, hpending⟩ := ih h
    obtain ⟨comma, w, hisComma, hw, hinput⟩ := exists_afterComma hb hcomma
    refine ⟨_, ?_, hpending.item hisComma .none hw⟩
    rw [hinput, htaken]
    simp
  -- One more member of an object, with its name.
  | case12 input first outer b tail hb hcomma more hskip _ ih =>
    obtain ⟨taken, rfl, hpending⟩ := ih h
    obtain ⟨comma, w, hisComma, hw, hinput⟩ := exists_afterComma hb hcomma
    obtain ⟨key, hkey, hisKey⟩ := exists_of_skipKey hskip
    refine ⟨_, ?_, hpending.item hisComma (hisKey.blank_append hw) .nil⟩
    rw [hinput, hkey]
    simp

/-- What is passed over is a value, with white space before it. -/
theorem exists_of_skipValue (h : skipValue bs = .ok rest) :
    ∃ w v, bs = w ++ (v ++ rest) ∧ IsBlank w ∧ IsValue v := by
  obtain ⟨taken, rfl, hpending⟩ := pending_of_skipFrom h
  cases hpending with | @value _ w v more hw hv hmore =>
  cases hmore
  exact ⟨w, v, by simp, hw, hv⟩

/-! ## Values are passed over -/

/-- Before a value the pass looks at the first byte. -/
theorem skipFrom_value {tail : List UInt8} (h : blanks bs = b :: tail) :
    skipFrom .value brackets bs =
      if b = 0x5B then skipFrom (.after true) (.list :: brackets) tail
      else if b = 0x7B then skipFrom (.after true) (.object :: brackets) tail
      else (skipScalar b tail).bind (skipFrom (.after false) brackets) := by
  rw [skipFrom]
  -- A byte follows the blanks, so this is not the end of the text.
  split
  next heq => cases h.symm.trans heq
  next heq =>
    cases h.symm.trans heq
    split
    next => rfl
    split
    next => rfl
    split
    next heq => rw [heq]; rfl
    next heq => rw [heq]; rfl

/-- What the pass does with the key of the next value in a bracket. -/
def passKey : Bracket → List UInt8 → Except Fault (List UInt8)
  | .list, bs => .ok bs
  | .object, bs => skipKey bs

/-- In a bracket the pass looks for its end, or for a comma and a key. -/
theorem skipFrom_after {tail : List UInt8} (h : blanks bs = b :: tail) :
    skipFrom (.after first) (bracket :: outer) bs =
      if b = bracket.closing then skipFrom (.after false) outer tail
      else if !first && b != 0x2C then .error (.next bracket.undivided (b :: tail))
      else (passKey bracket (afterComma first b tail)).bind
        (skipFrom .value (bracket :: outer)) := by
  rw [skipFrom]
  -- A byte follows the blanks, so this is not the end of the text.
  split
  next heq => cases h.symm.trans heq
  next heq =>
    cases h.symm.trans heq
    split
    next => rfl
    split
    next => rfl
    cases bracket with
    | list => rfl
    | object =>
      simp only [passKey]
      split
      next heq => rw [heq]; rfl
      next heq => rw [heq]; rfl

/-- A closing byte is neither white space nor a comma. -/
theorem Bracket.closing_spec (bracket : Bracket) :
    isBlankByte bracket.closing = false ∧ bracket.closing ≠ 0x2C := by
  cases bracket <;> decide

theorem Stops.closing (bracket : Bracket) (rest : List UInt8) :
    Stops (bracket.closing :: rest) := by
  cases bracket
  · exact .inr (.inr (.inl rfl))
  · exact .inr (.inr (.inr rfl))

/-- The closing byte ends what is in a bracket. -/
theorem skipFrom_closing (hw : IsBlank w) (rest : List UInt8) :
    skipFrom (.after first) (bracket :: outer) (w ++ bracket.closing :: rest) =
      skipFrom (.after false) outer rest := by
  rw [skipFrom_after (hw.blanks_eq_cons bracket.closing_spec.1 rest), if_pos rfl]

/-- A comma and a key are passed over before the next value. -/
theorem skipFrom_item {comma : List UInt8} (outer : List Bracket) (hcomma : IsComma first comma)
    (hkey : IsKey bracket key) (hw : IsBlank w) (hv : IsValue v) (rest : List UInt8) :
    ∃ w', IsBlank w' ∧
      skipFrom (.after first) (bracket :: outer) (comma ++ (key ++ (w ++ (v ++ rest)))) =
        skipFrom .value (bracket :: outer) (w' ++ (v ++ rest)) := by
  -- A list has no names, so there is nothing to pass over.
  have hpass : passKey bracket (key ++ (w ++ (v ++ rest))) = .ok (w ++ (v ++ rest)) := by
    cases bracket with
    | list => cases hkey; rfl
    | object => exact hkey.skipKey _
  cases hcomma with
  | @comma w₀ hw₀ =>
    -- Behind a comma the key is passed over as it stands.
    have hblanks : blanks (w₀ ++ [0x2C] ++ (key ++ (w ++ (v ++ rest)))) =
        0x2C :: (key ++ (w ++ (v ++ rest))) := by
      rw [List.append_assoc]
      exact hw₀.blanks_eq_cons (by decide) _
    refine ⟨w, hw, ?_⟩
    rw [skipFrom_after hblanks, if_neg (Ne.symm bracket.closing_spec.2), if_neg (by decide)]
    simp only [afterComma, Bool.false_eq_true, if_false, hpass]
    rfl
  | none =>
    -- The first key is looked at from its first byte on, without the white space before it.
    rw [List.nil_append]
    cases hkey with
    | none =>
      obtain ⟨b, tail, rfl, hb⟩ := hv.exists_cons
      have hblanks := hv.blanks hw rest
      refine ⟨[], .nil, ?_⟩
      rw [List.nil_append, List.nil_append, skipFrom_after hblanks, if_neg (hb.ne_closing .list),
        if_neg (by simp)]
      rfl
    | @name w₀ body w' hw₀ hbody hw' =>
      have hblanks : blanks (w₀ ++ 0x22 :: (body ++ 0x22 :: (w' ++ [0x3A])) ++
          (w ++ (v ++ rest))) =
          0x22 :: (body ++ 0x22 :: (w' ++ [0x3A]) ++ (w ++ (v ++ rest))) := by
        rw [List.append_assoc]
        exact hw₀.blanks_eq_cons (by decide) _
      have hskip : skipKey (0x22 :: (body ++ 0x22 :: (w' ++ [0x3A]) ++ (w ++ (v ++ rest)))) =
          .ok (w ++ (v ++ rest)) := (IsKey.name .nil hbody hw').skipKey _
      refine ⟨w, hw, ?_⟩
      rw [skipFrom_after hblanks, if_neg (by decide), if_neg (by decide)]
      simp only [afterComma, if_true, passKey, hskip]
      rfl

/-- The rest of a bracket stops what is before it. -/
theorem Derives.stops (h : Derives (.rest bracket false) inner) (rest : List UInt8) :
    Stops (inner ++ bracket.closing :: rest) := by
  cases h with
  | finish hw => exact .of_isBlank hw (.closing bracket rest)
  | item hcomma =>
    rw [List.append_assoc]
    exact hcomma.stops _

/-- A symbol of the grammar is passed over: a value, and what is in a bracket with its closing
byte. -/
def Skipped : Symbol → List UInt8 → Prop
  | .value, v => ∀ w brackets rest, IsBlank w → Stops rest →
      skipFrom .value brackets (w ++ (v ++ rest)) = skipFrom (.after false) brackets rest
  | .rest bracket first, inner => ∀ outer rest,
      skipFrom (.after first) (bracket :: outer) (inner ++ bracket.closing :: rest) =
        skipFrom (.after false) outer rest

/-- A value without brackets is passed over if it is taken. -/
theorem Skipped.of_skipScalar (hb : b ≠ 0x5B ∧ b ≠ 0x7B) (hblank : isBlankByte b = false)
    (h : ∀ rest, Stops rest → skipScalar b (v ++ rest) = .ok rest) :
    Skipped .value (b :: v) := by
  intro w brackets rest hw hrest
  have hblanks : blanks (w ++ (b :: v ++ rest)) = b :: (v ++ rest) := hw.blanks_eq_cons hblank _
  rw [skipFrom_value hblanks, if_neg hb.1, if_neg hb.2, h rest hrest]
  rfl

/-- All that the grammar has is passed over. -/
theorem Derives.skipped {symbol : Symbol} (h : Derives symbol bs) : Skipped symbol bs := by
  -- On the grammar, with the statement that is meant for each of its symbols.
  induction h with
  | word h =>
    simp only [words, List.mem_cons, List.not_mem_nil, or_false] at h
    rcases h with rfl | rfl | rfl <;>
      exact .of_skipScalar (by decide) (by decide) fun rest _ => ident_append _ rest
  | number h =>
    obtain ⟨b, tail, rfl, hb⟩ := h.exists_cons
    have hopening : b ≠ 0x5B ∧ b ≠ 0x7B := by
      rcases hb with rfl | hb
      · decide
      · refine ⟨?_, ?_⟩ <;> rintro rfl <;> cases hb
    exact .of_skipScalar hopening (startsValue_of_sign_or_digit hb).1 fun rest hrest =>
      h.skipScalar hrest
  | @string body h =>
    refine .of_skipScalar (by decide) (by decide) fun rest _ => ?_
    rw [List.append_assoc]
    exact h.skipString rest
  -- The bracket is put on the stack and taken off again at its end.
  | @bracket bracket inner h ih =>
    intro w brackets rest hw hrest
    have hbytes : w ++ (bracket.opening :: (inner ++ [bracket.closing]) ++ rest) =
        w ++ bracket.opening :: (inner ++ bracket.closing :: rest) := by simp
    rw [hbytes, skipFrom_value (hw.blanks_opening bracket _), ← ih brackets rest]
    cases bracket <;> rfl
  | finish hw => exact fun outer rest => skipFrom_closing hw rest
  -- An item is passed over, then those behind it.
  | @item bracket first comma key w v inner hcomma hkey hw hv h ihv ih =>
    intro outer rest
    obtain ⟨w', hw', hskip⟩ := skipFrom_item outer hcomma hkey hw hv
      (inner ++ bracket.closing :: rest)
    simp only [List.append_assoc]
    rw [hskip, ihv w' _ _ hw' (h.stops rest)]
    exact ih outer rest

/-- A value is passed over, with the white space before it. -/
theorem IsValue.skipValue (h : IsValue v) (hw : IsBlank w) (hrest : Stops rest) :
    skipValue (w ++ (v ++ rest)) = .ok rest := by
  rw [Json.skipValue, h.skipped w [] rest hw hrest, skipFrom]

end BearerCache.Json
