import BearerCache.Proofs.DecimalText
import BearerCache.Proofs.FormEncoding
import BearerCache.Text.Base64

/-! # Base64 is read back

Every sequence of bytes is read back from its Base64 form without padding, whichever way padding
is looked at.  A group of three bytes falls into four numbers below sixty-four, of which each has
its own symbol; in a last group that is not complete, the bits left over are zero.

## Key results

- `decode_encode`: the bytes that were written are read back
- `eq_symbols_of_decode`: what is read without padding is a Base64 form
- `not_mem_encode`, `trim_encode`: neither points nor blanks are in a Base64 form
- `Fault.message_inj`: faults are told apart by their wordings
-/

namespace BearerCache.Text.Base64

variable {alphabet : Alphabet} {padding : Padding}

/-! ## Symbols -/

theorem value?_symbol_of_lt {n : Nat} (h : n < 64) :
    value? alphabet (symbol alphabet n) = some n :=
  value?_symbol alphabet ⟨n, h⟩

theorem valueAt_symbol {n : Nat} (h : n < 64) (offset : Nat) :
    valueAt alphabet offset (symbol alphabet n) = .ok n := by
  rw [valueAt, value?_symbol_of_lt h]

/-- A symbol is none that stands for padding. -/
theorem symbol_ne_padding {n : Nat} (h : n < 64) : symbol alphabet n ≠ 0x3D := by
  intro heq
  have hvalue : value? alphabet (symbol alphabet n) = some n := value?_symbol_of_lt h
  rw [heq] at hvalue
  cases alphabet <;> cases hvalue

/-! ## The last group -/

/-- Symbols are read as their numbers, without padding. -/
theorem lastValues_symbols {numbers : List Nat} (h : ∀ n ∈ numbers, n < 64) (offset index : Nat) :
    lastValues alphabet offset index 0 (numbers.map (symbol alphabet)) = .ok (numbers, 0) := by
  -- On the numbers, none of which is a padding symbol.
  induction numbers generalizing index with
  | nil => rfl
  | cons n rest ih =>
    obtain ⟨hn, hrest⟩ := List.forall_mem_cons.mp h
    rw [List.map_cons, lastValues, if_neg (symbol_ne_padding hn), if_neg (Nat.lt_irrefl 0),
      valueAt_symbol hn, ih hrest]
    rfl

theorem lastGroup_nil (offset : Nat) : lastGroup alphabet padding offset [] = .ok [] := by
  simp [lastGroup, lastValues, bind, Except.bind, pure, Except.pure]

theorem lastGroup_two {x y : Nat} (hx : x < 64) (hy : y < 64) (hrest : y % 16 = 0) (offset : Nat) :
    lastGroup alphabet padding offset [symbol alphabet x, symbol alphabet y] =
      .ok [UInt8.ofNat (x * 4 + y / 16)] := by
  have hvalues := @lastValues_symbols alphabet [x, y] (by simp [hx, hy]) offset 0
  simp only [List.map_cons, List.map_nil] at hvalues
  simp [lastGroup, hvalues, hrest, bind, Except.bind, pure, Except.pure]

theorem lastGroup_three {x y z : Nat} (hx : x < 64) (hy : y < 64) (hz : z < 64)
    (hrest : z % 4 = 0) (offset : Nat) :
    lastGroup alphabet padding offset [symbol alphabet x, symbol alphabet y, symbol alphabet z] =
      .ok [UInt8.ofNat (x * 4 + y / 16), UInt8.ofNat (y % 16 * 16 + z / 4)] := by
  have hvalues := @lastValues_symbols alphabet [x, y, z] (by simp [hx, hy, hz]) offset 0
  simp only [List.map_cons, List.map_nil] at hvalues
  simp [lastGroup, hvalues, hrest, bind, Except.bind, pure, Except.pure]

theorem lastGroup_four {x y z w : Nat} (hx : x < 64) (hy : y < 64) (hz : z < 64) (hw : w < 64)
    (offset : Nat) :
    lastGroup alphabet padding offset
        [symbol alphabet x, symbol alphabet y, symbol alphabet z, symbol alphabet w] =
      .ok [UInt8.ofNat (x * 4 + y / 16), UInt8.ofNat (y % 16 * 16 + z / 4),
        UInt8.ofNat (z % 4 * 64 + w)] := by
  have hvalues := @lastValues_symbols alphabet [x, y, z, w] (by simp [hx, hy, hz, hw]) offset 0
  simp only [List.map_cons, List.map_nil] at hvalues
  simp [lastGroup, hvalues, bind, Except.bind, pure, Except.pure]

/-! ## All groups -/

/-- A group that is not the last one is three bytes. -/
theorem groups_four {x y z w : Nat} (hx : x < 64) (hy : y < 64) (hz : z < 64) (hw : w < 64)
    {offset : Nat} {rest : List UInt8} (hne : rest ≠ []) {bs : List UInt8}
    (h : groups alphabet padding (offset + 4) rest = .ok bs) :
    groups alphabet padding offset (symbol alphabet x :: symbol alphabet y ::
        symbol alphabet z :: symbol alphabet w :: rest) =
      .ok (UInt8.ofNat (x * 4 + y / 16) :: UInt8.ofNat (y % 16 * 16 + z / 4) ::
        UInt8.ofNat (z % 4 * 64 + w) :: bs) := by
  obtain ⟨e, more, rfl⟩ := List.exists_cons_of_ne_nil hne
  simp only [groups, valueAt_symbol hx, valueAt_symbol hy, valueAt_symbol hz, valueAt_symbol hw, h,
    bind, Except.bind, pure, Except.pure]

/-- A byte is put together from its parts. -/
private theorem ofNat_eq {a : UInt8} {n : Nat} (h : n = a.toNat) : UInt8.ofNat n = a := by
  rw [h, UInt8.ofNat_toNat]

/-- The symbols of some bytes are read back group by group. -/
theorem groups_symbols (bs : List UInt8) (offset : Nat) :
    groups alphabet padding offset (symbols alphabet bs) = .ok bs := by
  -- The cases are those of the written form: no byte, one or two at the end, and three with more
  -- behind them.
  fun_induction symbols alphabet bs generalizing offset with
  | case1 => exact lastGroup_nil offset
  | case2 a =>
    have ha := a.toNat_lt
    have hlast := @lastGroup_two alphabet padding (a.toNat / 4) (a.toNat % 4 * 16) (by omega)
      (by omega) (by omega) offset
    rw [@ofNat_eq a _ (by omega)] at hlast
    exact hlast
  | case3 a b =>
    have ha := a.toNat_lt
    have hb := b.toNat_lt
    have hlast := @lastGroup_three alphabet padding (a.toNat / 4)
      (a.toNat % 4 * 16 + b.toNat / 16) (b.toNat % 16 * 4) (by omega) (by omega) (by omega)
      (by omega) offset
    rw [@ofNat_eq a _ (by omega), @ofNat_eq b _ (by omega)] at hlast
    exact hlast
  | case4 a b c rest ih =>
    have ha := a.toNat_lt
    have hb := b.toNat_lt
    have hc := c.toNat_lt
    have hx : a.toNat / 4 < 64 := by omega
    have hy : a.toNat % 4 * 16 + b.toNat / 16 < 64 := by omega
    have hz : b.toNat % 16 * 4 + c.toNat / 64 < 64 := by omega
    have hw : c.toNat % 64 < 64 := by omega
    -- The four symbols hold the bits of the three bytes, and put together they give the bytes back.
    have hfirst : UInt8.ofNat (a.toNat / 4 * 4 + (a.toNat % 4 * 16 + b.toNat / 16) / 16) = a :=
      ofNat_eq (by omega)
    have hsecond : UInt8.ofNat ((a.toNat % 4 * 16 + b.toNat / 16) % 16 * 16 +
        (b.toNat % 16 * 4 + c.toNat / 64) / 4) = b := ofNat_eq (by omega)
    have hthird : UInt8.ofNat ((b.toNat % 16 * 4 + c.toNat / 64) % 4 * 64 + c.toNat % 64) = c :=
      ofNat_eq (by omega)
    by_cases hrest : symbols alphabet rest = []
    · -- Nothing follows, so this group is the last one.
      have hnil : rest = [] := by
        have hread := ih offset
        rw [hrest, groups, lastGroup_nil] at hread
        · exact (Except.ok.inj hread).symm
        · rintro _ _ _ _ _ _ ⟨⟩
      have hlast := @lastGroup_four alphabet padding _ _ _ _ hx hy hz hw offset
      rw [hfirst, hsecond, hthird] at hlast
      rw [hnil]
      exact hlast
    · rw [groups_four hx hy hz hw hrest (ih (offset + 4)), hfirst, hsecond, hthird]

/-! ## Whole texts -/

/-- Every byte of a Base64 form is the symbol of a number. -/
theorem exists_symbol_of_mem {bs : List UInt8} :
    ∀ b ∈ symbols alphabet bs, ∃ n < 64, b = symbol alphabet n := by
  fun_induction symbols alphabet bs with
  | case1 =>
    intro b hb
    cases hb
  | case2 a =>
    have ha := a.toNat_lt
    simp only [List.mem_cons, List.not_mem_nil, or_false]
    rintro b (rfl | rfl)
    · exact ⟨_, by omega, rfl⟩
    · exact ⟨_, by omega, rfl⟩
  | case3 a b =>
    have ha := a.toNat_lt
    have hb := b.toNat_lt
    simp only [List.mem_cons, List.not_mem_nil, or_false]
    rintro d (rfl | rfl | rfl)
    · exact ⟨_, by omega, rfl⟩
    · exact ⟨_, by omega, rfl⟩
    · exact ⟨_, by omega, rfl⟩
  | case4 a b c rest ih =>
    have ha := a.toNat_lt
    have hb := b.toNat_lt
    have hc := c.toNat_lt
    simp only [List.mem_cons]
    -- All four are symbols of numbers below sixty-four, since each takes up to six bits of the
    -- bytes.
    rintro d (rfl | rfl | rfl | rfl | hd)
    · exact ⟨_, by omega, rfl⟩
    · exact ⟨_, by omega, rfl⟩
    · exact ⟨_, by omega, rfl⟩
    · exact ⟨_, by omega, rfl⟩
    · exact ih d hd

/-- The characters of a Base64 form are its symbols. -/
theorem toList_encode (alphabet : Alphabet) (bs : List UInt8) :
    (encode alphabet bs).toList = (symbols alphabet bs).map fun b => Char.ofNat b.toNat :=
  String.toList_ofList

theorem symbol_lt {n : Nat} (h : n < 64) : (symbol alphabet n).toNat < 0x80 := by
  have hall : ∀ n : Fin 64, (symbol alphabet n.val).toNat < 0x80 := by
    cases alphabet <;> decide
  exact hall ⟨n, h⟩

/-- ASCII bytes are the bytes of the text of which they are the characters. -/
theorem bytes_ofList_map {bs : List UInt8} (h : ∀ b ∈ bs, b.toNat < 0x80) :
    bytes (String.ofList (bs.map fun b => Char.ofNat b.toNat)) = bs := by
  -- Below 128 a byte is the code of its character, so encoding gives it back.
  have hcode : ∀ b : UInt8, (Char.ofNat b.toNat).toNat = b.toNat := fun b =>
    Form.toNat_charOfNat b.toNat_lt
  have hascii : ∀ c ∈ bs.map (fun b => Char.ofNat b.toNat), c.toNat < 0x80 := by
    intro c hc
    obtain ⟨b, hb, rfl⟩ := List.mem_map.mp hc
    rw [hcode]
    exact h b hb
  rw [Form.bytes_ofList_of_ascii hascii, Form.asciiBytes, List.map_map]
  exact List.map_id'' (fun b => by rw [Function.comp_apply, hcode, UInt8.ofNat_toNat]) _

theorem symbols_lt {bs : List UInt8} : ∀ b ∈ symbols alphabet bs, b.toNat < 0x80 := by
  intro b hb
  obtain ⟨n, hn, rfl⟩ := exists_symbol_of_mem b hb
  exact symbol_lt hn

/-- The bytes of a Base64 form are its symbols. -/
theorem bytes_encode (alphabet : Alphabet) (bs : List UInt8) :
    bytes (encode alphabet bs) = symbols alphabet bs :=
  bytes_ofList_map symbols_lt

/-- Bytes are read back from their Base64 form. -/
theorem decode_encode (alphabet : Alphabet) (padding : Padding) (bs : List UInt8) :
    decode alphabet padding (bytes (encode alphabet bs)) = .ok bs := by
  rw [bytes_encode, decode]
  split
  next last hlast =>
    obtain ⟨n, hn, rfl⟩ := exists_symbol_of_mem last (List.mem_of_getLast? hlast)
    rw [value?_symbol_of_lt hn, if_neg (by simp), groups_symbols]
  next => rw [groups_symbols]

/-- Different bytes have different Base64 forms. -/
theorem encode_injective {alphabet : Alphabet} {bs cs : List UInt8}
    (h : encode alphabet bs = encode alphabet cs) : bs = cs := by
  have hread := decode_encode alphabet .forbidden bs
  rw [h, decode_encode] at hread
  exact (Except.ok.inj hread).symm

/-- Every character of a Base64 form is the symbol of a number. -/
theorem exists_symbol_of_mem_encode {alphabet : Alphabet} {bs : List UInt8} {c : Char}
    (h : c ∈ (encode alphabet bs).toList) :
    ∃ n : Fin 64, c = Char.ofNat (symbol alphabet n.val).toNat := by
  rw [toList_encode] at h
  obtain ⟨b, hb, rfl⟩ := List.mem_map.mp h
  obtain ⟨n, hn, rfl⟩ := exists_symbol_of_mem b hb
  exact ⟨⟨n, hn⟩, rfl⟩

/-- No point is in a Base64 form. -/
theorem not_mem_encode (alphabet : Alphabet) (bs : List UInt8) :
    '.' ∉ (encode alphabet bs).toList := by
  have hall : ∀ n : Fin 64, '.' ≠ Char.ofNat (symbol alphabet n.val).toNat := by
    cases alphabet <;> decide
  intro hmem
  obtain ⟨n, hn⟩ := exists_symbol_of_mem_encode hmem
  exact hall n hn

/-- No blank is in a Base64 form. -/
theorem not_blank_encode (alphabet : Alphabet) (bs : List UInt8) :
    ∀ c ∈ (encode alphabet bs).toList, isBlank c = false := by
  have hall : ∀ n : Fin 64, isBlank (Char.ofNat (symbol alphabet n.val).toNat) = false := by
    cases alphabet <;> decide
  intro c hc
  obtain ⟨n, rfl⟩ := exists_symbol_of_mem_encode hc
  exact hall n

/-- There is nothing to trim on a Base64 form. -/
theorem trim_encode (alphabet : Alphabet) (bs : List UInt8) :
    trim (encode alphabet bs) = encode alphabet bs := by
  rw [trim, trimChars_of_not_blank (not_blank_encode alphabet bs), String.ofList_toList]

/-! ## What is read is a Base64 form -/

/-- A byte that stands for a number is the symbol of the number. -/
theorem symbol_of_value? {b : UInt8} {n : Nat} (h : value? alphabet b = some n) :
    n < 64 ∧ symbol alphabet n = b := by
  have hall : ∀ k : Fin 256, ∀ n ∈ value? alphabet (UInt8.ofNat k.val),
      n < 64 ∧ symbol alphabet n = UInt8.ofNat k.val := by
    cases alphabet <;> decide +kernel
  have hb := hall ⟨b.toNat, b.toNat_lt⟩ n
  rw [UInt8.ofNat_toNat] at hb
  exact hb h

theorem symbol_of_valueAt {b : UInt8} {n offset : Nat} (h : valueAt alphabet offset b = .ok n) :
    n < 64 ∧ symbol alphabet n = b := by
  unfold valueAt at h
  split at h
  next hvalue =>
    cases h
    exact symbol_of_value? hvalue
  next => cases h

/-- Where no padding is found, all bytes of the last group are symbols. -/
theorem eq_map_of_lastValues {offset index pads : Nat} {group : List UInt8} {values : List Nat}
    (h : lastValues alphabet offset index pads group = .ok (values, 0)) :
    pads = 0 ∧ group = values.map (symbol alphabet) ∧ ∀ n ∈ values, n < 64 := by
  induction group generalizing index pads values with
  | nil =>
    cases h
    exact ⟨rfl, rfl, by simp⟩
  | cons b rest ih =>
    unfold lastValues at h
    split at h
    -- Once a padding sign has been read, one more makes the count greater still, and it is not zero
    -- at the end.
    next =>
      split at h
      next => cases h
      next => exact absurd (ih h).1 (Nat.succ_ne_zero pads)
    next =>
      split at h
      next => cases h
      next =>
        simp only [bind, Except.bind, pure, Except.pure] at h
        split at h
        next => cases h
        next n hn =>
          split at h
          next => cases h
          next found hmore =>
            obtain ⟨more, pads'⟩ := found
            cases h
            obtain ⟨hlt, hsymbol⟩ := symbol_of_valueAt hn
            obtain ⟨hpads, hrest, hall⟩ := ih hmore
            -- The number was read from its own symbol, and what follows has no padding either.
            refine ⟨hpads, ?_, List.forall_mem_cons.mpr ⟨hlt, hall⟩⟩
            rw [List.map_cons, hsymbol, ← hrest]

private theorem toNat_ofNat_of_lt {n : Nat} (h : n < 256) : (UInt8.ofNat n).toNat = n :=
  UInt8.toNat_ofNat_of_lt' h

/-- Four symbols are those of the three bytes that they make. -/
theorem symbols_three {x y z w : Nat} (hx : x < 64) (hy : y < 64) (hz : z < 64) (hw : w < 64)
    (rest : List UInt8) :
    symbols alphabet (UInt8.ofNat (x * 4 + y / 16) :: UInt8.ofNat (y % 16 * 16 + z / 4) ::
        UInt8.ofNat (z % 4 * 64 + w) :: rest) =
      symbol alphabet x :: symbol alphabet y :: symbol alphabet z :: symbol alphabet w ::
        symbols alphabet rest := by
  -- The bits of four numbers are distributed over three bytes, and none is lost.
  rw [symbols, toNat_ofNat_of_lt (n := x * 4 + y / 16) (by omega),
    toNat_ofNat_of_lt (n := y % 16 * 16 + z / 4) (by omega),
    toNat_ofNat_of_lt (n := z % 4 * 64 + w) (by omega)]
  rw [show (x * 4 + y / 16) / 4 = x by omega,
    show (x * 4 + y / 16) % 4 * 16 + (y % 16 * 16 + z / 4) / 16 = y by omega,
    show (y % 16 * 16 + z / 4) % 16 * 4 + (z % 4 * 64 + w) / 64 = z by omega,
    show (z % 4 * 64 + w) % 64 = w by omega]

/-- Three symbols that leave nothing over are those of the two bytes that they make. -/
theorem symbols_two {x y z : Nat} (hx : x < 64) (hy : y < 64) (hz : z < 64) (hrest : z % 4 = 0) :
    symbols alphabet [UInt8.ofNat (x * 4 + y / 16), UInt8.ofNat (y % 16 * 16 + z / 4)] =
      [symbol alphabet x, symbol alphabet y, symbol alphabet z] := by
  rw [symbols, toNat_ofNat_of_lt (n := x * 4 + y / 16) (by omega),
    toNat_ofNat_of_lt (n := y % 16 * 16 + z / 4) (by omega)]
  rw [show (x * 4 + y / 16) / 4 = x by omega,
    show (x * 4 + y / 16) % 4 * 16 + (y % 16 * 16 + z / 4) / 16 = y by omega,
    show (y % 16 * 16 + z / 4) % 16 * 4 = z by omega]

/-- Two symbols that leave nothing over are those of the byte that they make. -/
theorem symbols_one {x y : Nat} (hx : x < 64) (hy : y < 64) (hrest : y % 16 = 0) :
    symbols alphabet [UInt8.ofNat (x * 4 + y / 16)] = [symbol alphabet x, symbol alphabet y] := by
  rw [symbols, toNat_ofNat_of_lt (by omega), show (x * 4 + y / 16) / 4 = x by omega,
    show (x * 4 + y / 16) % 4 * 16 = y by omega]

/-- A last group without padding is that of the bytes that are read of it. -/
theorem eq_symbols_of_lastGroup {offset : Nat} {group bs : List UInt8} (hlength : group.length ≤ 4)
    (h : lastGroup alphabet .forbidden offset group = .ok bs) : group = symbols alphabet bs := by
  simp only [lastGroup, bind, Except.bind, pure, Except.pure] at h
  split at h
  next => cases h
  next found hfound =>
    obtain ⟨values, pads⟩ := found
    simp only at h
    split at h
    next => cases h
    next hshort =>
      split at h
      next => cases h
      next hpads =>
        -- Padding is not allowed, so there is none.
        obtain rfl : pads = 0 := Nat.eq_zero_of_not_pos fun hpos => hpads ⟨trivial, hpos⟩
        obtain ⟨-, rfl, hall⟩ := eq_map_of_lastValues hfound
        rw [List.length_map] at hlength
        match values with
        | [] =>
          cases h
          rfl
        -- One symbol alone does not make a byte.
        | [x] => exact absurd ⟨by simp, by simp⟩ hshort
        | [x, y] =>
          simp only [List.forall_mem_cons] at hall
          simp only at h
          split at h
          next => cases h
          -- The bits that are left over must be zero, or the byte would have another written form.
          next hleft =>
            cases h
            split at hleft
            next hrest => exact (symbols_one hall.1 hall.2.1 hrest).symm
            next => cases hleft
        | [x, y, z] =>
          simp only [List.forall_mem_cons] at hall
          simp only at h
          split at h
          next => cases h
          next hleft =>
            cases h
            split at hleft
            next hrest => exact (symbols_two hall.1 hall.2.1 hall.2.2.1 hrest).symm
            next => cases hleft
        | [x, y, z, w] =>
          simp only [List.forall_mem_cons] at hall
          cases h
          exact (symbols_three hall.1 hall.2.1 hall.2.2.1 hall.2.2.2.1 []).symm
        | _ :: _ :: _ :: _ :: _ :: _ =>
          simp only [List.length_cons] at hlength
          omega

/-- Groups that are read are those of the bytes that are read of them. -/
theorem eq_symbols_of_groups {offset : Nat} {text bs : List UInt8}
    (h : groups alphabet .forbidden offset text = .ok bs) : text = symbols alphabet bs := by
  fun_induction groups alphabet .forbidden offset text generalizing bs with
  | case1 offset a b c d e rest ih =>
    simp only [bind, Except.bind, pure, Except.pure] at h
    split at h
    next => cases h
    next x hx' =>
      split at h
      next => cases h
      next y hy' =>
        split at h
        next => cases h
        next z hz' =>
          split at h
          next => cases h
          next w hw' =>
            split at h
            next => cases h
            next more hmore =>
              cases h
              obtain ⟨hx, rfl⟩ := symbol_of_valueAt hx'
              obtain ⟨hy, rfl⟩ := symbol_of_valueAt hy'
              obtain ⟨hz, rfl⟩ := symbol_of_valueAt hz'
              obtain ⟨hw, rfl⟩ := symbol_of_valueAt hw'
              rw [symbols_three hx hy hz hw, ih hmore]
  -- At most four symbols are left, as a fifth would make one more group.
  | case2 offset group hgroup =>
    refine eq_symbols_of_lastGroup ?_ h
    match group with
    | [] | [_] | [_, _] | [_, _, _] | [_, _, _, _] => simp
    | _ :: _ :: _ :: _ :: _ :: _ => exact absurd rfl (hgroup _ _ _ _ _ _)

/-- What is read without padding is the Base64 form of what is read of it. -/
theorem eq_symbols_of_decode {text bs : List UInt8}
    (h : decode alphabet .forbidden text = .ok bs) : text = symbols alphabet bs := by
  unfold decode at h
  split at h
  next =>
    split at h
    next => cases h
    next => exact eq_symbols_of_groups h
  next => exact eq_symbols_of_groups h

/-! ## Wordings -/

/-- The wording of a fault that a byte has. -/
private def told (kind : String) (offset : Nat) (byte : UInt8) : String :=
  s!"{kind} {byte}, offset {offset}."

private theorem toList_told (kind : String) (offset : Nat) (byte : UInt8) :
    (told kind offset byte).toList =
      ((kind.toList ++ ' ' :: Nat.toDigits 10 byte.toNat) ++ ", offset".toList ++
        ' ' :: Nat.toDigits 10 offset) ++ ['.'] := by
  simp [told, toString]

/-- The byte and its place are told. -/
private theorem told_inj {kind kind' : String} {offset offset' : Nat} {byte byte' : UInt8}
    (h : told kind offset byte = told kind' offset' byte') : offset = offset' ∧ byte = byte' := by
  have hlist := congrArg String.toList h
  rw [toList_told, toList_told] at hlist
  obtain ⟨hfront, hoffset⟩ := append_space_toDigits_inj (List.append_cancel_right hlist)
  have hbyte := append_space_toDigits_inj (List.append_cancel_right hfront)
  exact ⟨hoffset, UInt8.toNat_inj.mp hbyte.2⟩

/-- The first letter in which the wordings of the kinds of faults differ. -/
private def Fault.letter : Fault → Char
  | .symbol _ _ => 's'
  | .lastSymbol _ _ => 'l'
  | .length _ => 'i'
  | .padding => 'p'

private theorem Fault.letter_message (fault : Fault) :
    fault.message.toList[8]? = some fault.letter := by
  -- The eighth character stands in what is told first, for every kind of fault that tells a place.
  have htold (kind : String) (offset : Nat) (byte : UInt8) (h : 8 < kind.toList.length) :
      (told kind offset byte).toList[8]? = kind.toList[8]? := by
    rw [toList_told]
    simp only [List.append_assoc, List.getElem?_append_left h]
  cases fault with
  | symbol => exact htold "Invalid symbol" _ _ (by decide)
  | lastSymbol => exact htold "Invalid last symbol" _ _ (by decide)
  | length size =>
    change (s!"Invalid input length: {size}").toList[8]? = some 'i'
    simp [toString]
  | padding => rfl

/-- Faults are told apart by their wordings. -/
theorem Fault.message_inj {fault fault' : Fault} :
    fault.message = fault'.message ↔ fault = fault' := by
  refine ⟨fun h => ?_, fun h => by rw [h]⟩
  -- The eighth characters of the four wordings differ, so it is the same kind of fault.
  have hletter := fault.letter_message
  rw [h, fault'.letter_message, Option.some_inj] at hletter
  cases fault with
  | symbol =>
    cases fault' with
    | symbol =>
      obtain ⟨rfl, rfl⟩ := @told_inj "Invalid symbol" "Invalid symbol" _ _ _ _ h
      rfl
    | _ => cases hletter
  | lastSymbol =>
    cases fault' with
    | lastSymbol =>
      obtain ⟨rfl, rfl⟩ := @told_inj "Invalid last symbol" "Invalid last symbol" _ _ _ _ h
      rfl
    | _ => cases hletter
  | length =>
    cases fault' with
    | length =>
      have hchars (size : Nat) : (Fault.length size).message.toList =
          "Invalid input length:".toList ++ ' ' :: Nat.toDigits 10 size := by
        change (s!"Invalid input length: {size}").toList = _
        simp [toString]
      -- The wording ends with the length, in decimal.
      have hlist := congrArg String.toList h
      rw [hchars, hchars] at hlist
      rw [(append_space_toDigits_inj hlist).2]
    | _ => cases hletter
  | padding =>
    cases fault' with
    | padding => rfl
    | _ => cases hletter

end BearerCache.Text.Base64
