import BearerCache.Proofs.BaseAddress
import Mathlib.Data.Bool.AllAny

/-! # Texts without escapes

A part of an address is written with escapes for what it cannot hold, and an escape has only
characters that every part can hold.  So what has been written is written as itself.

A segment of a path that is `.` or `..`, or is so once its escapes of the point are undone, has a
meaning of its own and is not kept.  Escaping gives no segment such a meaning, for a point is not
escaped.

## Key results

- `escape_of_leaves`: a text without escapes is written as itself
- `mem_escape`: what has been written needs no escapes
- `plainPoints_escape`: escaping a segment gives it no meaning
-/

namespace BearerCache.Url

/-! ## Characters that are left -/

/-- Whether a character is written as itself. -/
def EscapeSet.leaves (set : EscapeSet) (c : Char) : Bool :=
  c.toNat < 0x80 && !set (UInt8.ofNat c.toNat)

variable {set : EscapeSet}

/-- What holds of the characters of ASCII that are left holds of all that are left. -/
theorem forall_of_leaves {P : Char → Prop}
    (h : ∀ n < 0x80, set.leaves (Char.ofNat n) → P (Char.ofNat n)) {c : Char}
    (hc : set.leaves c) : P c := by
  have hascii : c.toNat < 0x80 := of_decide_eq_true (Bool.and_eq_true_iff.mp hc).1
  have hP := h c.toNat hascii
  rw [Char.ofNat_toNat] at hP
  exact hP hc

theorem escapeByte_of_leaves {c : Char} (h : set.leaves c) :
    escapeByte set (UInt8.ofNat c.toNat) = [c] := by
  obtain ⟨hascii, hset⟩ := Bool.and_eq_true_iff.mp h
  have hlt : c.toNat < 0x100 := Nat.lt_trans (of_decide_eq_true hascii) (by decide)
  rw [Bool.not_eq_eq_eq_not, Bool.not_true] at hset
  rw [escapeByte, hset, if_neg Bool.false_ne_true,
    UInt8.toNat_ofNat_of_lt' hlt, Char.ofNat_toNat]

/-- A text of characters that are left is written as itself. -/
theorem escape_of_leaves {cs : List Char} (h : ∀ c ∈ cs, set.leaves c) :
    escape set cs = String.ofList cs := by
  have hascii : ∀ c ∈ cs, c.toNat < 0x80 := fun c hc =>
    of_decide_eq_true (Bool.and_eq_true_iff.mp (h c hc)).1
  rw [escape, Text.Form.bytes_ofList_of_ascii hascii, Text.Form.asciiBytes, List.flatMap_map]
  congr 1
  induction cs with
  | nil => rfl
  | cons c cs ih =>
    obtain ⟨hc, hrest⟩ := List.forall_mem_cons.mp h
    rw [List.flatMap_cons, escapeByte_of_leaves hc,
      ih hrest fun d hd => hascii d (List.mem_cons_of_mem c hd), List.singleton_append]

/-- A set that has no character of an escape and every byte beyond ASCII. -/
structure EscapeSet.IsUsual (set : EscapeSet) : Prop where
  marks : ∀ c ∈ "%0123456789ABCDEF".toList, set.leaves c
  beyond : ∀ b : UInt8, 0x80 ≤ b.toNat → set b

/-- What has been written is the text with escapes in it, and is left. -/
theorem mem_escape (h : set.IsUsual) {cs : List Char} {c : Char} (hc : c ∈ (escape set cs).toList) :
    (c ∈ "%0123456789ABCDEF".toList ∨ c ∈ cs) ∧ set.leaves c := by
  have hdigit : ∀ n < 16, Text.hexUpper n ∈ "%0123456789ABCDEF".toList := by decide
  have hmark {c : Char} (hc : c ∈ "%0123456789ABCDEF".toList) :
      (c ∈ "%0123456789ABCDEF".toList ∨ c ∈ cs) ∧ set.leaves c := ⟨.inl hc, h.marks c hc⟩
  rw [escape, String.toList_ofList, Text.bytes_ofList] at hc
  obtain ⟨b, hb, hc⟩ := List.mem_flatMap.mp hc
  have hlt := b.toNat_lt
  unfold escapeByte at hc
  -- An escaped byte is written as a mark and two digits.
  split at hc
  next =>
    simp only [List.mem_cons, List.not_mem_nil, or_false] at hc
    rcases hc with rfl | rfl | rfl
    · exact hmark (by decide)
    · exact hmark (hdigit _ (by omega))
    · exact hmark (hdigit _ (by omega))
  next hnot =>
    -- A byte that is left is of ASCII, so it is a character by itself.
    have hascii : b.toNat < 0x80 := Nat.lt_of_not_le fun hle => hnot (h.beyond b hle)
    obtain ⟨d, hd, hcode⟩ := Text.exists_of_mem_flatMap_encodeChar hascii hb
    have hd' : Char.ofNat b.toNat = d := by rw [← hcode, Char.ofNat_toNat]
    rw [List.mem_singleton.mp hc, hd']
    refine ⟨.inr hd, ?_⟩
    rw [EscapeSet.leaves, hcode, UInt8.ofNat_toNat, Bool.eq_false_iff.mpr hnot,
      decide_eq_true hascii]
    rfl

namespace EscapeSet

theorem controls_beyond {b : UInt8} (h : 0x80 ≤ b.toNat) : controls b := by
  have hle : (0x7F : UInt8) ≤ b := UInt8.le_iff_toNat_le.mpr (Nat.le_trans (by decide) h)
  rw [controls, decide_eq_true hle, Bool.or_true]

theorem adding_of_mem {b : UInt8} (h : set b) (chars : String) : set.adding chars b := by
  rw [adding, h, Bool.true_or]

theorem isUsual_fragment : fragment.IsUsual :=
  ⟨List.all_iff_forall_prop.mp (by decide),
    fun _ hle => adding_of_mem (controls_beyond hle) _⟩

theorem isUsual_path : path.IsUsual :=
  ⟨List.all_iff_forall_prop.mp (by decide),
    fun _ hle => adding_of_mem (adding_of_mem (controls_beyond hle) _) _⟩

theorem isUsual_userInfo : userInfo.IsUsual :=
  ⟨List.all_iff_forall_prop.mp (by decide),
    fun b hle => adding_of_mem (isUsual_path.beyond b hle) _⟩

theorem isUsual_specialQuery : specialQuery.IsUsual :=
  ⟨List.all_iff_forall_prop.mp (by decide),
    fun _ hle => adding_of_mem (adding_of_mem (controls_beyond hle) _) _⟩

end EscapeSet

/-! ## Segments -/

/-- The ways to write a point. -/
def points : List (List Char) :=
  [['.'], ['%', '2', 'e'], ['%', '2', 'E']]

/-- A point in front comes from one of the ways to write it. -/
theorem exists_point {segment rest : List Char} (h : plainPoints segment = '.' :: rest) :
    ∃ point ∈ points, ∃ more, segment = point ++ more ∧ plainPoints more = rest := by
  unfold plainPoints at h
  split at h
  next more => exact ⟨['%', '2', 'e'], by decide, more, rfl, (List.cons.inj h).2⟩
  next more => exact ⟨['%', '2', 'E'], by decide, more, rfl, (List.cons.inj h).2⟩
  next c more _ _ =>
    obtain ⟨hc, hmore⟩ := List.cons.inj h
    exact ⟨['.'], by decide, more, hc ▸ rfl, hmore⟩
  next => cases h

theorem eq_nil_of_plainPoints {segment : List Char} (h : plainPoints segment = []) :
    segment = [] := by
  unfold plainPoints at h
  split at h
  next => cases h
  next => cases h
  next => cases h
  next => rfl

/-- The segments with a meaning. -/
def meaningful : List (List Char) :=
  points ++ points.flatMap fun first => points.map (first ++ ·)

/-- A segment is `.` or `..` only if it is written in one of these ways. -/
theorem mem_meaningful {segment : List Char}
    (h : plainPoints segment = ['.'] ∨ plainPoints segment = ['.', '.']) :
    segment ∈ meaningful := by
  -- One point, or two of them, each in any of its writings.
  rcases h with h | h
  · obtain ⟨point, hpoint, more, rfl, hmore⟩ := exists_point h
    rw [eq_nil_of_plainPoints hmore, List.append_nil]
    exact List.mem_append_left _ hpoint
  · obtain ⟨first, hfirst, more, rfl, hmore⟩ := exists_point h
    obtain ⟨second, hsecond, rest, rfl, hrest⟩ := exists_point hmore
    rw [eq_nil_of_plainPoints hrest, List.append_nil]
    exact List.mem_append_right _
      (List.mem_flatMap.mpr ⟨first, hfirst, List.mem_map_of_mem hsecond⟩)

/-- No escape is in a segment with a meaning but that of the point. -/
theorem not_infix_meaningful : ∀ n < 0x100, EscapeSet.path (UInt8.ofNat n) →
    ∀ segment ∈ meaningful, ¬escapeByte .path (UInt8.ofNat n) <:+: segment := by
  decide +kernel

/-- A text all of whose bytes are left has characters that are left. -/
theorem leaves_of_bytes (h : set.IsUsual) {cs : List Char}
    (hbytes : ∀ b ∈ Text.bytes (String.ofList cs), ¬set b) : ∀ c ∈ cs, set.leaves c := by
  rw [Text.bytes_ofList] at hbytes
  intro c hc
  -- A character outside ASCII has bytes that are all escaped.
  have hascii : c.toNat < 0x80 := Nat.lt_of_not_le fun hle => by
    obtain ⟨b, hb⟩ := List.exists_mem_of_ne_nil _ (String.utf8EncodeChar_ne_nil (c := c))
    exact hbytes b (List.mem_flatMap.mpr ⟨c, hc, hb⟩)
      (h.beyond b (Text.le_of_mem_utf8EncodeChar hle b hb))
  have hin : UInt8.ofNat c.toNat ∈ String.utf8EncodeChar c := by
    rw [Text.utf8EncodeChar_of_ascii hascii]
    exact List.mem_singleton_self _
  have hset := hbytes _ (List.mem_flatMap.mpr ⟨c, hc, hin⟩)
  rw [EscapeSet.leaves, decide_eq_true hascii, Bool.eq_false_iff.mpr hset]
  rfl

/-- Escaping a segment gives it no meaning. -/
theorem plainPoints_escape {segment : List Char}
    (h : ¬(plainPoints segment = ['.'] ∨ plainPoints segment = ['.', '.'])) :
    ¬(plainPoints (escape .path segment).toList = ['.'] ∨
      plainPoints (escape .path segment).toList = ['.', '.']) := by
  intro hpoints
  have hmem := mem_meaningful hpoints
  -- Nothing has been escaped, so the segment is as it was.
  have hleaves : ∀ c ∈ segment, EscapeSet.path.leaves c := by
    refine leaves_of_bytes EscapeSet.isUsual_path fun b hb hset => ?_
    have hnot := not_infix_meaningful b.toNat b.toNat_lt
    rw [UInt8.ofNat_toNat] at hnot
    rw [escape, String.toList_ofList] at hmem
    obtain ⟨before, after, heq⟩ := List.append_of_mem hb
    rw [heq, List.flatMap_append, List.flatMap_cons, ← List.append_assoc] at hmem
    exact hnot hset _ hmem ⟨_, _, rfl⟩
  rw [escape_of_leaves hleaves, String.toList_ofList] at hpoints
  exact h hpoints

end BearerCache.Url
