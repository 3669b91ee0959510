import BearerCache.Text.CombiningClass
import BearerCache.Text.Decomposition

/-! # Composed form

Texts that are read alike may be written with other sequences of characters: a letter with two
accents may have them in either order, and with one of them or with both as one character.
`composed` gives one of the ways, the shortest: all is taken apart, the marks after each
character are put in order, and what can be put together is. -/

namespace BearerCache.Text

/-! ## Order of marks -/

/-- Puts a mark in front of others, after those of lower classes. -/
def placeMark (c : Char) : List Char → List Char
  | [] => [c]
  | d :: rest =>
    if 0 < combiningClass d ∧ combiningClass d < combiningClass c then d :: placeMark c rest
    else c :: d :: rest

/-- A text with the marks in order of their classes. -/
def ordered (cs : List Char) : List Char :=
  cs.foldr placeMark []

theorem placeMark_perm (c : Char) (cs : List Char) : (placeMark c cs).Perm (c :: cs) := by
  fun_induction placeMark c cs with
  | case1 => exact List.Perm.refl _
  | case2 d rest _ ih => exact (ih.cons d).trans (List.Perm.swap c d rest)
  | case3 => exact List.Perm.refl _

/-- Ordering a text loses no character and adds none. -/
theorem ordered_perm (cs : List Char) : (ordered cs).Perm cs := by
  induction cs with
  | nil => exact List.Perm.refl _
  | cons c rest ih => exact (placeMark_perm c (ordered rest)).trans (ih.cons c)

/-! ## Composition -/

/-- Composes a text that begins with a character, the marks `kept` that could not be put
together with it, the last first, and the rest.  A mark reaches the character if the marks
between are of lower classes than its own. -/
def composeFrom (first : Char) (kept : List Char) : List Char → List Char
  | [] => first :: kept.reverse
  | c :: rest =>
    let reaches := kept.all fun d => combiningClass d < combiningClass c
    match if reaches then composition? first c else none with
    | some whole => composeFrom whole kept rest
    | none =>
      if combiningClass c = 0 then first :: kept.reverse ++ composeFrom c [] rest
      else composeFrom first (c :: kept) rest

/-- The composed form of a text. -/
def composed (cs : List Char) : List Char :=
  match ordered (cs.flatMap decomposition) with
  | [] => []
  | c :: rest => composeFrom c [] rest

/-! ## Texts of ASCII -/

theorem ordered_of_ascii {cs : List Char} (h : ∀ c ∈ cs, c.toNat < 0x80) : ordered cs = cs := by
  induction cs with
  | nil => rfl
  | cons c rest ih =>
    have hrest : ordered rest = rest := ih fun x hx => h x (List.mem_cons_of_mem c hx)
    simp only [ordered, List.foldr_cons] at hrest ⊢
    rw [hrest]
    cases rest with
    | nil => rfl
    | cons d more =>
      have hd : d.toNat < 0x80 := h d (List.mem_cons_of_mem c List.mem_cons_self)
      have : combiningClass d = 0 := by
        rw [combiningClass, if_pos (Nat.lt_of_lt_of_le hd (by decide))]
      simp [placeMark, this]

theorem composeFrom_of_ascii {cs : List Char} (first : Char) (h : ∀ c ∈ cs, c.toNat < 0x80) :
    composeFrom first [] cs = first :: cs := by
  induction cs generalizing first with
  | nil => rfl
  | cons c rest ih =>
    have hc : c.toNat < 0x300 := Nat.lt_of_lt_of_le (h c List.mem_cons_self) (by decide)
    have hclass : combiningClass c = 0 := by rw [combiningClass, if_pos hc]
    have hnone : composition? first c = none := by rw [composition?, if_pos hc]
    simp [composeFrom, hclass, hnone, ih c fun x hx => h x (List.mem_cons_of_mem c hx)]

/-- A text of ASCII is composed. -/
theorem composed_of_ascii {cs : List Char} (h : ∀ c ∈ cs, c.toNat < 0x80) : composed cs = cs := by
  have hparts : cs.flatMap decomposition = cs := by
    induction cs with
    | nil => rfl
    | cons c rest ih =>
      have hc : c.toNat < 0xC0 := Nat.lt_of_lt_of_le (h c List.mem_cons_self) (by decide)
      rw [List.flatMap_cons, ih fun x hx => h x (List.mem_cons_of_mem c hx), decomposition,
        if_pos hc]
      rfl
  rw [composed, hparts, ordered_of_ascii h]
  cases cs with
  | nil => rfl
  | cons c rest => exact composeFrom_of_ascii c fun x hx => h x (List.mem_cons_of_mem c hx)

end BearerCache.Text
