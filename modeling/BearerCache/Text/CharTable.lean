/-! # Tables of characters

A standard that gives a property to characters lists the codes that have it, in ranges.
`CharSet.contains` asks such a list.

A standard that gives characters other characters in their place lists them in rows.  In a row
of one kind every character of a range, or every second one, moves by the same distance; in one
of the other kind the characters from a code on have the images that follow, one after the
other, each of one character or of several.  `CharMap.image?` asks such rows. -/

namespace BearerCache.Text

/-! ## Sets -/

/-- A set of characters: the first and the last code of each of its ranges. -/
structure CharSet where
  ranges : List (Nat × Nat)

namespace CharSet

/-- Whether a character is in a set. -/
def contains (set : CharSet) (c : Char) : Bool :=
  set.ranges.any fun range => range.1 ≤ c.toNat && c.toNat ≤ range.2

/-- A character is in a set exactly when it is in one of the ranges. -/
theorem contains_iff (set : CharSet) (c : Char) :
    set.contains c = true ↔ ∃ range ∈ set.ranges, range.1 ≤ c.toNat ∧ c.toNat ≤ range.2 := by
  simp [contains]

end CharSet

/-! ## Maps -/

/-- A row of a map. -/
inductive CharMap.Row where
  /-- Every character of a range, or every second one, moves by the same distance. -/
  | moved (first last step : Nat) (distance : Int)
  /-- The characters from a code on have these images, given by their codes. -/
  | listed (first : Nat) (images : List (List Nat))

/-- A map from characters to texts.  No two of its rows tell of the same character. -/
structure CharMap where
  rows : List CharMap.Row

namespace CharMap

/-- The codes that a row has in place of a code. -/
def Row.image? (n : Nat) : Row → Option (List Nat)
  | moved first last step distance =>
    if first ≤ n ∧ n ≤ last ∧ (n - first) % step = 0 then some [(n + distance).toNat] else none
  | listed first images => if first ≤ n then images[n - first]? else none

/-- The text in place of a character, if there is one. -/
def image? (map : CharMap) (c : Char) : Option (List Char) :=
  (map.rows.findSome? (Row.image? c.toNat)).map (·.map Char.ofNat)

/-- The code in a row that has an image. -/
def Row.preimage? (codes : List Nat) : Row → Option Nat
  | moved _ _ _ _ => none
  | listed first images => (images.findIdx? (· == codes)).map (first + ·)

/-- The first character that a listed row gives an image to. -/
def preimage? (map : CharMap) (text : List Char) : Option Char :=
  (map.rows.findSome? (Row.preimage? (text.map Char.toNat))).map Char.ofNat

end CharMap

end BearerCache.Text
