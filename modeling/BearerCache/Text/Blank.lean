/-! # Blank characters

A character is *blank* when it has the Unicode property `White_Space`.  Option values,
scope lists, environment settings and response bodies are all trimmed and split with this
one notion, so it is defined once here, on lists of characters, and lifted to strings. -/

namespace BearerCache.Text

/-- The characters with the Unicode property `White_Space`. -/
def isBlank (c : Char) : Bool :=
  let n := c.toNat
  (0x09 ≤ n && n ≤ 0x0D) || n == 0x20 || n == 0x85 || n == 0xA0 || n == 0x1680 ||
    (0x2000 ≤ n && n ≤ 0x200A) || n == 0x2028 || n == 0x2029 || n == 0x202F ||
    n == 0x205F || n == 0x3000

/-- Drops the blank characters at both ends. -/
def trimChars (cs : List Char) : List Char :=
  ((cs.dropWhile isBlank).reverse.dropWhile isBlank).reverse

/-- Drops the blank characters at both ends of a text. -/
def trim (s : String) : String :=
  String.ofList (trimChars s.toList)

/-- Whether a text has no character that is not blank; the empty text is blank. -/
def isAllBlank (s : String) : Bool :=
  s.toList.all isBlank

/-- The maximal runs of characters that are not blank, in order. -/
def wordChars (cs : List Char) : List (List Char) :=
  match _h : cs.dropWhile isBlank with
  | [] => []
  | c :: rest =>
    (c :: rest.takeWhile (!isBlank ·)) :: wordChars (rest.dropWhile (!isBlank ·))
termination_by cs.length
decreasing_by
  have hsuffix := (List.dropWhile_suffix (l := cs) isBlank).length_le
  have htail := (List.dropWhile_suffix (l := rest) (!isBlank ·)).length_le
  simp only [_h, List.length_cons] at hsuffix
  omega

/-- The words of a text: its maximal runs of characters that are not blank. -/
def words (s : String) : List String :=
  (wordChars s.toList).map String.ofList

end BearerCache.Text
