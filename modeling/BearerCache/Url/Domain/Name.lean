import BearerCache.Text.Composed
import BearerCache.Text.Direction
import BearerCache.Text.Joining
import BearerCache.Text.Mark
import BearerCache.Text.Utf8
import BearerCache.Url.Domain.Reading
import BearerCache.Url.Punycode

/-! # Domain names

The name of a host in the form in which it is asked for: in lower case and in ASCII.  A name in
any other form is brought to this one, if it can be, label by label.

A label is what stands between two points of a name.  In ASCII one with other characters is
`xn--` and its Punycode; what it stands for then is its meaning.

A meaning has to be the way in which it would be read, so two labels that are read alike have
one form.  It does not begin with a mark, its joiners stand where letters need them, and where
a name has letters that are written from right to left, the directions of each label fit. -/

namespace BearerCache.Url.Domain

/-- The labels of a name. -/
def labels (name : List Char) : List (List Char) :=
  name.splitOnP (· == '.')

/-- Whether a label has characters that are not of ASCII. -/
def isWide (label : List Char) : Bool :=
  label.any fun c => 0x80 ≤ c.toNat

/-- The characters of ASCII that no name has: controls, the space, and those with a meaning in
addresses. -/
def isReserved (c : Char) : Bool :=
  c.toNat ≤ 0x20 || c.toNat == 0x7F || "%#/:<>?@[\\]^|".toList.contains c

/-- What a text is read as in a name; nothing if it has a character that is in no name. -/
def read? (cs : List Char) : Option (List Char) :=
  ((cs.mapM reading?).map fun texts => Text.composed texts.flatten).filter fun text =>
    !text.any isReserved

theorem mapM_reading?_of_ascii {cs : List Char} (h : ∀ c ∈ cs, c.toNat < 0x80) :
    cs.mapM reading? = some (cs.map fun c => [c.toLower]) := by
  induction cs with
  | nil => rfl
  | cons c rest ih =>
    simp [List.mapM_cons, reading?, h c List.mem_cons_self,
      ih fun x hx => h x (List.mem_cons_of_mem c hx)]

/-- A text of ASCII in lower case is read as itself, if a name may have its characters. -/
theorem read?_of_ascii {cs : List Char} (hascii : ∀ c ∈ cs, c.toNat < 0x80)
    (hlower : ∀ c ∈ cs, c.toLower = c) (hplain : ∀ c ∈ cs, isReserved c = false) :
    read? cs = some cs := by
  have hsame : (cs.map fun c => [c.toLower]).flatten = cs := by
    rw [List.map_congr_left fun c hc => by rw [hlower c hc], ← List.flatMap_def,
      List.flatMap_singleton']
  have hany : cs.any isReserved = false := List.any_eq_false.2 fun c hc => by
    rw [hplain c hc]
    exact Bool.false_ne_true
  rw [read?, mapM_reading?_of_ascii hascii, Option.map_some, hsame, Text.composed_of_ascii hascii]
  exact Option.filter_some_pos (by rw [hany, Bool.not_false])

/-! ## Punycode -/

/-- The longest Punycode of a label. -/
def longestCode : Nat := 2000

/-- The most characters of a label that has some beyond ASCII. -/
def longestWide : Nat := 1000

/-- What a label stands for.  One with Punycode needs it, and is the Punycode of its meaning. -/
def meaning? (label : List Char) : Option (List Char) :=
  match label with
  | 'x' :: 'n' :: '-' :: '-' :: code =>
    if longestCode < code.length then none
    else (Punycode.decode? code).filter fun meant => isWide meant && Punycode.encode meant == code
  | label => some label

/-- The label in ASCII that has a meaning. -/
def ofMeaning (meant : List Char) : List Char :=
  if isWide meant then 'x' :: 'n' :: '-' :: '-' :: Punycode.encode meant else meant

/-! ## Rules -/

/-- Whether the joiners of a text stand where they may, `before` being what precedes it, the
last first.  Both kinds may follow a sign that takes the vowel from a letter, and the one that
parts letters may stand where letters join. -/
def joinersFit (before : List Char) : List Char → Bool
  | [] => true
  | c :: rest =>
    let followsVirama := before.head?.any fun d => Text.combiningClass d == Text.viramaClass
    let fits :=
      if c = '\u200C' then followsVirama || Text.isJoint before rest
      else c ≠ '\u200D' || followsVirama
    fits && joinersFit (c :: before) rest

/-- Whether a meaning beyond ASCII is one that a label may have. -/
def isWellFormed (meant : List Char) : Bool :=
  read? meant == some meant && !meant.head?.any Text.isMark && joinersFit [] meant &&
    meant.length ≤ longestWide

/-- Whether the directions of a label fit.  It begins with a letter, and all its letters have
the direction of that one; it ends, apart from marks, with a letter or a number; numbers of the
Arabic scripts are only in a label that is written from right to left, and not beside others. -/
def directionsFit (meant : List Char) : Bool :=
  let all := meant.map Text.direction
  let last := (all.reverse.dropWhile (· == .attached)).headD .attached
  match all.headD .leftToRight with
  | .leftToRight =>
    !all.contains .rightToLeft && !all.contains .arabicNumber &&
      (meant = [] || last == .leftToRight || last == .europeanNumber)
  | .rightToLeft =>
    !all.contains .leftToRight && last != .neutral &&
      !(all.contains .europeanNumber && all.contains .arabicNumber)
  | _ => false

/-! ## Names -/

/-- Whether labels with these meanings may be in one name. -/
def areWellFormed (meanings : List (List Char)) : Bool :=
  (meanings.filter isWide).all isWellFormed &&
    if meanings.any (·.any Text.turnsText) then meanings.all directionsFit else true

/-- A name in ASCII. -/
def ascii? (name : List Char) : Option (List Char) := do
  let text ← read? name
  let meanings ← ((labels text).mapM meaning?).filter areWellFormed
  return ['.'].intercalate (meanings.map ofMeaning)

/-- A domain name in ASCII, from its bytes. -/
def toAscii? (bs : List UInt8) : Option String := do
  let text ← Text.ofBytes? bs
  let name ← ascii? text.toList
  return String.ofList name

end BearerCache.Url.Domain
