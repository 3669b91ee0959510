import BearerCache.Proofs.JsonValues

/-! # The grammar of JSON

What a JSON text is, apart from any reader of it.  A value is a word, a number, a string, a list or
an object.  What is in the brackets of a list or of an object is described from its front: either
white space alone, or, behind a comma if there was a value before, a value and what comes after it.
That is the order in which the brackets are read.

A name of a member is a string that stands for a text.  Any other string only has to have the shape
of one: its bytes need not be UTF-8, and its escapes may be surrogates that are not paired.

## Main definitions

- `Spells`: what the bytes of a string stand for
- `IsNumber`: numbers
- `Derives`, `IsValue`: values
- `Items`: what is in brackets, with the keys and the values
- `IsStringOf`: strings that stand for a text
- `IsObject`, `IsList`, `IsString`: whole texts that are an object with these members, a list of
  these elements, or a string
-/

namespace BearerCache.Json

/-! ## White space -/

/-- White space. -/
def IsBlank (w : List UInt8) : Prop :=
  ∀ b ∈ w, isBlankByte b

/-- What can stand behind a value: nothing, white space, a comma or a closing bracket. -/
def Stops : List UInt8 → Prop
  | [] => True
  | b :: _ => isBlankByte b ∨ b = 0x2C ∨ b = 0x5D ∨ b = 0x7D

theorem IsBlank.nil : IsBlank [] := by
  intro b hb
  cases hb

theorem IsBlank.append {w w' : List UInt8} (hw : IsBlank w) (hw' : IsBlank w') :
    IsBlank (w ++ w') := by
  intro b hb
  exact (List.mem_append.mp hb).elim (hw b) (hw' b)

/-- White space is dropped. -/
theorem IsBlank.blanks_append {w : List UInt8} (hw : IsBlank w) (bs : List UInt8) :
    blanks (w ++ bs) = blanks bs :=
  List.dropWhile_append_of_pos hw

/-- What is dropped is white space. -/
theorem exists_isBlank (bs : List UInt8) : ∃ w, IsBlank w ∧ bs = w ++ blanks bs := by
  have hall : (bs.takeWhile isBlankByte).all isBlankByte := List.all_takeWhile
  exact ⟨_, List.all_eq_true.mp hall, List.takeWhile_append_dropWhile.symm⟩

/-- White space before another byte is dropped. -/
theorem IsBlank.blanks_eq_cons {w : List UInt8} {b : UInt8} (hw : IsBlank w)
    (hb : isBlankByte b = false) (rest : List UInt8) : blanks (w ++ b :: rest) = b :: rest := by
  rw [hw.blanks_append, blanks_cons hb]

theorem blanks_eq_nil_iff {w : List UInt8} : blanks w = [] ↔ IsBlank w := by
  constructor
  · intro h
    obtain ⟨w', hw', hbs⟩ := exists_isBlank w
    rw [h, List.append_nil] at hbs
    exact hbs ▸ hw'
  · intro hw
    have hnil := hw.blanks_append []
    rwa [List.append_nil] at hnil

/-- White space and then a value or a comma stop what is before them. -/
theorem Stops.of_isBlank {w rest : List UInt8} (hw : IsBlank w) (h : Stops rest) :
    Stops (w ++ rest) := by
  cases w with
  | nil => exact h
  | cons b w => exact .inl (hw b List.mem_cons_self)

/-! ## Strings -/

/-- Four hexadecimal digits and their number. -/
inductive FourHex : List UInt8 → Nat → Prop where
  | mk {x y z w : UInt8} {a b c d : Nat} (ha : Text.hexValue? x.toNat = some a)
      (hb : Text.hexValue? y.toNat = some b) (hc : Text.hexValue? z.toNat = some c)
      (hd : Text.hexValue? w.toNat = some d) :
      FourHex [x, y, z, w] (((a * 16 + b) * 16 + c) * 16 + d)

/-- The letters that can stand behind a backslash, each with the byte that it stands for. -/
def letters : List (UInt8 × UInt8) :=
  [(0x22, 0x22), (0x5C, 0x5C), (0x2F, 0x2F), (0x62, 0x08), (0x66, 0x0C), (0x6E, 0x0A),
    (0x72, 0x0D), (0x74, 0x09)]

/-- What stands behind a backslash, and the bytes of the character that it stands for: a letter,
the code of a character, or the two surrogates of one. -/
inductive Escape : List UInt8 → List UInt8 → Prop where
  | letter {b c : UInt8} (h : (b, c) ∈ letters) : Escape [b] [c]
  | code {digits : List UInt8} {n : Nat} (h : FourHex digits n) (hn : n < 0xD800 ∨ 0xDFFF < n) :
      Escape (0x75 :: digits) (codePointBytes n)
  | pair {digits digits' : List UInt8} {high low : Nat} (h : FourHex digits high)
      (hhigh : 0xD800 ≤ high ∧ high ≤ 0xDBFF) (h' : FourHex digits' low)
      (hlow : 0xDC00 ≤ low ∧ low ≤ 0xDFFF) :
      Escape (0x75 :: (digits ++ 0x5C :: 0x75 :: digits'))
        (codePointBytes ((high - 0xD800) * 0x400 + (low - 0xDC00) + 0x10000))

/-- What is between the quotes of a string, and the bytes that it stands for. -/
inductive Spells : List UInt8 → List UInt8 → Prop where
  | nil : Spells [] []
  | plain {b : UInt8} {body out : List UInt8} (hb : IsPlain b) (h : Spells body out) :
      Spells (b :: body) (b :: out)
  | escape {e c body out : List UInt8} (he : Escape e c) (h : Spells body out) :
      Spells (0x5C :: (e ++ body)) (c ++ out)

instance (b : UInt8) : Decidable (IsPlain b) :=
  inferInstanceAs (Decidable (b ≠ 0x22 ∧ b ≠ 0x5C ∧ ¬b < 0x20))

/-- Plain bytes stand for themselves. -/
theorem Spells.of_plain {bs : List UInt8} (h : ∀ b ∈ bs, IsPlain b) : Spells bs bs := by
  induction bs with
  | nil => exact .nil
  | cons b bs ih =>
    obtain ⟨hb, h⟩ := List.forall_mem_cons.mp h
    exact .plain hb (ih h)

/-- What is between the quotes of a string if only its shape is looked at. -/
inductive IsBody : List UInt8 → Prop where
  | nil : IsBody []
  | plain {b : UInt8} {body : List UInt8} (hb : IsPlain b) (h : IsBody body) : IsBody (b :: body)
  | letter {b : UInt8} {body : List UInt8} (hb : b ∈ letters.map (·.1)) (h : IsBody body) :
      IsBody (0x5C :: b :: body)
  | code {digits body : List UInt8} {n : Nat} (hdigits : FourHex digits n) (h : IsBody body) :
      IsBody (0x5C :: 0x75 :: (digits ++ body))

/-- What stands for a text has the shape of a string. -/
theorem Spells.isBody {body out : List UInt8} (h : Spells body out) : IsBody body := by
  induction h with
  | nil => exact .nil
  | plain hb _ ih => exact .plain hb ih
  | escape he _ ih =>
    cases he with
    | letter hletter => exact .letter (List.mem_map_of_mem hletter) ih
    | code hdigits => exact .code hdigits ih
    | pair hdigits _ hdigits' =>
      -- The second surrogate is an escape of its own.
      simpa using IsBody.code hdigits (.code hdigits' ih)

/-- A string that stands for a text, with its quotes. -/
inductive IsStringOf (s : String) : List UInt8 → Prop where
  | mk {body : List UInt8} (h : Spells body (Text.bytes s)) :
      IsStringOf s (0x22 :: (body ++ [0x22]))

/-! ## Numbers -/

/-- Digits, one at least. -/
def IsDigits (ds : List UInt8) : Prop :=
  ds ≠ [] ∧ ∀ d ∈ ds, isDigit d

/-- The whole part of a number: a zero, or digits that do not start with one. -/
inductive IsWhole : List UInt8 → Prop where
  | zero : IsWhole [0x30]
  | digits {d : UInt8} {ds : List UInt8} (hd : isDigit d) (hne : d ≠ 0x30)
      (h : ∀ d ∈ ds, isDigit d) : IsWhole (d :: ds)

/-- The fraction of a number, if it has one. -/
inductive IsFraction : List UInt8 → Prop where
  | none : IsFraction []
  | point {ds : List UInt8} (h : IsDigits ds) : IsFraction (0x2E :: ds)

/-- What stands behind the letter of an exponent: digits, and a sign before them or none. -/
inductive IsScale : List UInt8 → Prop where
  | bare {ds : List UInt8} (h : IsDigits ds) : IsScale ds
  | signed {sign : UInt8} {ds : List UInt8} (hsign : sign = 0x2B ∨ sign = 0x2D)
      (h : IsDigits ds) : IsScale (sign :: ds)

/-- The exponent of a number, if it has one. -/
inductive IsExponent : List UInt8 → Prop where
  | none : IsExponent []
  | scale {letter : UInt8} {scale : List UInt8} (hletter : letter = 0x65 ∨ letter = 0x45)
      (h : IsScale scale) : IsExponent (letter :: scale)

/-- A number without a sign. -/
inductive IsUnsigned : List UInt8 → Prop where
  | mk {whole fraction exponent : List UInt8} (hwhole : IsWhole whole)
      (hfraction : IsFraction fraction) (hexponent : IsExponent exponent) :
      IsUnsigned (whole ++ (fraction ++ exponent))

/-- A number. -/
inductive IsNumber : List UInt8 → Prop where
  | positive {v : List UInt8} (h : IsUnsigned v) : IsNumber v
  | negative {v : List UInt8} (h : IsUnsigned v) : IsNumber (0x2D :: v)

/-! ## Values -/

/-- What stands between two values in brackets: a comma, and nothing before the first value. -/
inductive IsComma : (first : Bool) → List UInt8 → Prop where
  | none : IsComma true []
  | comma {w : List UInt8} (hw : IsBlank w) : IsComma false (w ++ [0x2C])

/-- A comma stops what is before it. -/
theorem IsComma.stops {comma : List UInt8} (h : IsComma false comma) (rest : List UInt8) :
    Stops (comma ++ rest) := by
  cases h with | comma hw =>
  rw [List.append_assoc]
  exact .of_isBlank hw (.inr (.inl rfl))

/-- What stands before a value in an object: a string and a colon. -/
inductive IsKey : Bracket → List UInt8 → Prop where
  | none : IsKey .list []
  | name {w body w' : List UInt8} (hw : IsBlank w) (hbody : IsBody body) (hw' : IsBlank w') :
      IsKey .object (w ++ 0x22 :: (body ++ 0x22 :: (w' ++ [0x3A])))

/-- The symbols of the grammar. -/
inductive Symbol where
  | value
  /-- What is in a bracket, from its opening on if `first` holds, and else from behind a value
  on. -/
  | rest (bracket : Bracket) (first : Bool)

/-- The byte that opens a bracket. -/
def Bracket.opening : Bracket → UInt8
  | .list => 0x5B
  | .object => 0x7B

/-- The words `null`, `true` and `false`. -/
def words : List (List UInt8) :=
  [[0x6E, 0x75, 0x6C, 0x6C], [0x74, 0x72, 0x75, 0x65], [0x66, 0x61, 0x6C, 0x73, 0x65]]

/-- The bytes that a symbol of the grammar stands for. -/
inductive Derives : Symbol → List UInt8 → Prop where
  | word {v : List UInt8} (h : v ∈ words) : Derives .value v
  | number {v : List UInt8} (h : IsNumber v) : Derives .value v
  | string {body : List UInt8} (h : IsBody body) : Derives .value (0x22 :: (body ++ [0x22]))
  | bracket {bracket : Bracket} {inner : List UInt8} (h : Derives (.rest bracket true) inner) :
      Derives .value (bracket.opening :: (inner ++ [bracket.closing]))
  | finish {bracket : Bracket} {first : Bool} {w : List UInt8} (hw : IsBlank w) :
      Derives (.rest bracket first) w
  | item {bracket : Bracket} {first : Bool} {comma key w v inner : List UInt8}
      (hcomma : IsComma first comma) (hkey : IsKey bracket key) (hw : IsBlank w)
      (hv : Derives .value v) (h : Derives (.rest bracket false) inner) :
      Derives (.rest bracket first) (comma ++ (key ++ (w ++ (v ++ inner))))

/-- A value. -/
def IsValue (v : List UInt8) : Prop :=
  Derives .value v

/-! ## Lists and objects with what is in them -/

/-- What stands before the value of a member: a string that stands for its name, and a colon. -/
inductive Names : String → List UInt8 → Prop where
  | mk {name : String} {w body w' : List UInt8} (hw : IsBlank w)
      (hbody : Spells body (Text.bytes name)) (hw' : IsBlank w') :
      Names name (w ++ 0x22 :: (body ++ 0x22 :: (w' ++ [0x3A])))

/-- A name of plain bytes stands for itself. -/
theorem Names.of_plain {name : String} (h : (Text.bytes name).all (IsPlain ·)) :
    Names name (0x22 :: (Text.bytes name ++ [0x22, 0x3A])) := by
  have hplain : ∀ b ∈ Text.bytes name, IsPlain b :=
    fun b hb => of_decide_eq_true (List.all_eq_true.mp h b hb)
  exact .mk .nil (.of_plain hplain) .nil

/-- Nothing stands before an element of a list. -/
def IsUnnamed (_ : Unit) (key : List UInt8) : Prop :=
  key = []

/-- What is in a bracket, from its opening on if `first` holds, and else from behind a value on:
its values, each with the key that stands before it. -/
inductive Items {κ : Type} (Keys : κ → List UInt8 → Prop) :
    (first : Bool) → List (κ × List UInt8) → List UInt8 → Prop where
  | finish {first : Bool} {w : List UInt8} (hw : IsBlank w) : Items Keys first [] w
  | item {first : Bool} {name : κ} {comma key w v inner : List UInt8}
      {items : List (κ × List UInt8)} (hcomma : IsComma first comma) (hkey : Keys name key)
      (hw : IsBlank w) (hv : IsValue v) (h : Items Keys false items inner) :
      Items Keys first ((name, v) :: items) (comma ++ (key ++ (w ++ (v ++ inner))))

/-- A text that is a bracket with these values, and white space around it. -/
inductive IsBracket {κ : Type} (bracket : Bracket) (Keys : κ → List UInt8 → Prop)
    (items : List (κ × List UInt8)) : List UInt8 → Prop where
  | mk {w inner w' : List UInt8} (hw : IsBlank w) (h : Items Keys true items inner)
      (hw' : IsBlank w') :
      IsBracket bracket Keys items
        (w ++ bracket.opening :: (inner ++ bracket.closing :: w'))

/-- A text that is an object with these members, in this order, each with its name and the text of
its value. -/
def IsObject (members : List (String × List UInt8)) (text : List UInt8) : Prop :=
  IsBracket .object Names members text

/-- A text that is a list of these elements. -/
def IsList (elements : List (List UInt8)) (text : List UInt8) : Prop :=
  IsBracket .list IsUnnamed (elements.map ((), ·)) text

/-- A text that is a string which stands for `s`, and white space around it. -/
inductive IsString (s : String) : List UInt8 → Prop where
  | mk {w v w' : List UInt8} (hw : IsBlank w) (h : IsStringOf s v) (hw' : IsBlank w') :
      IsString s (w ++ (v ++ w'))

theorem IsStringOf.isValue {s : String} {v : List UInt8} (h : IsStringOf s v) : IsValue v := by
  obtain ⟨hbody⟩ := h
  exact .string hbody.isBody

/-! ## First and last bytes -/

/-- A byte with which a value can start. -/
def StartsValue (b : UInt8) : Prop :=
  isBlankByte b = false ∧ b ≠ 0x2C ∧ b ≠ 0x5D ∧ b ≠ 0x7D

theorem StartsValue.ne_closing {b : UInt8} (h : StartsValue b) (bracket : Bracket) :
    b ≠ bracket.closing := by
  cases bracket
  · exact h.2.2.1
  · exact h.2.2.2

/-- A digit or a minus sign can start a value. -/
theorem startsValue_of_sign_or_digit {b : UInt8} (hb : b = 0x2D ∨ isDigit b) : StartsValue b := by
  rcases hb with rfl | hb
  · exact ⟨by decide, by decide, by decide, by decide⟩
  · refine ⟨isBlankByte_of_isDigit hb, ?_, ?_, ?_⟩ <;> rintro rfl <;> cases hb

/-- A number starts with a digit or a minus sign. -/
theorem IsNumber.exists_cons {v : List UInt8} (h : IsNumber v) :
    ∃ b tail, v = b :: tail ∧ (b = 0x2D ∨ isDigit b) := by
  cases h with
  | negative h => exact ⟨_, _, rfl, .inl rfl⟩
  | positive h =>
    obtain ⟨hwhole, -, -⟩ := h
    cases hwhole with
    | zero => exact ⟨_, _, rfl, .inr (by decide)⟩
    | digits hd hne h => exact ⟨_, _, rfl, .inr hd⟩

/-- A value has a first byte, which is neither white space nor one that stands behind a value. -/
theorem IsValue.exists_cons {v : List UInt8} (h : IsValue v) :
    ∃ b tail, v = b :: tail ∧ StartsValue b := by
  cases h with
  | word h =>
    simp only [words, List.mem_cons, List.not_mem_nil, or_false] at h
    rcases h with rfl | rfl | rfl <;> exact ⟨_, _, rfl, by decide, by decide, by decide, by decide⟩
  | string => exact ⟨_, _, rfl, by decide, by decide, by decide, by decide⟩
  | number h =>
    obtain ⟨b, tail, rfl, hb⟩ := h.exists_cons
    exact ⟨b, tail, rfl, startsValue_of_sign_or_digit hb⟩
  | @bracket bracket inner h =>
    cases bracket <;> exact ⟨_, _, rfl, by decide, by decide, by decide, by decide⟩

/-- A value does not start with white space. -/
theorem IsBlank.eq_nil_of_isValue {w v : List UInt8} (hw : IsBlank w) (hv : IsValue (w ++ v)) :
    w = [] := by
  obtain ⟨b, tail, hcons, hb⟩ := hv.exists_cons
  cases w with
  | nil => rfl
  | cons c w =>
    have hblank := hw c List.mem_cons_self
    rw [(List.cons.inj hcons).1, hb.1] at hblank
    cases hblank

/-- White space before a value is dropped. -/
theorem IsValue.blanks {v : List UInt8} (h : IsValue v) {w : List UInt8} (hw : IsBlank w)
    (rest : List UInt8) : blanks (w ++ (v ++ rest)) = v ++ rest := by
  obtain ⟨b, tail, rfl, hb⟩ := h.exists_cons
  exact hw.blanks_eq_cons hb.1 _

/-- White space before a bracket is dropped. -/
theorem IsBlank.blanks_opening {w : List UInt8} (hw : IsBlank w) (bracket : Bracket)
    (rest : List UInt8) : blanks (w ++ bracket.opening :: rest) = bracket.opening :: rest :=
  hw.blanks_eq_cons (by cases bracket <;> rfl) rest

/-- White space behind a list or an object makes no difference. -/
theorem IsBracket.append_blank {κ : Type} {bracket : Bracket} {Keys : κ → List UInt8 → Prop}
    {items : List (κ × List UInt8)} {text w : List UInt8} (h : IsBracket bracket Keys items text)
    (hw : IsBlank w) : IsBracket bracket Keys items (text ++ w) := by
  cases h with | mk hfront hitems hbehind =>
  simpa using IsBracket.mk hfront hitems (hbehind.append hw)

/-- Behind white space, a list or an object starts with its bracket. -/
theorem IsBracket.exists_blanks {κ : Type} {bracket : Bracket} {Keys : κ → List UInt8 → Prop}
    {items : List (κ × List UInt8)} {text : List UInt8} (h : IsBracket bracket Keys items text) :
    ∃ rest, blanks text = bracket.opening :: rest := by
  obtain ⟨hw, h, hw'⟩ := h
  exact ⟨_, hw.blanks_opening bracket _⟩

theorem IsBracket.ne_nil {κ : Type} {bracket : Bracket} {Keys : κ → List UInt8 → Prop}
    {items : List (κ × List UInt8)} {text : List UInt8} (h : IsBracket bracket Keys items text) :
    text ≠ [] := by
  rintro rfl
  obtain ⟨rest, hrest⟩ := h.exists_blanks
  cases hrest

/-- A list or an object ends with its bracket, or with white space behind it. -/
theorem IsBracket.exists_getLast {κ : Type} {bracket : Bracket} {Keys : κ → List UInt8 → Prop}
    {items : List (κ × List UInt8)} {text : List UInt8} (h : IsBracket bracket Keys items text) :
    ∃ b, text.getLast? = some b ∧ (b = bracket.closing ∨ isBlankByte b) := by
  cases h with | @mk w inner w' hw hitems hw' =>
  -- The text ends with the closing bracket and the blanks behind it.
  have hlast : (w ++ bracket.opening :: (inner ++ bracket.closing :: w')).getLast? =
      some ((bracket.closing :: w').getLast (List.cons_ne_nil _ _)) := by
    rw [List.getLast?_append, List.getLast?_cons, List.getLast?_append,
      List.getLast?_eq_some_getLast (List.cons_ne_nil _ _)]
    rfl
  refine ⟨_, hlast, ?_⟩
  have hmem := List.getLast_mem (List.cons_ne_nil bracket.closing w')
  rcases List.mem_cons.mp hmem with hclosing | hblank
  · exact .inl hclosing
  · exact .inr (hw' _ hblank)

end BearerCache.Json
