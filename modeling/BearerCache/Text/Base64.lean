/-! # Base64

The two alphabets, encoding with and without padding, and the strict reading: the bits that
the last symbol of a text leaves over must be zero.  Reading says which byte was wrong and
where.

Bytes are read in groups of four.  The last group, complete or not, is the only one that may
end in padding; `Padding` says whether padding is forbidden there or makes no difference. -/

namespace BearerCache.Text.Base64

/-- Which symbols stand for 62 and 63: `+ /`, or `- _` in texts that go into URLs. -/
inductive Alphabet where
  | standard
  | urlSafe
  deriving DecidableEq, Repr

/-- What the reader makes of padding at the end. -/
inductive Padding where
  /-- Padding may be there or not. -/
  | indifferent
  /-- There must be none. -/
  | forbidden
  deriving DecidableEq, Repr

/-- Why a text is not Base64.  Offsets count bytes from the start of the text. -/
inductive Fault where
  /-- A byte that is no symbol here. -/
  | symbol (offset : Nat) (byte : UInt8)
  /-- The last symbol has bits that no byte takes. -/
  | lastSymbol (offset : Nat) (byte : UInt8)
  /-- A single symbol is left over. -/
  | length (size : Nat)
  /-- Padding where it is forbidden. -/
  | padding
  deriving DecidableEq, Repr

/-- The wording of a fault. -/
def Fault.message : Fault → String
  | .symbol offset byte => s!"Invalid symbol {byte}, offset {offset}."
  | .lastSymbol offset byte => s!"Invalid last symbol {byte}, offset {offset}."
  | .length size => s!"Invalid input length: {size}"
  | .padding => "Invalid padding"

/-! ## Symbols -/

/-- The symbol of a number below sixty-four. -/
def symbol (alphabet : Alphabet) (n : Nat) : UInt8 :=
  if n < 26 then UInt8.ofNat (0x41 + n)
  else if n < 52 then UInt8.ofNat (0x61 + (n - 26))
  else if n < 62 then UInt8.ofNat (0x30 + (n - 52))
  else
    match alphabet with
    | .standard => if n = 62 then 0x2B else 0x2F
    | .urlSafe => if n = 62 then 0x2D else 0x5F

/-- The number that a symbol stands for. -/
def value? (alphabet : Alphabet) (b : UInt8) : Option Nat :=
  let n := b.toNat
  if 0x41 ≤ n ∧ n ≤ 0x5A then some (n - 0x41)
  else if 0x61 ≤ n ∧ n ≤ 0x7A then some (n - 0x61 + 26)
  else if 0x30 ≤ n ∧ n ≤ 0x39 then some (n - 0x30 + 52)
  else
    match alphabet with
    | .standard => if n = 0x2B then some 62 else if n = 0x2F then some 63 else none
    | .urlSafe => if n = 0x2D then some 62 else if n = 0x5F then some 63 else none

/-- Each symbol stands for its number. -/
theorem value?_symbol (alphabet : Alphabet) :
    ∀ n : Fin 64, value? alphabet (symbol alphabet n.val) = some n.val := by
  cases alphabet <;> decide

/-! ## Writing -/

/-- The symbols of a sequence of bytes, without padding. -/
def symbols (alphabet : Alphabet) : List UInt8 → List UInt8
  | [] => []
  | [a] =>
    [symbol alphabet (a.toNat / 4), symbol alphabet (a.toNat % 4 * 16)]
  | [a, b] =>
    [symbol alphabet (a.toNat / 4), symbol alphabet (a.toNat % 4 * 16 + b.toNat / 16),
      symbol alphabet (b.toNat % 16 * 4)]
  | a :: b :: c :: rest =>
    symbol alphabet (a.toNat / 4) :: symbol alphabet (a.toNat % 4 * 16 + b.toNat / 16) ::
      symbol alphabet (b.toNat % 16 * 4 + c.toNat / 64) :: symbol alphabet (c.toNat % 64) ::
      symbols alphabet rest

/-- The padding that completes the last group of the symbols of `size` bytes. -/
def paddingFor (size : Nat) : List UInt8 :=
  List.replicate ((3 - size % 3) % 3) 0x3D

/-- A list of ASCII bytes as a text. -/
private def ascii (bs : List UInt8) : String :=
  String.ofList (bs.map fun b => Char.ofNat b.toNat)

/-- The Base64 form of a sequence of bytes, without padding. -/
def encode (alphabet : Alphabet) (bs : List UInt8) : String :=
  ascii (symbols alphabet bs)

/-- The Base64 form of a sequence of bytes, padded to whole groups of four. -/
def encodePadded (alphabet : Alphabet) (bs : List UInt8) : String :=
  ascii (symbols alphabet bs ++ paddingFor bs.length)

/-! ## Reading -/

/-- The number that the byte at an offset stands for. -/
def valueAt (alphabet : Alphabet) (offset : Nat) (b : UInt8) : Except Fault Nat :=
  match value? alphabet b with
  | some n => .ok n
  | none => .error (.symbol offset b)

/-- The numbers of the symbols of the last group, and the length of the padding after them.
`index` is the place in the group, which starts at `offset`. -/
def lastValues (alphabet : Alphabet) (offset index pads : Nat) :
    List UInt8 → Except Fault (List Nat × Nat)
  | [] => .ok ([], pads)
  | b :: rest =>
    if b = 0x3D then
      if index < 2 then .error (.symbol (offset + index) b)
      else lastValues alphabet offset (index + 1) (pads + 1) rest
    else if 0 < pads then .error (.symbol (offset + (index - pads)) 0x3D)
    else do
      let n ← valueAt alphabet (offset + index) b
      let (more, pads) ← lastValues alphabet offset (index + 1) pads rest
      return (n :: more, pads)

/-- The bytes of the last group.  `padding` decides on padding; the bits left over by the
last symbol must be zero. -/
def lastGroup (alphabet : Alphabet) (padding : Padding) (offset : Nat) (group : List UInt8) :
    Except Fault (List UInt8) := do
  let (values, pads) ← lastValues alphabet offset 0 0 group
  if group ≠ [] ∧ values.length < 2 then throw (.length (offset + values.length))
  if padding = .forbidden ∧ 0 < pads then throw .padding
  let leftover (n bits : Nat) : Except Fault Unit :=
    if n % Nat.pow 2 bits = 0 then .ok ()
    else
      let index := values.length - 1
      .error (.lastSymbol (offset + index) (group.getD index 0))
  match values with
  | [a, b] =>
    leftover b 4
    return [UInt8.ofNat (a * 4 + b / 16)]
  | [a, b, c] =>
    leftover c 2
    return [UInt8.ofNat (a * 4 + b / 16), UInt8.ofNat (b % 16 * 16 + c / 4)]
  | [a, b, c, d] =>
    return [UInt8.ofNat (a * 4 + b / 16), UInt8.ofNat (b % 16 * 16 + c / 4),
      UInt8.ofNat (c % 4 * 64 + d)]
  | _ => return []

/-- Reads the groups from the one at `offset` on. -/
def groups (alphabet : Alphabet) (padding : Padding) (offset : Nat) :
    List UInt8 → Except Fault (List UInt8)
  | a :: b :: c :: d :: e :: rest => do
    let a ← valueAt alphabet offset a
    let b ← valueAt alphabet (offset + 1) b
    let c ← valueAt alphabet (offset + 2) c
    let d ← valueAt alphabet (offset + 3) d
    let more ← groups alphabet padding (offset + 4) (e :: rest)
    return UInt8.ofNat (a * 4 + b / 16) :: UInt8.ofNat (b % 16 * 16 + c / 4) ::
      UInt8.ofNat (c % 4 * 64 + d) :: more
  | group => lastGroup alphabet padding offset group

/-- Reads Base64.  A single byte after the last whole group is looked at first: if it is no
symbol at all, as a line feed at the end of a file, it is the one reported. -/
def decode (alphabet : Alphabet) (padding : Padding) (bs : List UInt8) :
    Except Fault (List UInt8) :=
  match bs.getLast? with
  | some last =>
    if bs.length % 4 = 1 ∧ last ≠ 0x3D ∧ value? alphabet last = none then
      .error (.symbol (bs.length - 1) last)
    else groups alphabet padding 0 bs
  | none => groups alphabet padding 0 bs

end BearerCache.Text.Base64
