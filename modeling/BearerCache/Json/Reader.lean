import BearerCache.Json.Scan
import BearerCache.Number.Shortest
import BearerCache.Text.Quoted

/-! # Readers of JSON values

A `Reader` takes one value off the front of the bytes, and always takes something: what it
leaves is shorter than what it was given.  Readers of objects and lists loop on that.

A value of the wrong kind is reported with what stands in its place (`Found`); a value of the
right kind that does not suit is refused by `Reader.refine`. -/

namespace BearerCache.Json

/-- Takes a value of `α` off the front of the bytes. -/
structure Reader (α : Type) where
  /-- Reads the value and gives what follows it. -/
  run : List UInt8 → Scan α
  /-- What follows is shorter than what was given. -/
  shrinks : ∀ {bs rest : List UInt8} {a : α}, run bs = .ok (a, rest) → rest.length < bs.length

/-! ## What stands in the place of a value -/

/-- What a text holds where another kind of value was wanted. -/
inductive Found where
  | null
  | boolean (b : Bool)
  | number (n : Numeral)
  | text (s : String)
  | list
  | object
  /-- The name of an alternative alone, without the value it has to hold. -/
  | bareName
  deriving DecidableEq, Repr

/-- The wording of what was found. -/
def Found.describe : Found → String
  | .null => "null"
  | .boolean true => "boolean `true`"
  | .boolean false => "boolean `false`"
  | .number (.whole n) => s!"integer `{n}`"
  | .number (.negative n) => s!"integer `-{n}`"
  | .number (.real isNegative x) =>
    s!"floating point `{Number.Layout.message.text isNegative x}`"
  | .text s => "string " ++ Text.quoted s
  | .list => "sequence"
  | .object => "map"
  | .bareName => "unit variant"

/-- The complaint that one kind of value stands where another was expected. -/
def wrongKind (found : Found) (expected : String) : String :=
  s!"invalid type: {found.describe}, expected {expected}"

/-- Looks at the value whose first byte is `b`.  Lists and objects are only recognised. -/
def lookAt (b : UInt8) (rest : List UInt8) : Scan Found :=
  if b = 0x6E then (ident [0x75, 0x6C, 0x6C] rest).map (.null, ·)
  else if b = 0x74 then (ident [0x72, 0x75, 0x65] rest).map (.boolean true, ·)
  else if b = 0x66 then (ident [0x61, 0x6C, 0x73, 0x65] rest).map (.boolean false, ·)
  else if b = 0x2D ∨ isDigit b then (numeral (b :: rest)).map fun p => (.number p.1, p.2)
  else if b = 0x22 then (stringText rest).map fun p => (.text p.1, p.2)
  else if b = 0x5B then .ok (.list, b :: rest)
  else if b = 0x7B then .ok (.object, b :: rest)
  else .error (.next .expectedValue (b :: rest))

/-- The fault of a value, whose first byte is `b`, that is not of the expected kind. -/
def mismatch (expected : String) (b : UInt8) (rest : List UInt8) : Fault :=
  match lookAt b rest with
  | .error fault => fault
  | .ok (found, rest) => .here (.unsuitable (wrongKind found expected)) rest

namespace Reader

/-- A reader that decides on the first byte of the value. -/
def ofByte {α : Type} (take : UInt8 → List UInt8 → Scan α)
    (h : ∀ {b : UInt8} {bs rest : List UInt8} {a : α}, take b bs = .ok (a, rest) →
      rest.length ≤ bs.length) : Reader α where
  run bs :=
    match blanks bs with
    | b :: rest => take b rest
    | [] => .error (.next .endInValue [])
  shrinks := by
    intro bs rest a hrun
    have hblank := blanks_length bs
    split at hrun
    next b tail hb =>
      rw [hb] at hblank
      have hshort := h hrun
      simp only [List.length_cons] at hblank
      omega
    next => cases hrun

/-- Reads a value and refuses some, or all, of what was read.  The complaint is about the
value as a whole. -/
def refine {α β : Type} (r : Reader α) (f : α → Except String β) : Reader β where
  run bs :=
    match r.run bs with
    | .error fault => .error fault
    | .ok (a, rest) =>
      match f a with
      | .error detail => .error (.whole detail rest)
      | .ok b => .ok (b, rest)
  shrinks := by
    intro bs rest b h
    split at h
    · cases h
    next a tail ha =>
      split at h
      · cases h
      · cases h; exact r.shrinks ha

/-- Reads a value and turns it into another. -/
def map {α β : Type} (f : α → β) (r : Reader α) : Reader β :=
  r.refine fun a => .ok (f a)

/-! ## Scalars -/

/-- A text.  `expected` is said when something else stands there. -/
def textAs (expected : String) : Reader String :=
  ofByte
    (fun b rest => if b = 0x22 then stringText rest else .error (mismatch expected b rest))
    (by
      intro b bs rest s h
      split at h
      · exact Nat.le_of_lt (stringText_length h)
      · cases h)

/-- A text. -/
def text : Reader String :=
  textAs "a string"

/-- A number, as it is written. -/
def number (expected : String) : Reader Numeral :=
  ofByte
    (fun b rest =>
      if b = 0x2D ∨ isDigit b then numeral (b :: rest) else .error (mismatch expected b rest))
    (by
      intro b bs rest n h
      split at h
      · exact Nat.le_of_lt_succ (numeral_length h)
      · cases h)

end Reader

/-- The whole number that a numeral is. -/
def Numeral.toInt? : Numeral → Option Int
  | .whole n => some n
  | .negative n => some (-Int.ofNat n)
  | .real _ _ => none

namespace Reader

/-- A whole number between two bounds; `kind` names that range. -/
def whole (kind : String) (least greatest : Int) : Reader Int :=
  (number kind).refine fun n =>
    match n.toInt? with
    | some i =>
      if least ≤ i ∧ i ≤ greatest then .ok i
      else .error s!"invalid value: integer `{i}`, expected {kind}"
    | none => .error (wrongKind (.number n) kind)

/-- Null, and nothing else. -/
def null (expected : String) : Reader Unit :=
  ofByte
    (fun b rest =>
      if b = 0x6E then (ident [0x75, 0x6C, 0x6C] rest).map ((), ·)
      else .error (mismatch expected b rest))
    (by
      intro b bs rest s h
      split at h
      · cases hid : ident [0x75, 0x6C, 0x6C] bs with
        | error => rw [hid] at h; cases h
        | ok more => rw [hid] at h; cases h; exact ident_length hid
      · cases h)

/-- A value that may be null. -/
def option {α : Type} (r : Reader α) : Reader (Option α) where
  run bs :=
    match blanks bs with
    | 0x6E :: rest => (ident [0x75, 0x6C, 0x6C] rest).map (none, ·)
    | _ => (r.map some).run bs
  shrinks := by
    intro bs rest a h
    have hblank := blanks_length bs
    split at h
    next tail hb =>
      rw [hb] at hblank
      simp only [List.length_cons] at hblank
      cases hid : ident [0x75, 0x6C, 0x6C] tail with
      | error => rw [hid] at h; cases h
      | ok more =>
        rw [hid] at h
        cases h
        have := ident_length hid
        omega
    · exact (r.map some).shrinks h

/-- Any value, passed over. -/
def skip : Reader Unit where
  run bs := (skipValue bs).map ((), ·)
  shrinks := by
    intro bs rest a h
    cases hs : skipValue bs with
    | error => rw [hs] at h; cases h
    | ok more => rw [hs] at h; cases h; exact skipValue_length hs

/-! ## Whole texts -/

/-- Reads the value that a whole text is; only blanks may follow it. -/
def parse {α : Type} (r : Reader α) (input : List UInt8) : Except Fault α :=
  match r.run input with
  | .error fault => .error fault
  | .ok (a, rest) =>
    match blanks rest with
    | [] => .ok a
    | b :: more => .error (.next .trailingCharacters (b :: more))

/-- Reads the value at the front of a text, whatever follows it. -/
def parseFront {α : Type} (r : Reader α) (input : List UInt8) : Except Fault α :=
  (r.run input).map (·.1)

end Reader

end BearerCache.Json
