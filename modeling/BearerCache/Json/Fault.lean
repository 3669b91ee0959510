/-! # Faults of a JSON text

Why a text could not be read, and where.  A `Fault` remembers the bytes that were still
unread when it arose.  Its place is fixed either at once or, for a fault that a record as a
whole has (a missing or repeated member), once the end of that record has been looked for;
`left` counts the bytes after that place.

Three classes of faults are told apart: the text ended too early, it is not JSON, or it is
JSON so far but not of the wanted shape. -/

namespace BearerCache.Json

/-- What is wrong with a text. -/
inductive Cause where
  | endInValue
  | endInList
  | endInObject
  | endInString
  | expectedColon
  | expectedCommaOrBracket
  | expectedCommaOrBrace
  | expectedIdent
  | expectedValue
  | keyNotString
  | invalidEscape
  | invalidNumber
  | numberTooLarge
  | invalidUtf8
  | controlCharacter
  | loneSurrogate
  | brokenSurrogatePair
  | trailingComma
  | trailingCharacters
  /-- The value is of the wrong kind, out of its range, incomplete or repeated. -/
  | unsuitable (detail : String)
  deriving DecidableEq, Repr

/-- The three classes of causes. -/
inductive Category where
  /-- The text ended too early. -/
  | eof
  /-- The text is not JSON. -/
  | malformed
  /-- The text is JSON so far, but not what was wanted. -/
  | data
  deriving DecidableEq, Repr

/-- The class of a cause. -/
def Cause.category : Cause → Category
  | .endInValue | .endInList | .endInObject | .endInString => .eof
  | .unsuitable _ => .data
  | _ => .malformed

/-- The wording of a cause. -/
def Cause.message : Cause → String
  | .endInValue => "EOF while parsing a value"
  | .endInList => "EOF while parsing a list"
  | .endInObject => "EOF while parsing an object"
  | .endInString => "EOF while parsing a string"
  | .expectedColon => "expected `:`"
  | .expectedCommaOrBracket => "expected `,` or `]`"
  | .expectedCommaOrBrace => "expected `,` or `\x7d`"
  | .expectedIdent => "expected ident"
  | .expectedValue => "expected value"
  | .keyNotString => "key must be a string"
  | .invalidEscape => "invalid escape"
  | .invalidNumber => "invalid number"
  | .numberTooLarge => "number out of range"
  | .invalidUtf8 => "invalid unicode code point"
  | .controlCharacter => "control character (\\u0000-\\u001F) found while parsing a string"
  | .loneSurrogate => "lone leading surrogate in hex escape"
  | .brokenSurrogatePair => "unexpected end of hex escape"
  | .trailingComma => "trailing comma"
  | .trailingCharacters => "trailing characters"
  | .unsuitable detail => detail

/-- One step from a value to a value inside it. -/
inductive Segment where
  | member (name : String)
  | element (index : Nat)
  /-- A member whose name could not be read. -/
  | unnamed
  deriving DecidableEq, Repr

/-- A fault of a text. -/
structure Fault where
  cause : Cause
  /-- What was unread when the fault arose. -/
  rest : List UInt8
  /-- How many bytes follow the place of the fault, once the place is fixed. -/
  left : Option Nat
  /-- The way from the whole value to the part that has the fault. -/
  path : List Segment

namespace Fault

/-- A fault placed right before the unread bytes. -/
def here (cause : Cause) (rest : List UInt8) : Fault :=
  ⟨cause, rest, some rest.length, []⟩

/-- A fault placed after the next byte, which was looked at but not taken. -/
def next (cause : Cause) (rest : List UInt8) : Fault :=
  ⟨cause, rest, some (rest.length - 1), []⟩

/-- A fault of a value as a whole, not placed yet. -/
def whole (detail : String) (rest : List UInt8) : Fault :=
  ⟨.unsuitable detail, rest, none, []⟩

/-- Places a fault at the given unread bytes unless it has a place. -/
def placed (fault : Fault) (rest : List UInt8) : Fault :=
  { fault with left := some (fault.left.getD rest.length) }

/-- The fault of a value seen from a value around it. -/
def inside (fault : Fault) (segment : Segment) : Fault :=
  { fault with path := segment :: fault.path }

/-- The class of a fault. -/
def category (fault : Fault) : Category :=
  fault.cause.category

/-- The line and the column of a place, as the bytes before it: both count bytes, lines from
one and columns from the last line feed. -/
def lineAndColumn (before : List UInt8) : Nat × Nat :=
  before.foldl (fun p b => if b = 0x0A then (p.1 + 1, 0) else (p.1, p.2 + 1)) (1, 0)

/-- The wording of a fault of the whole text `input`, with its place if it has one. -/
def message (fault : Fault) (input : List UInt8) : String :=
  match fault.left with
  | none => fault.cause.message
  | some left =>
    let (line, column) := lineAndColumn (input.take (input.length - left))
    s!"{fault.cause.message} at line {line} column {column}"

/-- The way to the faulty part as a text: a point alone for the whole value. -/
def pathText (fault : Fault) : String :=
  let rec go (first : Bool) : List Segment → String
    | [] => ""
    | .element index :: more => s!"[{index}]" ++ go false more
    | .member name :: more => (if first then "" else ".") ++ name ++ go false more
    | .unnamed :: more => (if first then "" else ".") ++ "?" ++ go false more
  if fault.path.isEmpty then "." else go true fault.path

end Fault

end BearerCache.Json
