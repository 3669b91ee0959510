import BearerCache.Json.Reader

/-! # JSON values and their compact text

A `Value` is written without any white space, members in their own order.  In a text, the
quote, the backslash and the control characters are escaped and every other character stands
for itself. -/

namespace BearerCache.Json

/-- A JSON value.  An object keeps its members in order. -/
inductive Value where
  | null
  | boolean (b : Bool)
  | number (n : Numeral)
  | text (s : String)
  | list (elements : List Value)
  | object (members : List (String × Value))

namespace Value

/-- A whole number as a value. -/
def integer : Int → Value
  | .ofNat n => .number (.whole n)
  | .negSucc n => .number (.negative (n + 1))

/-- What a value is, for a message. -/
def found : Value → Found
  | null => .null
  | boolean b => .boolean b
  | number n => .number n
  | text s => .text s
  | list _ => .list
  | object _ => .object

end Value

/-! ## Writing -/

/-- The written form of one character of a text. -/
def escapeChar (c : Char) : List Char :=
  match c with
  | '"' => ['\\', '"']
  | '\\' => ['\\', '\\']
  | '\x08' => ['\\', 'b']
  | '\t' => ['\\', 't']
  | '\n' => ['\\', 'n']
  | '\x0c' => ['\\', 'f']
  | '\r' => ['\\', 'r']
  | c =>
    if c.toNat < 0x20 then
      ['\\', 'u', '0', '0', Text.hexLower (c.toNat / 16), Text.hexLower (c.toNat % 16)]
    else [c]

/-- The written form of a text. -/
def quote (s : String) : List Char :=
  '"' :: s.toList.flatMap escapeChar ++ ['"']

/-- The written form of a number. -/
def Numeral.chars : Numeral → List Char
  | .whole n => Nat.toDigits 10 n
  | .negative n => '-' :: Nat.toDigits 10 n
  | .real isNegative x => (Number.Layout.message.text isNegative x).toList

namespace Value

mutual

/-- The written form of a value. -/
def chars : Value → List Char
  | null => ['n', 'u', 'l', 'l']
  | boolean true => ['t', 'r', 'u', 'e']
  | boolean false => ['f', 'a', 'l', 's', 'e']
  | number n => n.chars
  | text s => quote s
  | list [] => ['[', ']']
  | list (a :: rest) => '[' :: a.chars ++ elementChars rest
  | object [] => ['\x7b', '\x7d']
  | object ((name, a) :: rest) => '\x7b' :: quote name ++ ':' :: a.chars ++ memberChars rest

/-- The written form of the further elements of a list, with the closing bracket. -/
def elementChars : List Value → List Char
  | [] => [']']
  | a :: rest => ',' :: a.chars ++ elementChars rest

/-- The written form of the further members of an object, with the closing brace. -/
def memberChars : List (String × Value) → List Char
  | [] => ['\x7d']
  | (name, a) :: rest => ',' :: quote name ++ ':' :: a.chars ++ memberChars rest

end

/-- The compact text of a value. -/
def write (v : Value) : String :=
  String.ofList v.chars

end Value

end BearerCache.Json
