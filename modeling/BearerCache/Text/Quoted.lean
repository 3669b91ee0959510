import BearerCache.Text.Digits
import BearerCache.Text.Escaped

/-! # Quoted texts

How a text is shown inside a description of a value: between double quotes, with escapes for
the quote, the backslash, the common controls, and `\u{…}` for every other character that
cannot be seen on its own. -/

namespace BearerCache.Text

/-- The shown form of one character inside quotes. -/
def quotedChar (c : Char) : List Char :=
  match c with
  | '"' => ['\\', '"']
  | '\\' => ['\\', '\\']
  | '\n' => ['\\', 'n']
  | '\r' => ['\\', 'r']
  | '\t' => ['\\', 't']
  | '\x00' => ['\\', '0']
  | c =>
    if isEscaped c then ['\\', 'u', '\x7b'] ++ Nat.toDigits 16 c.toNat ++ ['\x7d']
    else [c]

/-- A text between quotes. -/
def quoted (s : String) : String :=
  String.ofList ('"' :: s.toList.flatMap quotedChar ++ ['"'])

/-- A description of a value with named fields, each already described. -/
def described (name : String) (fields : List (String × String)) : String :=
  name ++ " \x7b " ++ ", ".intercalate (fields.map fun f => f.1 ++ ": " ++ f.2) ++ " \x7d"

/-- A description of a value with one unnamed part, already described. -/
def wrapped (name part : String) : String :=
  name ++ "(" ++ part ++ ")"

/-- A description of a list of parts, each already described. -/
def listed (parts : List String) : String :=
  "[" ++ ", ".intercalate parts ++ "]"

/-- A description of an optional part. -/
def optional : Option String → String
  | none => "None"
  | some part => wrapped "Some" part

end BearerCache.Text
