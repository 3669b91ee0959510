import BearerCache.Text.Digits
import BearerCache.Text.Utf8

/-! # Percent encoding

The parts of an address are written in ASCII.  A byte that a part cannot hold, and every byte
of a character beyond ASCII, is written `%XX`; each part has its own set of such bytes. -/

namespace BearerCache.Url

/-- A set of bytes that a part of an address cannot hold. -/
abbrev EscapeSet := UInt8 → Bool

namespace EscapeSet

/-- A set with further ASCII characters. -/
def adding (set : EscapeSet) (chars : String) : EscapeSet := fun b =>
  set b || chars.toList.any fun c => c.toNat == b.toNat

/-- Controls and the bytes of characters beyond ASCII. -/
def controls : EscapeSet := fun b => b < 0x20 || 0x7F ≤ b

/-- What a fragment cannot hold. -/
def fragment : EscapeSet := controls.adding " \"<>`"

/-- What a segment of a path cannot hold. -/
def path : EscapeSet := fragment.adding "#?\x7b\x7d"

/-- What a user name or a password cannot hold. -/
def userInfo : EscapeSet := path.adding "/:;=@[\\]^|"

/-- What a query cannot hold. -/
def query : EscapeSet := controls.adding " \"#<>"

/-- What the query of an address with a special scheme cannot hold. -/
def specialQuery : EscapeSet := query.adding "'"

end EscapeSet

/-- The written form of one byte. -/
def escapeByte (set : EscapeSet) (b : UInt8) : List Char :=
  if set b then ['%', Text.hexUpper (b.toNat / 16), Text.hexUpper (b.toNat % 16)]
  else [Char.ofNat b.toNat]

/-- The written form of a text in a part of an address. -/
def escape (set : EscapeSet) (cs : List Char) : String :=
  String.ofList ((Text.bytes (String.ofList cs)).flatMap (escapeByte set))

/-- The bytes that a written form stands for; a percent sign without two digits stands for
itself. -/
def unescape : List UInt8 → List UInt8
  | 0x25 :: high :: low :: rest =>
    match Text.hexValue? high.toNat, Text.hexValue? low.toNat with
    | some h, some l => UInt8.ofNat (h * 16 + l) :: unescape rest
    | _, _ => 0x25 :: unescape (high :: low :: rest)
  | b :: rest => b :: unescape rest
  | [] => []

end BearerCache.Url
