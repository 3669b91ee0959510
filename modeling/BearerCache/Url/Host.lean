import BearerCache.Text.Digits
import BearerCache.Text.Quoted
import BearerCache.Url.Domain.Name
import BearerCache.Url.Percent

/-! # Hosts

The host of an address: a name, or a number in one of the two forms of IP addresses.  A name
that ends like a number has to be one. -/

namespace BearerCache.Url

/-! ## Faults of an address -/

/-- Why a text is not an address. -/
inductive Fault where
  | emptyHost
  /-- The host is not a domain name. -/
  | invalidDomain
  | invalidPort
  | invalidIpv4
  | invalidIpv6
  /-- The host has a character that no host may have. -/
  | invalidHostCharacter
  /-- The text is relative and there is nothing that it is relative to. -/
  | relativeWithoutBase
  /-- The text is relative to an address whose path has no segments. -/
  | relativeToFlat
  deriving DecidableEq, Repr

/-- The wording of a fault. -/
def Fault.message : Fault → String
  | .emptyHost => "empty host"
  | .invalidDomain => "invalid international domain name"
  | .invalidPort => "invalid port number"
  | .invalidIpv4 => "invalid IPv4 address"
  | .invalidIpv6 => "invalid IPv6 address"
  | .invalidHostCharacter => "invalid domain character"
  | .relativeWithoutBase => "relative URL without a base"
  | .relativeToFlat => "relative URL with a cannot-be-a-base base"

/-! ## Kinds of hosts -/

/-- A host. -/
inductive Host where
  /-- A name; it is empty where an address has no host after its two slashes. -/
  | domain (name : String)
  | ipv4 (number : Nat)
  /-- Eight pieces of sixteen bits. -/
  | ipv6 (pieces : List Nat)
  deriving DecidableEq, Repr

/-! ## Version four -/

/-- The four bytes of a number, with dots. -/
def ipv4Text (n : Nat) : String :=
  s!"{n / 16777216 % 256}.{n / 65536 % 256}.{n / 256 % 256}.{n % 256}"

/-- The number that digits to a base stand for. -/
def numberInBase? (base : Nat) (cs : List Char) : Option Nat :=
  cs.foldlM (fun n c =>
    match Text.hexValue? c.toNat with
    | some d => if d < base then some (n * base + d) else none
    | none => none) 0

/-- One number of a version four address: hexadecimal after `0x`, octal after `0`, else
decimal. -/
def ipv4Number? : List Char → Option Nat
  | [] => none
  | '0' :: 'x' :: digits | '0' :: 'X' :: digits => numberInBase? 16 digits
  | '0' :: d :: digits => numberInBase? 8 (d :: digits)
  | digits => numberInBase? 10 digits

/-- The labels of a name without an empty one at its end. -/
def ipv4Parts (name : List Char) : List (List Char) :=
  let parts := Domain.labels name
  if parts.getLast? = some [] then parts.dropLast else parts

/-- Whether a name ends like a number. -/
def endsInNumber (name : List Char) : Bool :=
  match (ipv4Parts name).getLast? with
  | none => false
  | some last =>
    (last ≠ [] && last.all fun c => '0' ≤ c && c ≤ '9') || (ipv4Number? last).isSome

/-- The address of some numbers: all but the last are one byte, the last fills the rest. -/
def ipv4OfNumbers? (numbers : List Nat) : Option Nat :=
  match numbers.reverse with
  | [] => none
  | last :: front =>
    if 3 < front.length ∨ front.any (255 < ·) ∨ Nat.pow 256 (4 - front.length) ≤ last then none
    else
      some (front.reverse.zipIdx.foldl (fun sum p => sum + p.1 * Nat.pow 256 (3 - p.2)) last)

/-- The version four address that a name is. -/
def ipv4? (name : List Char) : Option Nat :=
  ((ipv4Parts name).mapM ipv4Number?).bind ipv4OfNumbers?

/-! ## Version six -/

/-- One piece: one to four hexadecimal digits. -/
def piece? (cs : List Char) : Option Nat :=
  if cs = [] ∨ 4 < cs.length then none else numberInBase? 16 cs

/-- A decimal byte without leading zeros. -/
def byte? (cs : List Char) : Option Nat :=
  match cs with
  | [] => none
  | ['0'] => some 0
  | '0' :: _ => none
  | cs => (numberInBase? 10 cs).filter (· ≤ 255)

/-- The two pieces of four decimal bytes. -/
def ipv4Pieces? (cs : List Char) : Option (List Nat) :=
  match (Domain.labels cs).mapM byte? with
  | some [a, b, c, d] => some [a * 256 + b, c * 256 + d]
  | _ => none

/-- The pieces of parts.  Where `allowsIpv4` holds, the last part may be four decimal bytes. -/
def pieces? (allowsIpv4 : Bool) : List (List Char) → Option (List Nat)
  | [] => some []
  | [last] =>
    if allowsIpv4 ∧ last.contains '.' then ipv4Pieces? last else (piece? last).map ([·])
  | part :: more => do
    let piece ← piece? part
    let rest ← pieces? allowsIpv4 more
    return piece :: rest

/-- The pieces of a text; the empty text has none. -/
def piecesOf? (allowsIpv4 : Bool) (cs : List Char) : Option (List Nat) :=
  if cs = [] then some [] else pieces? allowsIpv4 (cs.splitOnP (· == ':'))

/-- What is before and after the first double colon. -/
def splitGap : List Char → Option (List Char × List Char)
  | ':' :: ':' :: rest => some ([], rest)
  | c :: rest => (splitGap rest).map fun p => (c :: p.1, p.2)
  | [] => none

/-- The eight pieces of a version six address.  A double colon stands for one zero or more. -/
def ipv6? (cs : List Char) : Option (List Nat) :=
  match splitGap cs with
  | none => (piecesOf? true cs).filter (·.length = 8)
  | some (left, right) => do
    let front ← piecesOf? false left
    let back ← piecesOf? true right
    if 7 < front.length + back.length then none
    return front ++ List.replicate (8 - front.length - back.length) 0 ++ back

/-- The length of the run of zeros at the front. -/
def zeroRun (pieces : List Nat) : Nat :=
  (pieces.takeWhile (· == 0)).length

/-- Where the longest run of zeros starts, the first of several, and its length. -/
def longestZeros (pieces : List Nat) : Nat × Nat :=
  (List.range pieces.length).foldl (fun best start =>
    let run := zeroRun (pieces.drop start)
    if best.2 < run then (start, run) else best) (0, 0)

/-- Pieces with colons. -/
def pieceText (pieces : List Nat) : String :=
  ":".intercalate (pieces.map Text.hexText)

/-- A version six address: the longest run of two zeros or more is left out. -/
def ipv6Text (pieces : List Nat) : String :=
  let (start, run) := longestZeros pieces
  if run < 2 then pieceText pieces
  else pieceText (pieces.take start) ++ "::" ++ pieceText (pieces.drop (start + run))

/-- A version six address as it is shown in a description: one that stands for a version four
address shows it. -/
def ipv6Description (pieces : List Nat) : String :=
  match pieces with
  | [0, 0, 0, 0, 0, 0xFFFF, a, b] => "::ffff:" ++ ipv4Text (a * 65536 + b)
  | pieces => ipv6Text pieces

/-! ## Hosts -/

namespace Host

/-- The text of a host in an address. -/
def write : Host → String
  | domain name => name
  | ipv4 n => ipv4Text n
  | ipv6 pieces => "[" ++ ipv6Text pieces ++ "]"

/-- A host as it is shown in the description of a value; an empty one is none. -/
def describe : Host → Option String
  | domain name => if name = "" then none else some (Text.wrapped "Domain" (Text.quoted name))
  | ipv4 n => some (Text.wrapped "Ipv4" (ipv4Text n))
  | ipv6 pieces => some (Text.wrapped "Ipv6" (ipv6Description pieces))

/-- The version six address between brackets. -/
def bracketed (cs : List Char) : Except Fault Host :=
  match cs.getLast? with
  | some ']' =>
    match ipv6? cs.dropLast with
    | some pieces => .ok (.ipv6 pieces)
    | none => .error .invalidIpv6
  | _ => .error .invalidIpv6

/-- The characters that no host has. -/
def isForbidden (c : Char) : Bool :=
  "\x00\t\n\r #/:<>?@[\\]^|".toList.contains c

/-- The host of an address whose scheme is not special. -/
def ofPlainText (cs : List Char) : Except Fault Host :=
  match cs with
  | '[' :: rest => bracketed rest
  | cs =>
    if cs.any isForbidden then .error .invalidHostCharacter
    else .ok (.domain (escape .controls cs))

/-- The host of an address whose scheme is special. -/
def ofText (cs : List Char) : Except Fault Host :=
  match cs with
  | '[' :: rest => bracketed rest
  | cs =>
    match Domain.toAscii? (unescape (Text.bytes (String.ofList cs))) with
    | none => .error .invalidDomain
    | some "" => .error .emptyHost
    | some name =>
      if endsInNumber name.toList then
        match ipv4? name.toList with
        | some n => .ok (.ipv4 n)
        | none => .error .invalidIpv4
      else .ok (.domain name)

end Host

end BearerCache.Url
