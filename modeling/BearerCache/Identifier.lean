import BearerCache.Json.Record
import BearerCache.Json.Value
import BearerCache.Text.Blank

/-! # Identifiers

The names under which a client and its signing key are registered.  They go into grants as
they are, so they are never empty, hold no blank and are at most 128 characters long. -/

namespace BearerCache

/-- What an identifier names. -/
inductive Role where
  | client
  | key
  deriving DecidableEq, Repr

/-- The word for a role. -/
def Role.label : Role → String
  | .client => "Client"
  | .key => "Key"

/-- Why a text is not an identifier. -/
inductive IdentifierFault where
  | empty (role : Role)
  | blank (role : Role)
  | long (role : Role)
  deriving DecidableEq, Repr

/-- The greatest length of an identifier in characters. -/
def maxIdentifierLength : Nat := 128

/-- The wording of a fault. -/
def IdentifierFault.message : IdentifierFault → String
  | .empty role => s!"{role.label} identifier cannot be empty."
  | .blank role => s!"{role.label} identifier contains whitespace."
  | .long role => s!"{role.label} identifier exceeds {maxIdentifierLength} characters."

/-- The first thing that is wrong with a text as an identifier. -/
def identifierFault? (role : Role) (s : String) : Option IdentifierFault :=
  if s.toList = [] then some (.empty role)
  else if s.toList.any Text.isBlank then some (.blank role)
  else if maxIdentifierLength < s.toList.length then some (.long role)
  else none

/-- A registered name. -/
structure Identifier (role : Role) where
  text : String
  valid : identifierFault? role text = none
  deriving DecidableEq

namespace Identifier

variable {role : Role}

/-- The identifier that a text is. -/
def ofText (role : Role) (s : String) : Except IdentifierFault (Identifier role) :=
  match h : identifierFault? role s with
  | some fault => .error fault
  | none => .ok ⟨s, h⟩

theorem ofText_eq_ok {s : String} {i : Identifier role} (h : ofText role s = .ok i) :
    i.text = s := by
  unfold ofText at h
  split at h
  · cases h
  · cases h; rfl

/-- An identifier as it is shown in the description of a value. -/
def describe (i : Identifier role) : String :=
  Text.wrapped role.label i.text

/-- An identifier in JSON. -/
def toJson (i : Identifier role) : Json.Value :=
  .text i.text

/-- Reads an identifier from JSON. -/
def reader (role : Role) : Json.Reader (Identifier role) :=
  Json.Reader.text.refine fun s => (ofText role s).mapError IdentifierFault.message

end Identifier

end BearerCache
