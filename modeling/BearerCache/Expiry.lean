import BearerCache.Json.Record
import BearerCache.Text.Base64
import BearerCache.Text.Utf8
import BearerCache.Time.Calendar

/-! # Expiry claims

A token of a client is a compact JWT: three segments divided by dots, of which the middle one
is the Base64 of a JSON object with claims.  The claim `exp` says when the token expires, in
seconds since the start of 1970.  The signature is not looked at: that is for those who are
presented with the token. -/

namespace BearerCache

/-- Why a token does not say when it expires, or why that is of no use. -/
inductive ExpiryFault where
  | notCompact
  | base64 (fault : Text.Base64.Fault)
  | claims (fault : Json.Fault)
  | missing
  | outOfRange (seconds : Int)
  | alreadyExpired (expiresAt : Instant)

/-- The wording of a fault. -/
def ExpiryFault.message : ExpiryFault → String
  | .notCompact => "Token is not a compact JWT."
  | .base64 _ => "Token payload is not valid base64url."
  | .claims _ => "Token payload is not a JSON claims object."
  | .missing => "Token claims are missing exp."
  | .outOfRange seconds => s!"The exp claim {Text.decimal seconds} is out of range."
  | .alreadyExpired expiresAt =>
    s!"Received token is already expired (exp {Calendar.textOf expiresAt})."

namespace Expiry

/-- The payload of a compact JWT, without padding. -/
def payload? (token : String) : Option (List UInt8) :=
  match token.toList.splitOn '.' with
  | [_, payload, _] =>
    if payload = [] then none
    else
      let symbols := (payload.reverse.dropWhile (· == '=')).reverse
      some (Text.bytes (String.ofList symbols))
  | _ => none

/-- Reads the claim `exp` from an object with claims; it may be absent or null. -/
def claimReader : Json.Reader (Option Json.Numeral) :=
  .record "struct ExpiryClaims"
    [.of "exp" id (fun exp _ => exp) (.option (.number "a JSON number"))]
    (none : Option (Option Json.Numeral))
    fun exp => .ok exp.join

/-- A whole number brought into the range of 64 bits. -/
def saturated (n : Int) : Int :=
  max Text.int64Min (min n Text.int64Max)

/-- The seconds that a number stands for: rounded down, and brought into the range of 64
bits. -/
def secondsOf : Json.Numeral → Int
  | .whole n => saturated n
  | .negative n => saturated (-Int.ofNat n)
  | .real isNegative x => saturated (x.floor isNegative)

/-- When a token expires. -/
def ofToken (token : String) : Except ExpiryFault Instant :=
  match payload? token with
  | none => .error .notCompact
  | some payload =>
    match Text.Base64.decode .urlSafe .forbidden payload with
    | .error fault => .error (.base64 fault)
    | .ok json =>
      match claimReader.parse json with
      | .error fault => .error (.claims fault)
      | .ok none => .error .missing
      | .ok (some exp) =>
        match Instant.ofUnix? (secondsOf exp) 0 with
        | none => .error (.outOfRange (secondsOf exp))
        | some expiresAt => .ok expiresAt

/-- When a token expires, which must be after `now`. -/
def ofLiveToken (token : String) (now : Instant) : Except ExpiryFault Instant :=
  match ofToken token with
  | .error fault => .error fault
  | .ok expiresAt =>
    if expiresAt ≤ now then .error (.alreadyExpired expiresAt) else .ok expiresAt

/-- A live token is one that says when it expires, and that is still to come. -/
theorem ofLiveToken_eq_ok_iff {token : String} {now expiresAt : Instant} :
    ofLiveToken token now = .ok expiresAt ↔ ofToken token = .ok expiresAt ∧ now < expiresAt := by
  unfold ofLiveToken
  split
  next fault hfault => simp [hfault]
  next found hfound =>
    rw [hfound]
    by_cases hle : found ≤ now
    · rw [if_pos hle]
      simp only [reduceCtorEq, Except.ok.injEq, false_iff, not_and]
      rintro rfl
      exact Int.not_lt.mpr hle
    · rw [if_neg hle]
      simp only [Except.ok.injEq, iff_self_and]
      rintro rfl
      exact Int.not_le.mp hle

end Expiry

end BearerCache
