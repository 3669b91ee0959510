import BearerCache.Body
import BearerCache.Expiry
import BearerCache.Request.Basic
import BearerCache.Settings.Basic

/-! # Failures

Everything that can keep a caller from the token that was asked for.  Each failure has its
wording; one that a server answered with also has the status of the answer. -/

namespace BearerCache

/-- Why there is no token. -/
inductive Failure where
  | request (fault : RequestFault)
  /-- The server refused. -/
  | refused (kind : TokenKind) (status : Nat) (body : String)
  | body (fault : BodyFault)
  | expiry (fault : ExpiryFault)
  | setup (fault : SetupFault)
  /-- There was no reply, or not a whole one. -/
  | unreachable

namespace Failure

/-- The wording of a failure. -/
def message : Failure → String
  | request fault => fault.message
  | refused kind status text =>
    s!"Failed getting {kind.label} token: HTTP {status}: {text}."
  | body fault => fault.message
  | expiry fault => fault.message
  | setup fault => fault.message
  | unreachable => "Network error occurred while calling the token endpoint."

/-- The status that a server answered with. -/
def status? : Failure → Option Nat
  | refused _ status _ => some status
  | _ => none

end Failure

end BearerCache
