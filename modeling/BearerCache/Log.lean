import BearerCache.Request.Key

/-! # Log

What the cache tells about its work.  Every look-up opens a span; every outcome counts once
and makes one event.  Both name the kind of token, and an event the fingerprint of the key:
neither tokens nor option values are logged. -/

namespace BearerCache

/-- What became of a look-up. -/
inductive Outcome where
  /-- A lease was there and fresh. -/
  | hit
  /-- A token has to be fetched. -/
  | miss
  /-- A token was fetched and its lease is kept. -/
  | stored
  /-- No token could be had. -/
  | failure
  deriving DecidableEq, Repr

namespace Outcome

/-- The label of an outcome. -/
def label : Outcome → String
  | hit => "hit"
  | miss => "miss"
  | stored => "stored"
  | failure => "failure"

/-- An outcome as it is shown in the description of a value. -/
def describe : Outcome → String
  | hit => "Hit"
  | miss => "Miss"
  | stored => "Stored"
  | failure => "Failure"

/-- How much an outcome matters. -/
def level : Outcome → String
  | hit | stored => "DEBUG"
  | miss => "INFO"
  | failure => "WARN"

/-- What the event of an outcome says. -/
def sentence (outcome : Outcome) (kind : TokenKind) : String :=
  match outcome with
  | hit => "Reusing cached credential."
  | miss => s!"Fetching {kind.label} credential."
  | stored => "Cached fetched credential."
  | failure => s!"Failed getting {kind.label} credential."

end Outcome

/-- An entry of the log. -/
inductive LogEntry where
  /-- A stage of work on a request starts. -/
  | span (stage : String) (kind : TokenKind)
  /-- An outcome is counted. -/
  | count (outcome : Outcome) (kind : TokenKind)
  /-- An outcome is told, with the failure if there is one to tell. -/
  | event (outcome : Outcome) (kind : TokenKind) (fingerprint : String) (error : Option String)
  deriving DecidableEq, Repr

namespace LogEntry

/-- The entries of an outcome.  What went wrong is told only of a failure. -/
def ofOutcome (outcome : Outcome) (kind : TokenKind) (key : EntryKey) (error : Option String) :
    List LogEntry :=
  [count outcome kind,
    event outcome kind key.fingerprint (if outcome = .failure then error else none)]

/-- An entry in JSON, members in order. -/
def toJson : LogEntry → Json.Value
  | span stage kind =>
    .object
      [("fields", .object [("stage", .text stage), ("variant", .text kind.label)]),
        ("span", .text "credential_broker.fetch")]
  | count outcome kind =>
    .object
      [("by", .integer 1), ("counter", .text "credential_broker_cache_total"),
        ("labels", .object
          [("outcome", .text outcome.label), ("variant", .text kind.label)])]
  | event outcome kind fingerprint error =>
    let told : List (String × Json.Value) :=
      match error with
      | some error => [("error", .text error)]
      | none => []
    .object
      [("fields", .object
          (told ++ [("key", .text fingerprint), ("variant", .text kind.label)])),
        ("level", .text outcome.level), ("message", .text (outcome.sentence kind))]

end LogEntry

end BearerCache
