import BearerCache.Fetch.Basic

/-! # The scripted fetcher

A source of tokens whose replies are given beforehand, for tries of the cache without a
network.  The n-th fetch is answered by the n-th reply; past the last one each fetch yields a
token of its own, `token-` with the number of the fetch. -/

namespace BearerCache

/-- What a scripted fetch ends with. -/
inductive ScriptedEnd where
  /-- The server refuses. -/
  | refused (status : Nat) (body : String)
  /-- The body is empty. -/
  | empty
  /-- A token; the usual one of the fetch if none is given. -/
  | token (text : Option String)
  deriving DecidableEq, Repr

/-- One reply of a script. -/
structure ScriptedReply where
  /-- How often the fetch has to wait. -/
  waits : Nat
  /-- How much time the fetch takes. -/
  latency : Span
  ending : ScriptedEnd
  deriving DecidableEq

namespace ScriptedReply

/-- The reply past the end of a script. -/
def usual : ScriptedReply := ⟨0, .zero, .token none⟩

/-- The fetch that a reply answers; `number` counts the fetches from one. -/
def call (reply : ScriptedReply) (number : Nat) (kind : TokenKind) : FetchCall where
  waits := reply.waits
  latency := reply.latency
  outcome :=
    match reply.ending with
    | .refused status body => .failed (.refused kind status body)
    | .empty => .failed (.body .empty)
    | .token text => .token ⟨text.getD s!"token-{number}"⟩

end ScriptedReply

/-- A script while it is played. -/
structure Script where
  /-- The replies that have not been given. -/
  replies : List ScriptedReply
  /-- How many fetches there have been. -/
  calls : Nat
  deriving DecidableEq

namespace Script

/-- A script before its first fetch. -/
def ofReplies (replies : List ScriptedReply) : Script := ⟨replies, 0⟩

/-- The next reply and the script after it. -/
def next (script : Script) : ScriptedReply × Script :=
  (script.replies.head?.getD .usual, ⟨script.replies.tail, script.calls + 1⟩)

/-- How often fetches can have to wait from here on. -/
def waits (script : Script) : Nat :=
  script.replies.foldl (fun sum reply => sum + reply.waits) 0

end Script

/-- How a scripted fetcher treats requests. -/
structure ScriptedRules where
  /-- The environment and the lifetime that requests get where they have none; if nothing is
  given, they stay as they are. -/
  defaults : Option (String × Span)
  /-- The fixed lifetime of tokens, unless they say themselves when they expire. -/
  ttl : Option Span
  /-- Whether a lifetime that is asked for counts more than the fixed one. -/
  asksTtl : Bool
  deriving DecidableEq

namespace ScriptedRules

/-- The canonical form of a request. -/
def canonical (rules : ScriptedRules) (request : TokenRequest) : TokenRequest :=
  match rules.defaults with
  | none => request
  | some (env, ttl) => request.withDefaults env ttl

/-- How the lifetime of the token of a request is found. -/
def lifetime (rules : ScriptedRules) (request : TokenRequest) : LifetimeRule :=
  let asked := if rules.asksTtl then request.ttl? else none
  match asked <|> rules.ttl with
  | some ttl => .fixed ttl
  | none => .expiryClaim

/-- A scripted fetcher as a source of tokens. -/
def fetcher (rules : ScriptedRules) : Fetcher Script where
  canonical := rules.canonical
  rule := rules.lifetime
  call request _ script :=
    let (reply, script) := script.next
    (reply.call script.calls request.kind, script)

end ScriptedRules

end BearerCache
