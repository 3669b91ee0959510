import BearerCache.Cache.Session

/-! # Commands

What a session can be told from outside.  It carries each command out to its end before it is
given the next one, so no two calls overlap. -/

namespace BearerCache.Cache

/-- What a session is told to do. -/
inductive Command where
  /-- To look the lease of a request up. -/
  | get (request : TokenRequest)
  /-- To look the lease of a request up, for its token. -/
  | token (request : TokenRequest)
  /-- To show what is kept for a request, fresh or not. -/
  | peek (request : TokenRequest)
  /-- To take away what is kept for a request. -/
  | invalidate (request : TokenRequest)
  /-- To count what is kept. -/
  | size
  /-- To say whether nothing is kept. -/
  | isEmpty
  /-- To put the clock to an instant. -/
  | setClock (now : Instant)
  /-- To move the clock by a span. -/
  | advanceClock (span : Span)

/-- What a session answers to a command. -/
inductive Answer where
  | reply (reply : Reply)
  | token (token : Secret)
  | size (size : Nat)
  | isEmpty (isEmpty : Bool)
  /-- What the clock shows then. -/
  | clock (now : Instant)

/-- The answer to one who wants the token alone. -/
def Answer.ofReply : Reply → Answer
  | .ended (.ok lease) => .token lease.token
  | other => .reply other

namespace Session

variable {σ : Type}

/-- Does what it is told. -/
def obey (session : Session σ) : Command → Answer × Session σ
  | .get request =>
    let (reply, session) := session.get request
    (.reply reply, session)
  | .token request =>
    let (reply, session) := session.get request
    (.ofReply reply, session)
  | .peek request => (.reply (session.peek request), session)
  | .invalidate request =>
    let (reply, session) := session.invalidate request
    (.reply reply, session)
  | .size => (.size session.size, session)
  | .isEmpty => (.isEmpty (session.size == 0), session)
  | .setClock now =>
    let session := session.setClock now
    (.clock session.clock.now, session)
  | .advanceClock span =>
    match session.advanceClock? span with
    | some session => (.clock session.clock.now, session)
    -- A clock that would be led out of the calendar stays.
    | none => (.reply .broken, session)

/-- Does what it is told, one command after the other. -/
def obeyAll (session : Session σ) : List Command → List Answer × Session σ
  | [] => ([], session)
  | command :: rest =>
    let (answer, session) := session.obey command
    let (answers, session) := session.obeyAll rest
    (answer :: answers, session)

end Session

end BearerCache.Cache
