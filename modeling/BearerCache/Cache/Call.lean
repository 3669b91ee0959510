import BearerCache.Cache.Store
import BearerCache.Fetch.Basic

/-! # Calls of a cache

A look-up and an invalidation are carried out in steps, and between two steps of one call
any other call may do steps of its own.  A step touches what the calls share at most once: the
clock, the store, the gates, or who is behind a gate.  The `Stage` of a call says what its next
step is and what it has found out so far.

A look-up first looks for a fresh lease.  If there is none it comes to the *gate* of its key,
which lets one look-up at a time through; behind the gate it looks again, and only then asks
for a token.  On its way out it lets go of the gate, and takes it down if nobody else holds it.

What happens is told in `Event`s. -/

namespace BearerCache.Cache

/-- How a look-up ends. -/
inductive Ending where
  | result (outcome : Except Failure Lease)
  /-- A span led out of the calendar, or the fetch broke off. -/
  | broken
  /-- It was given up while it waited. -/
  | abandoned

/-- Where a call is. -/
inductive Stage where
  /-- A look-up that is about to read the clock. -/
  | starting
  /-- It is about to look for a lease that is fresh at an instant. -/
  | looking (now : Instant)
  /-- It found none, and is about to come to the gate of its key. -/
  | arriving
  /-- It waits at the gate. -/
  | queued (gate : Nat)
  /-- It is behind the gate, about to read the clock again. -/
  | entering (gate : Nat)
  /-- It is about to look again. -/
  | checking (gate : Nat) (now : Instant)
  /-- It found nothing again, and is about to read the clock and to ask for a token. -/
  | asking (gate : Nat)
  /-- It waits for its fetch to end. -/
  | fetching (gate : Nat) (askedAt : Instant)
  /-- It has a token that says when it expires, and is about to read the clock. -/
  | judging (gate : Nat) (askedAt : Instant) (token : Secret)
  /-- It is about to store the lease of its token. -/
  | storing (gate : Nat) (lease : Lease)
  /-- It is about to come out from behind the gate. -/
  | leaving (gate : Nat) (ending : Ending)
  /-- It is about to let go of the gate. -/
  | parting (gate : Nat) (ending : Ending)
  /-- It is about to take the gate of its key down, unless someone holds it. -/
  | closing (result : Except Failure Lease)
  /-- An invalidation that is about to take the gate of its key down, unless someone holds
  it. -/
  | releasing
  /-- It is about to take the lease away. -/
  | removing

namespace Stage

/-- The gate that a call holds: it waits there, is behind it or has not let go of it yet. -/
def gate? : Stage → Option Nat
  | queued gate | entering gate | checking gate _ | asking gate | fetching gate _
  | judging gate _ _ | storing gate _ | leaving gate _ | parting gate _ => some gate
  | starting | looking _ | arriving | closing _ | releasing | removing => none

/-- Whether a call is behind its gate. -/
def isBehind : Stage → Bool
  | entering _ | checking _ _ | asking _ | fetching _ _ | judging _ _ _ | storing _ _
  | leaving _ _ => true
  | starting | looking _ | arriving | queued _ | parting _ _ | closing _ | releasing
  | removing => false

/-- Whether a fetch of the call is under way. -/
def isFetching : Stage → Bool
  | fetching _ _ => true
  | _ => false

/-- Whether the next step of a call is to read the clock. -/
def readsClock : Stage → Bool
  | starting | entering _ | asking _ | judging _ _ _ => true
  | _ => false

/-- The most steps that a call takes until it is over. -/
def stepsLeft : Stage → Nat
  | starting => 13
  | looking _ => 12
  | arriving => 11
  | queued _ => 10
  | entering _ => 9
  | checking _ _ => 8
  | asking _ => 7
  | fetching _ _ => 6
  | judging _ _ _ => 5
  | storing _ _ => 4
  | leaving _ _ => 3
  | parting _ _ => 2
  | closing _ => 1
  | releasing => 2
  | removing => 1

end Stage

/-- A call that is not over. -/
structure Call where
  number : Nat
  /-- The canonical form of the request that it is for. -/
  request : TokenRequest
  stage : Stage

/-- The key of a call. -/
def Call.key (call : Call) : EntryKey :=
  call.request.key

/-- What happens in one step.  A call is known by its number. -/
inductive Event where
  /-- A look-up begins. -/
  | began (number : Nat) (request : TokenRequest)
  /-- A call reads the clock. -/
  | read (number : Nat) (now : Instant)
  /-- A look-up passes its gate. -/
  | entered (number : Nat)
  /-- A look-up reads the clock and starts a fetch for a request. -/
  | asked (number : Nat) (request : TokenRequest) (askedAt : Instant)
  /-- The fetch of a look-up ends. -/
  | answered (number : Nat) (outcome : FetchEnd)
  /-- A look-up puts a lease under a key. -/
  | saved (number : Nat) (key : EntryKey) (lease : Lease)
  /-- A look-up is over. -/
  | ended (number : Nat) (ending : Ending)
  /-- An invalidation begins. -/
  | invalidating (number : Nat) (request : TokenRequest)
  /-- An invalidation takes away what is under a key, and is over. -/
  | removed (number : Nat) (key : EntryKey) (found : Option Lease)
  /-- The lease of a request is looked at, fresh or not. -/
  | peeked (request : TokenRequest) (found : Option Lease)
  /-- A call goes on, and nothing is to be told. -/
  | moved (number : Nat)

/-- The number of the call that an event is about. -/
def Event.number? : Event → Option Nat
  | began number _ | read number _ | entered number | asked number _ _ | answered number _
  | saved number _ _ | ended number _ | invalidating number _ | removed number _ _
  | moved number => some number
  | peeked _ _ => none

/-- The reading of the clock that an event tells of. -/
def Event.reading? : Event → Option Instant
  | read _ now | asked _ _ now => some now
  | _ => none

/-- What the caller is told. -/
inductive Reply where
  /-- The call goes on. -/
  | pending
  /-- The look-up ended with a result. -/
  | ended (result : Except Failure Lease)
  /-- The look-up broke off. -/
  | broken
  /-- The look-up was given up. -/
  | abandoned
  /-- The lease that was there. -/
  | found (lease : Option Lease)

/-- What the end of a look-up tells its caller. -/
def Ending.reply : Ending → Reply
  | .result outcome => .ended outcome
  | .broken => .broken
  | .abandoned => .abandoned

/-- What an event tells the caller. -/
def Event.reply : Event → Reply
  | ended _ ending => ending.reply
  | removed _ _ found | peeked _ found => .found found
  | _ => .pending

end BearerCache.Cache
