import BearerCache.Cache.Machine
import BearerCache.Clock

/-! # Sessions

A cache at work, with its clock and its source of tokens.  A session carries out calls: it
takes the readings of the clock, starts fetches and lets them end, and so runs the machine of
the cache by one action after the other.

A look-up by itself runs to its end.  Look-ups of a batch take turns, in their order, until
all have ended.  In its turn a look-up goes on until it has to wait: at its gate, while another
one is behind it, or for its fetch to end.  If one breaks off, so does the batch, and the
look-ups that are still under way are given up. -/

namespace BearerCache.Cache

/-- A fetch under way. -/
structure Flight where
  /-- The number of the look-up that waits for it. -/
  number : Nat
  call : FetchCall

/-- A cache at work. -/
structure Session (σ : Type) where
  fetcher : Fetcher σ
  rules : Rules
  state : State
  clock : Clock
  /-- What the source of tokens keeps between fetches. -/
  source : σ
  flights : List Flight
  log : List LogEntry

namespace Session

variable {σ : Type}

/-- The session of an empty cache. -/
def start (fetcher : Fetcher σ) (source : σ) (margin : Span) (clock : Clock) : Session σ where
  fetcher := fetcher
  rules := .ofFetcher fetcher margin
  state := .initial
  clock := clock
  source := source
  flights := []
  log := []

/-! ## Actions -/

/-- Reads the clock. -/
def readClock (session : Session σ) : Instant × Session σ :=
  let (now, clock) := session.clock.read
  (now, { session with clock := clock })

/-- Does what an action says, if it is possible. -/
def act? (session : Session σ) (action : Action) : Option (Reply × Session σ) :=
  (step session.rules session.state action).map fun transition =>
    (transition.event.reply,
      { session with state := transition.state, log := session.log ++ transition.log })

/-- Does what an action says; nothing if it is not possible. -/
def act (session : Session σ) (action : Action) : Reply × Session σ :=
  (session.act? action).getD (.pending, session)

/-- A call does its next step, unless it has to wait. -/
def goOn? (session : Session σ) (call : Call) : Option (Reply × Session σ) :=
  if call.stage.readsClock then
    let (now, session) := session.readClock
    session.act? (.read call.number now)
  else session.act? (.proceed call.number)

/-- A call does its next steps until it is over or has to wait, at most so many. -/
def stepsOf (session : Session σ) (number : Nat) : Nat → Reply × Session σ
  | 0 => (.pending, session)
  | count + 1 =>
    match (session.state.find? number).bind session.goOn? with
    | none => (.pending, session)
    | some (.pending, session) => session.stepsOf number count
    | some finished => finished

/-- A call goes on until it is over or has to wait. -/
def resume (session : Session σ) (number : Nat) : Reply × Session σ :=
  match session.state.find? number with
  | none => (.pending, session)
  | some call => session.stepsOf number call.stage.stepsLeft

/-- The flights of all look-ups but one. -/
def otherFlights (session : Session σ) (number : Nat) : List Flight :=
  session.flights.filter (·.number != number)

/-- Gives a look-up up. -/
def abandon (session : Session σ) (number : Nat) : Session σ :=
  let session := { session with flights := session.otherFlights number }
  ((session.act (.abandon number)).2.resume number).2

/-- A fetch ends after its latency, and the look-up that waits for it goes on.  It breaks off
if the latency leads out of the calendar. -/
def land (session : Session σ) (flight : Flight) : Reply × Session σ :=
  let (outcome, clock) :=
    match session.clock.advance? flight.call.latency with
    | some clock => (flight.call.outcome, clock)
    | none => (.broken, session.clock)
  let landed :=
    { session with clock := clock, flights := session.otherFlights flight.number }
  (landed.act (.answer flight.number outcome)).2.resume flight.number

/-- A flight waits once, or lands if it need not wait any more. -/
def wait (session : Session σ) (flight : Flight) : Reply × Session σ :=
  match flight.call.waits with
  | 0 => session.land flight
  | waits + 1 =>
    let flight := { flight with call := { flight.call with waits := waits } }
    (.pending, { session with flights := session.otherFlights flight.number ++ [flight] })

/-- Starts the fetch that a look-up has asked for. -/
def takeOff (session : Session σ) (call : Call) : Reply × Session σ :=
  let (now, session) := session.readClock
  let (fetch, source) := session.fetcher.call call.request now session.source
  { session with source := source }.wait ⟨call.number, fetch⟩

/-- A look-up takes its turn. -/
def turn (session : Session σ) (number : Nat) : Reply × Session σ :=
  match session.flights.find? (·.number == number) with
  | some flight => session.wait flight
  | none =>
    match session.resume number with
    | (.pending, session) =>
      match (session.state.find? number).filter (·.stage.isFetching) with
      | some call => session.takeOff call
      | none => (.pending, session)
    | finished => finished

/-- A look-up begins and takes its first turn. -/
def launch (session : Session σ) (request : TokenRequest) : Reply × Session σ :=
  (session.act (.lookUp request)).2.turn session.state.begun

/-! ## Calls -/

/-- The lease of a request, fetched if there is no fresh one. -/
def get (session : Session σ) (request : TokenRequest) : Reply × Session σ :=
  let number := session.state.begun
  match session.launch request with
  | (.pending, session) =>
    match session.flights.find? (·.number == number) with
    | some flight => session.land flight
    | none => (.pending, session.abandon number)
  | finished => finished

/-- The lease that is kept for a request, fresh or not. -/
def peek (session : Session σ) (request : TokenRequest) : Reply :=
  (session.act (.peek request)).1

/-- Takes the lease of a request away, so that the next look-up has to fetch. -/
def invalidate (session : Session σ) (request : TokenRequest) : Reply × Session σ :=
  (session.act (.invalidate request)).2.resume session.state.begun

/-- The number of leases that are kept, fresh or not. -/
def size (session : Session σ) : Nat :=
  session.state.store.size

/-- A cache as it is shown in the description of a value. -/
def describe (session : Session σ) : String :=
  Text.described "CredentialCache"
    [("entries", toString session.size), ("safety_margin", session.rules.margin.describe)]

/-- Puts the clock to an instant. -/
def setClock (session : Session σ) (now : Instant) : Session σ :=
  { session with clock := session.clock.set now }

/-- Moves the clock by a span, if that does not lead out of the calendar. -/
def advanceClock? (session : Session σ) (span : Span) : Option (Session σ) :=
  (session.clock.advance? span).map fun clock => { session with clock := clock }

/-- Someone else puts a lease into the store of the cache, under the key of a request as it
stands. -/
def keep (session : Session σ) (request : TokenRequest) (lease : Lease) : Session σ :=
  { session with
    state := { session.state with store := session.state.store.save request.key lease } }

/-! ## Batches -/

/-- A look-up of a batch. -/
inductive Place where
  | underWay (number : Nat)
  | ended (result : Except Failure Lease)

/-- The result of a look-up that has ended. -/
def Place.result? : Place → Option (Except Failure Lease)
  | .underWay _ => none
  | .ended result => some result

/-- What a turn leads to; nothing if the look-up broke off. -/
def Place.ofReply (number : Nat) : Reply → Option Place
  | .ended result => some (.ended result)
  | .broken => none
  | _ => some (.underWay number)

/-- The look-ups of a batch begin, in their order. -/
def launchAll (session : Session σ) : List TokenRequest → Option (List Place) × Session σ
  | [] => (some [], session)
  | request :: rest =>
    let number := session.state.begun
    let (reply, session) := session.launch request
    match Place.ofReply number reply with
    | none => (none, session)
    | some place =>
      let (places, session) := session.launchAll rest
      (places.map (place :: ·), session)

/-- Each look-up of a batch that has not ended takes a turn, in their order. -/
def round (session : Session σ) : List Place → Option (List Place) × Session σ
  | [] => (some [], session)
  | .ended result :: rest =>
    let (places, session) := session.round rest
    (places.map (.ended result :: ·), session)
  | .underWay number :: rest =>
    let (reply, session) := session.turn number
    match Place.ofReply number reply with
    | none => (none, session)
    | some place =>
      let (places, session) := session.round rest
      (places.map (place :: ·), session)

/-- Rounds until all look-ups of a batch have ended, at most so many. -/
def rounds (session : Session σ) (places : List Place) :
    Nat → Option (List Place) × Session σ
  | 0 => (some places, session)
  | count + 1 =>
    if places.all (·.result?.isSome) then (some places, session)
    else
      match session.round places with
      | (none, session) => (none, session)
      | (some places, session) => session.rounds places count

/-- Gives up every look-up that is under way. -/
def abandonAll (session : Session σ) : Session σ :=
  session.state.calls.foldl (fun session call => session.abandon call.number) session

/-- The leases of some requests, looked up together in at most so many rounds.  A look-up that
has not ended by then is given up and has no result; if one breaks off, none has. -/
def getAll (session : Session σ) (requests : List TokenRequest) (maxRounds : Nat) :
    Option (List (Option (Except Failure Lease))) × Session σ :=
  let (places, session) :=
    match session.launchAll requests with
    | (none, session) => (none, session)
    | (some places, session) => session.rounds places maxRounds
  (places.map (·.map Place.result?), session.abandonAll)

end Session

end BearerCache.Cache
