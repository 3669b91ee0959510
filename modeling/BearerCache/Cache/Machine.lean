import BearerCache.Cache.Call
import BearerCache.Log

/-! # The cache as a machine

What happens to a cache while any number of calls are under way.  `step` says what an `Action`
does and whether it is possible; a run of the cache is a list of actions, in any order that
`step` allows.

`Call.read`, `Call.proceed`, `Call.answer` and `Call.abandon` say what a step of one call comes
to, given what it sees of the state, and `State.advance` carries that out.  So a step changes one
call, and beyond it only what its `Effect` names.

Instants that an action carries are readings of the clock. -/

namespace BearerCache.Cache

/-- What a cache goes by. -/
structure Rules where
  canonical : TokenRequest → TokenRequest
  lifetime : TokenRequest → LifetimeRule
  /-- How long before it expires a lease is not fresh any more. -/
  margin : Span

/-- The margin unless another is set, ten seconds. -/
def usualMargin : Span := ⟨10000000000, by decide⟩

/-- The rules for a fetcher.  A negative margin is none. -/
def Rules.ofFetcher {σ : Type} (fetcher : Fetcher σ) (margin : Span) : Rules :=
  ⟨fetcher.canonical, fetcher.rule, margin.clamped⟩

/-- The state of a cache. -/
structure State where
  store : Store
  /-- The gates that are up, under the texts of their keys. -/
  gates : NameMap Nat
  /-- The next gate that is put up gets this number. -/
  nextGate : Nat
  /-- The calls that are not over. -/
  calls : List Call
  /-- How many calls have begun; the next one gets this number. -/
  begun : Nat

/-- The state of a cache before anything happens. -/
def State.initial : State := ⟨.empty, .empty, 0, [], 0⟩

/-- What happens to a cache. -/
inductive Action where
  /-- A look-up begins. -/
  | lookUp (request : TokenRequest)
  /-- An invalidation begins. -/
  | invalidate (request : TokenRequest)
  /-- The lease of a request is looked at, fresh or not. -/
  | peek (request : TokenRequest)
  /-- A call reads the clock. -/
  | read (number : Nat) (now : Instant)
  /-- A call does its next step, which is not to read the clock. -/
  | proceed (number : Nat)
  /-- The fetch of a look-up ends. -/
  | answer (number : Nat) (outcome : FetchEnd)
  /-- A look-up that waits is given up. -/
  | abandon (number : Nat)

namespace State

/-! ## Calls -/

/-- The call with a number. -/
def find? (state : State) (number : Nat) : Option Call :=
  state.calls.find? (·.number == number)

/-- The state without a call. -/
def drop (state : State) (number : Nat) : State :=
  { state with calls := state.calls.filter (·.number != number) }

/-- The state with a call, in place of the one that had its number. -/
def put (state : State) (call : Call) : State :=
  { state with calls := state.calls.filter (·.number != call.number) ++ [call] }

/-- Whether a call is behind a gate. -/
def isTaken (state : State) (gate : Nat) : Bool :=
  state.calls.any fun call => call.stage.gate? == some gate && call.stage.isBehind

/-- Whether a call holds a gate. -/
def isHeld (state : State) (gate : Nat) : Bool :=
  state.calls.any fun call => call.stage.gate? == some gate

/-! ## Gates and leases -/

/-- The gate of a key: the one that is up, or else the one that will be put up. -/
def gateOf (state : State) (key : EntryKey) : Nat :=
  (state.gates.get? key.text).getD state.nextGate

/-- Puts up the gate of a key, if it is not. -/
def raiseGate (state : State) (key : EntryKey) : State :=
  match state.gates.get? key.text with
  | some _ => state
  | none =>
    { state with
      gates := state.gates.insert key.text state.nextGate
      nextGate := state.nextGate + 1 }

/-- Takes the gate of a key down unless someone holds it. -/
def releaseGate (state : State) (key : EntryKey) : State :=
  match state.gates.get? key.text with
  | some gate =>
    if state.isHeld gate then state else { state with gates := state.gates.erase key.text }
  | none => state

/-- The fresh lease under a key, if there is one; no answer at all if the margin leads out of
the calendar. -/
def freshLease? (state : State) (key : EntryKey) (margin : Span) (now : Instant) :
    Option (Option Lease) :=
  match state.store.fetch? key with
  | none => some none
  | some lease =>
    (lease.isFreshAt? now margin).map fun isFresh => if isFresh then some lease else none

end State

/-! ## Steps of a call -/

/-- What a step of a call changes beyond the call. -/
inductive Effect where
  | nothing
  /-- The gate of its key is put up, if it is not. -/
  | raisesGate
  /-- The gate of its key is taken down, unless someone holds it. -/
  | releasesGate
  /-- A lease is put under its key. -/
  | saves (lease : Lease)
  /-- The lease under its key is taken away. -/
  | removes

/-- What a step of a call comes to. -/
structure Progress where
  /-- Where the call is now; nowhere if it is over. -/
  stage : Option Stage
  effect : Effect
  event : Event
  log : List LogEntry

/-- A step of a call that changes nothing else and of which nothing is told. -/
def Progress.quiet (call : Call) (stage : Stage) : Progress :=
  ⟨some stage, .nothing, .moved call.number, []⟩

/-- The log of an outcome of a request. -/
def outcomeLog (outcome : Outcome) (request : TokenRequest) (error : Option Failure) :
    List LogEntry :=
  LogEntry.ofOutcome outcome request.kind request.key (error.map Failure.message)

namespace Call

/-- A look-up behind its gate comes out with a failure. -/
def fail (call : Call) (gate : Nat) (failure : Failure) (event : Event) : Progress :=
  ⟨some (.leaving gate (.result (.error failure))), .nothing, event,
    outcomeLog .failure call.request (some failure)⟩

/-- A call reads the clock. -/
def read (call : Call) (now : Instant) : Option Progress :=
  let isRead (stage : Stage) : Progress := ⟨some stage, .nothing, .read call.number now, []⟩
  match call.stage with
  | .starting => some (isRead (.looking now))
  | .entering gate => some (isRead (.checking gate now))
  | .asking gate =>
    some ⟨some (.fetching gate now), .nothing, .asked call.number call.request now, []⟩
  | .judging gate askedAt token =>
    match Expiry.ofLiveToken token.expose now with
    | .ok expiresAt => some (isRead (.storing gate ⟨token, askedAt, expiresAt⟩))
    | .error fault => some (call.fail gate (.expiry fault) (.read call.number now))
  | _ => none

/-- A call does its next step, which is not to read the clock.  A look-up at a gate waits while
someone is behind it. -/
def proceed (rules : Rules) (state : State) (call : Call) : Option Progress :=
  match call.stage with
  | .looking now =>
    match state.freshLease? call.key rules.margin now with
    | none => some ⟨none, .nothing, .ended call.number .broken, []⟩
    | some (some lease) =>
      some ⟨none, .nothing, .ended call.number (.result (.ok lease)),
        outcomeLog .hit call.request none⟩
    | some none => some (.quiet call .arriving)
  | .arriving =>
    some ⟨some (.queued (state.gateOf call.key)), .raisesGate, .moved call.number, []⟩
  | .queued gate =>
    if state.isTaken gate then none
    else some ⟨some (.entering gate), .nothing, .entered call.number, []⟩
  | .checking gate now =>
    -- While the look-up waited another one may have saved a lease.
    match state.freshLease? call.key rules.margin now with
    | none => some (.quiet call (.leaving gate .broken))
    | some (some lease) =>
      some ⟨some (.leaving gate (.result (.ok lease))), .nothing, .moved call.number,
        outcomeLog .hit call.request none⟩
    | some none =>
      some ⟨some (.asking gate), .nothing, .moved call.number,
        outcomeLog .miss call.request none⟩
  | .storing gate lease =>
    some ⟨some (.leaving gate (.result (.ok lease))), .saves lease,
      .saved call.number call.key lease, outcomeLog .stored call.request none⟩
  | .leaving gate ending => some (.quiet call (.parting gate ending))
  | .parting _ (.result result) => some (.quiet call (.closing result))
  -- A look-up that broke off or was given up leaves its gate up.
  | .parting _ ending => some ⟨none, .nothing, .ended call.number ending, []⟩
  | .closing result => some ⟨none, .releasesGate, .ended call.number (.result result), []⟩
  | .releasing => some ⟨some .removing, .releasesGate, .moved call.number, []⟩
  | .removing =>
    some ⟨none, .removes, .removed call.number call.key (state.store.fetch? call.key), []⟩
  | _ => none

/-- The fetch of a look-up ends. -/
def answer (rules : Rules) (call : Call) (outcome : FetchEnd) : Option Progress :=
  let event := Event.answered call.number outcome
  match call.stage with
  | .fetching gate askedAt =>
    match outcome with
    | .broken => some ⟨some (.leaving gate .broken), .nothing, event, []⟩
    | .failed failure => some (call.fail gate failure event)
    | .token token =>
      match rules.lifetime call.request with
      | .expiryClaim => some ⟨some (.judging gate askedAt token), .nothing, event, []⟩
      | .fixed ttl =>
        -- The lifetime counts from the asking, not from the answer.
        match askedAt.add? ttl with
        | none => some ⟨some (.leaving gate .broken), .nothing, event, []⟩
        | some expiresAt =>
          some ⟨some (.storing gate ⟨token, askedAt, expiresAt⟩), .nothing, event, []⟩
  | _ => none

/-- A look-up is given up, which can happen before its first step and while it waits. -/
def abandon (call : Call) : Option Progress :=
  match call.stage with
  | .starting => some ⟨none, .nothing, .ended call.number .abandoned, []⟩
  | .queued gate => some (.quiet call (.parting gate .abandoned))
  | .fetching gate _ => some (.quiet call (.leaving gate .abandoned))
  | _ => none

end Call

/-! ## Steps of the cache -/

namespace State

/-- Carries out what a step of a call of some key changes beyond the call. -/
def apply (state : State) (key : EntryKey) : Effect → State
  | .nothing => state
  | .raisesGate => state.raiseGate key
  | .releasesGate => state.releaseGate key
  | .saves lease => { state with store := state.store.save key lease }
  | .removes => { state with store := state.store.remove key }

/-- Carries out a step of a call. -/
def advance (state : State) (call : Call) (progress : Progress) : State :=
  match progress.stage with
  | some stage => (state.apply call.key progress.effect).put { call with stage := stage }
  | none => (state.apply call.key progress.effect).drop call.number

/-- A call begins. -/
def begin (state : State) (request : TokenRequest) (stage : Stage) : State :=
  { state.put ⟨state.begun, request, stage⟩ with begun := state.begun + 1 }

end State

/-! ## What the operations do to the parts of a state -/

namespace State

variable {state : State} {call other : Call} {number : Nat} {key : EntryKey} {effect : Effect}

@[simp] theorem mem_calls_drop :
    other ∈ (state.drop number).calls ↔ other ∈ state.calls ∧ other.number ≠ number := by
  simp [drop]

@[simp] theorem mem_calls_put :
    other ∈ (state.put call).calls ↔
      (other ∈ state.calls ∧ other.number ≠ call.number) ∨ other = call := by
  simp [put]

theorem isTaken_eq_false_iff {gate : Nat} :
    state.isTaken gate = false ↔
      ∀ call ∈ state.calls, call.stage.gate? = some gate → call.stage.isBehind = false := by
  simp [isTaken]

theorem isHeld_eq_false_iff {gate : Nat} :
    state.isHeld gate = false ↔ ∀ call ∈ state.calls, call.stage.gate? ≠ some gate := by
  simp [isHeld]

@[simp] theorem calls_raiseGate : (state.raiseGate key).calls = state.calls := by
  unfold raiseGate
  split <;> rfl

@[simp] theorem calls_releaseGate : (state.releaseGate key).calls = state.calls := by
  unfold releaseGate
  split
  · split <;> rfl
  · rfl

@[simp] theorem store_raiseGate : (state.raiseGate key).store = state.store := by
  unfold raiseGate
  split <;> rfl

@[simp] theorem store_releaseGate : (state.releaseGate key).store = state.store := by
  unfold releaseGate
  split
  · split <;> rfl
  · rfl

@[simp] theorem begun_raiseGate : (state.raiseGate key).begun = state.begun := by
  unfold raiseGate
  split <;> rfl

@[simp] theorem begun_releaseGate : (state.releaseGate key).begun = state.begun := by
  unfold releaseGate
  split
  · split <;> rfl
  · rfl

/-- Putting a gate up changes no gate that is up. -/
theorem get?_gates_raiseGate (name : String) :
    (state.raiseGate key).gates.get? name =
      if name = key.text then some (state.gateOf key) else state.gates.get? name := by
  unfold raiseGate gateOf
  split
  next gate hgate =>
    split
    next hname => simp [hname, hgate]
    next => rfl
  next hgate => simp [NameMap.get?_insert, hgate]

variable {lease : Lease} {margin : Span} {now : Instant}

/-- A lease that is found fresh is in the store, and is. -/
theorem freshLease?_eq_some_some_iff :
    state.freshLease? key margin now = some (some lease) ↔
      state.store.fetch? key = some lease ∧ lease.isFreshAt? now margin = some true := by
  unfold freshLease?
  split
  next hfound => simp [hfound]
  next found hfound =>
    rw [hfound, Option.map_eq_some_iff]
    constructor
    · rintro ⟨isFresh, hfresh, hlease⟩
      cases isFresh with
      | false => cases hlease
      | true => exact Option.some.inj hlease ▸ ⟨rfl, hfresh⟩
    · rintro ⟨hlease, hfresh⟩
      exact ⟨true, Option.some.inj hlease ▸ hfresh, hlease⟩

/-- If none is found, what is in the store is not fresh. -/
theorem isFreshAt?_of_freshLease?_eq_some_none
    (h : state.freshLease? key margin now = some none)
    (hlease : state.store.fetch? key = some lease) :
    lease.isFreshAt? now margin = some false := by
  simp only [freshLease?, hlease, Option.map_eq_some_iff] at h
  obtain ⟨isFresh, hfresh, hnone⟩ := h
  cases isFresh with
  | false => exact hfresh
  | true => cases hnone

variable {request : TokenRequest} {stage : Stage} {progress : Progress}

@[simp] theorem calls_apply : (state.apply key effect).calls = state.calls := by
  cases effect <;> simp [apply]

@[simp] theorem begun_apply : (state.apply key effect).begun = state.begun := by
  cases effect <;> simp [apply]

@[simp] theorem mem_calls_begin :
    other ∈ (state.begin request stage).calls ↔
      (other ∈ state.calls ∧ other.number ≠ state.begun) ∨
        other = ⟨state.begun, request, stage⟩ :=
  mem_calls_put

@[simp] theorem mem_calls_advance :
    other ∈ (state.advance call progress).calls ↔
      (other ∈ state.calls ∧ other.number ≠ call.number) ∨
        ∃ stage, progress.stage = some stage ∧ other = { call with stage := stage } := by
  unfold advance
  split
  next stage hstage => simp [hstage]
  next hstage => simp [hstage]

@[simp] theorem store_advance :
    (state.advance call progress).store = (state.apply call.key progress.effect).store := by
  unfold advance
  split <;> rfl

@[simp] theorem gates_advance :
    (state.advance call progress).gates = (state.apply call.key progress.effect).gates := by
  unfold advance
  split <;> rfl

@[simp] theorem begun_advance : (state.advance call progress).begun = state.begun := by
  unfold advance
  split
  · exact begun_apply
  · exact begun_apply

end State

/-- What an action leads to. -/
structure Transition where
  state : State
  event : Event
  log : List LogEntry

/-- A step of the call with a number. -/
def stepCall (state : State) (number : Nat) (next : Call → Option Progress) :
    Option Transition :=
  (state.find? number).bind fun call =>
    (next call).map fun progress => ⟨state.advance call progress, progress.event, progress.log⟩

/-- What an action does; nothing if it is not possible. -/
def step (rules : Rules) (state : State) : Action → Option Transition
  | .lookUp request =>
    let canonical := rules.canonical request
    some ⟨state.begin canonical .starting, .began state.begun request,
      [.span "get" canonical.kind]⟩
  | .invalidate request =>
    some ⟨state.begin (rules.canonical request) .releasing,
      .invalidating state.begun request, []⟩
  | .peek request =>
    some ⟨state, .peeked request (state.store.fetch? (rules.canonical request).key), []⟩
  | .read number now => stepCall state number fun call => call.read now
  | .proceed number => stepCall state number fun call => call.proceed rules state
  | .answer number outcome => stepCall state number fun call => call.answer rules outcome
  | .abandon number => stepCall state number fun call => call.abandon

end BearerCache.Cache
