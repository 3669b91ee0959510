import BearerCache.Cache.Transcript

/-! # What a step can do

`CallStep` lists the steps of a call, `Happens` the steps of the cache, with everything that is
known when they are done; `Takes` is `Happens` with the log.  `happens_of_step` says that there are
no others, so whatever is to hold in every state is shown by cases of these and never by opening
`step` again; `Reaches.invariant` is the induction over a history that goes with them.

## Key results

- `takes_of_step`, `happens_of_step`: every step of the machine is one of the listed ones
- `Reaches.invariant`, `ReachesShared.invariant`: what holds at the start and is kept by every step
  holds always
- `Reaches.forall_calls`, `ReachesShared.forall_calls`: what holds of a call when it begins, and is
  kept by its steps and by those of others, holds of every call
- `Reaches.last`: a history that ends with an event ends with a step
- `Reaches.split`, `ReachesShared.split`: every event of a history is that of a step from a state
  after a history
-/

namespace BearerCache.Cache

/-- The steps of a call at some stage. -/
inductive CallStep (rules : Rules) (state : State) (call : Call) : Stage → Progress → Prop where
  | readFirst (now : Instant) :
    CallStep rules state call .starting
      ⟨some (.looking now), .nothing, .read call.number now, []⟩
  | lookBroken {now : Instant} (hfresh : state.freshLease? call.key rules.margin now = none) :
    CallStep rules state call (.looking now) ⟨none, .nothing, .ended call.number .broken, []⟩
  | lookHit {now : Instant} {lease : Lease}
      (hfresh : state.freshLease? call.key rules.margin now = some (some lease)) :
    CallStep rules state call (.looking now)
      ⟨none, .nothing, .ended call.number (.result (.ok lease)),
        outcomeLog .hit call.request none⟩
  | lookMiss {now : Instant}
      (hfresh : state.freshLease? call.key rules.margin now = some none) :
    CallStep rules state call (.looking now) (.quiet call .arriving)
  | arrive :
    CallStep rules state call .arriving
      ⟨some (.queued (state.gateOf call.key)), .raisesGate, .moved call.number, []⟩
  | enter {gate : Nat} (hfree : state.isTaken gate = false) :
    CallStep rules state call (.queued gate)
      ⟨some (.entering gate), .nothing, .entered call.number, []⟩
  | readAgain {gate : Nat} (now : Instant) :
    CallStep rules state call (.entering gate)
      ⟨some (.checking gate now), .nothing, .read call.number now, []⟩
  | checkBroken {gate : Nat} {now : Instant}
      (hfresh : state.freshLease? call.key rules.margin now = none) :
    CallStep rules state call (.checking gate now) (.quiet call (.leaving gate .broken))
  | checkHit {gate : Nat} {now : Instant} {lease : Lease}
      (hfresh : state.freshLease? call.key rules.margin now = some (some lease)) :
    CallStep rules state call (.checking gate now)
      ⟨some (.leaving gate (.result (.ok lease))), .nothing, .moved call.number,
        outcomeLog .hit call.request none⟩
  | checkMiss {gate : Nat} {now : Instant}
      (hfresh : state.freshLease? call.key rules.margin now = some none) :
    CallStep rules state call (.checking gate now)
      ⟨some (.asking gate), .nothing, .moved call.number, outcomeLog .miss call.request none⟩
  | ask {gate : Nat} (now : Instant) :
    CallStep rules state call (.asking gate)
      ⟨some (.fetching gate now), .nothing, .asked call.number call.request now, []⟩
  | answerBroken {gate : Nat} {askedAt : Instant} :
    CallStep rules state call (.fetching gate askedAt)
      ⟨some (.leaving gate .broken), .nothing, .answered call.number .broken, []⟩
  | answerFailed {gate : Nat} {askedAt : Instant} (failure : Failure) :
    CallStep rules state call (.fetching gate askedAt)
      (call.fail gate failure (.answered call.number (.failed failure)))
  | answerOverflow {gate : Nat} {askedAt : Instant} (token : Secret) {ttl : Span}
      (hrule : rules.lifetime call.request = .fixed ttl) (hsum : askedAt.add? ttl = none) :
    CallStep rules state call (.fetching gate askedAt)
      ⟨some (.leaving gate .broken), .nothing, .answered call.number (.token token), []⟩
  | answerFixed {gate : Nat} {askedAt expiresAt : Instant} (token : Secret) {ttl : Span}
      (hrule : rules.lifetime call.request = .fixed ttl)
      (hsum : askedAt.add? ttl = some expiresAt) :
    CallStep rules state call (.fetching gate askedAt)
      ⟨some (.storing gate ⟨token, askedAt, expiresAt⟩), .nothing,
        .answered call.number (.token token), []⟩
  | answerClaim {gate : Nat} {askedAt : Instant} (token : Secret)
      (hrule : rules.lifetime call.request = .expiryClaim) :
    CallStep rules state call (.fetching gate askedAt)
      ⟨some (.judging gate askedAt token), .nothing, .answered call.number (.token token), []⟩
  | judgeLive {gate : Nat} {askedAt expiresAt : Instant} {token : Secret} (now : Instant)
      (hlive : Expiry.ofLiveToken token.expose now = .ok expiresAt) :
    CallStep rules state call (.judging gate askedAt token)
      ⟨some (.storing gate ⟨token, askedAt, expiresAt⟩), .nothing, .read call.number now, []⟩
  | judgeDead {gate : Nat} {askedAt : Instant} {token : Secret} {fault : ExpiryFault}
      (now : Instant) (hdead : Expiry.ofLiveToken token.expose now = .error fault) :
    CallStep rules state call (.judging gate askedAt token)
      (call.fail gate (.expiry fault) (.read call.number now))
  | save {gate : Nat} {lease : Lease} :
    CallStep rules state call (.storing gate lease)
      ⟨some (.leaving gate (.result (.ok lease))), .saves lease,
        .saved call.number call.key lease, outcomeLog .stored call.request none⟩
  | leave {gate : Nat} {ending : Ending} :
    CallStep rules state call (.leaving gate ending) (.quiet call (.parting gate ending))
  | part {gate : Nat} {result : Except Failure Lease} :
    CallStep rules state call (.parting gate (.result result)) (.quiet call (.closing result))
  | partBroken {gate : Nat} :
    CallStep rules state call (.parting gate .broken)
      ⟨none, .nothing, .ended call.number .broken, []⟩
  | partAbandoned {gate : Nat} :
    CallStep rules state call (.parting gate .abandoned)
      ⟨none, .nothing, .ended call.number .abandoned, []⟩
  | close {result : Except Failure Lease} :
    CallStep rules state call (.closing result)
      ⟨none, .releasesGate, .ended call.number (.result result), []⟩
  | release :
    CallStep rules state call .releasing
      ⟨some .removing, .releasesGate, .moved call.number, []⟩
  | remove :
    CallStep rules state call .removing
      ⟨none, .removes,
        .removed call.number call.key (state.store.fetch? call.key), []⟩
  | abandonFirst :
    CallStep rules state call .starting
      ⟨none, .nothing, .ended call.number .abandoned, []⟩
  | abandonQueued {gate : Nat} :
    CallStep rules state call (.queued gate) (.quiet call (.parting gate .abandoned))
  | abandonFetching {gate : Nat} {askedAt : Instant} :
    CallStep rules state call (.fetching gate askedAt)
      (.quiet call (.leaving gate .abandoned))

/-- The steps of a cache: a call begins, a lease is looked at, or a call goes on. -/
inductive Happens (rules : Rules) (state : State) : Event → State → Prop where
  | lookUp (request : TokenRequest) :
    Happens rules state (.began state.begun request)
      (state.begin (rules.canonical request) .starting)
  | invalidate (request : TokenRequest) :
    Happens rules state (.invalidating state.begun request)
      (state.begin (rules.canonical request) .releasing)
  | peek (request : TokenRequest) :
    Happens rules state
      (.peeked request (state.store.fetch? (rules.canonical request).key)) state
  | goOn {call : Call} {progress : Progress} (hcall : call ∈ state.calls)
      (hstep : CallStep rules state call call.stage progress) :
    Happens rules state progress.event (state.advance call progress)

/-- The steps of a cache with what they log.  A look-up logs that it begins, and a call whatever it
does in a step. -/
inductive Takes (rules : Rules) (state : State) : Told → State → Prop where
  | lookUp (request : TokenRequest) :
    Takes rules state
      ⟨.began state.begun request, [.span "get" (rules.canonical request).kind]⟩
      (state.begin (rules.canonical request) .starting)
  | invalidate (request : TokenRequest) :
    Takes rules state ⟨.invalidating state.begun request, []⟩
      (state.begin (rules.canonical request) .releasing)
  | peek (request : TokenRequest) :
    Takes rules state
      ⟨.peeked request (state.store.fetch? (rules.canonical request).key), []⟩ state
  | goOn {call : Call} {progress : Progress} (hcall : call ∈ state.calls)
      (hstep : CallStep rules state call call.stage progress) :
    Takes rules state ⟨progress.event, progress.log⟩ (state.advance call progress)

/-- A step with what it logs is a step. -/
theorem Takes.happens {rules : Rules} {state state' : State} {entry : Told}
    (h : Takes rules state entry state') : Happens rules state entry.event state' := by
  cases h with
  | lookUp request => exact .lookUp request
  | invalidate request => exact .invalidate request
  | peek request => exact .peek request
  | goOn hcall hstep => exact .goOn hcall hstep

/-- The event of a step is about the call that makes it. -/
theorem CallStep.number? {rules : Rules} {state : State} {call : Call} {stage : Stage}
    {progress : Progress} (h : CallStep rules state call stage progress) :
    progress.event.number? = some call.number := by
  cases h <;> rfl

/-! ## There are no other steps -/

variable {rules : Rules} {state : State} {call : Call} {progress : Progress}

/-- To read the clock is a step of a call. -/
theorem callStep_of_read {now : Instant} (h : call.read now = some progress) :
    CallStep rules state call call.stage progress := by
  obtain ⟨number, request, stage⟩ := call
  cases stage <;> simp only [Call.read, Option.some.injEq, reduceCtorEq] at h
  case starting => exact h ▸ .readFirst now
  case entering gate => exact h ▸ .readAgain now
  case asking gate => exact h ▸ .ask now
  case judging gate askedAt token =>
    split at h
    next expiresAt hlive => exact Option.some.inj h ▸ .judgeLive now hlive
    next fault hdead => exact Option.some.inj h ▸ .judgeDead now hdead

/-- To do its next step, without reading the clock, is a step of a call. -/
theorem callStep_of_proceed (h : call.proceed rules state = some progress) :
    CallStep rules state call call.stage progress := by
  obtain ⟨number, request, stage⟩ := call
  -- At the other stages a call has nothing to do by itself.
  cases stage <;> simp only [Call.proceed, Option.some.injEq, reduceCtorEq] at h
  case looking now =>
    split at h
    next hfresh => exact Option.some.inj h ▸ .lookBroken hfresh
    next lease hfresh => exact Option.some.inj h ▸ .lookHit hfresh
    next hfresh => exact Option.some.inj h ▸ .lookMiss hfresh
  case arriving => exact h ▸ .arrive
  case queued gate =>
    split at h
    next => cases h  -- it waits while someone is behind the gate
    next hfree => exact Option.some.inj h ▸ .enter (Bool.eq_false_iff.mpr hfree)
  case checking gate now =>
    split at h
    next hfresh => exact Option.some.inj h ▸ .checkBroken hfresh
    next lease hfresh => exact Option.some.inj h ▸ .checkHit hfresh
    next hfresh => exact Option.some.inj h ▸ .checkMiss hfresh
  case storing gate lease => exact h ▸ .save
  case leaving gate ending => exact h ▸ .leave
  case parting gate ending =>
    cases ending <;> simp only [Option.some.injEq] at h
    · exact h ▸ .part
    · exact h ▸ .partBroken
    · exact h ▸ .partAbandoned
  case closing result => exact h ▸ .close
  case releasing => exact h ▸ .release
  case removing => exact h ▸ .remove

private theorem callStep_of_answer {outcome : FetchEnd}
    (h : call.answer rules outcome = some progress) :
    CallStep rules state call call.stage progress := by
  obtain ⟨number, request, stage⟩ := call
  -- Only a call that is fetching is answered.
  cases stage <;> simp only [Call.answer, reduceCtorEq] at h
  case fetching gate askedAt =>
    cases outcome with
    | broken => exact Option.some.inj h ▸ .answerBroken
    | failed failure => exact Option.some.inj h ▸ .answerFailed failure
    | token token =>
      simp only at h
      split at h
      next hrule => exact Option.some.inj h ▸ .answerClaim token hrule
      next ttl hrule =>
        split at h
        next hsum => exact Option.some.inj h ▸ .answerOverflow token hrule hsum
        next expiresAt hsum => exact Option.some.inj h ▸ .answerFixed token hrule hsum

private theorem callStep_of_abandon (h : call.abandon = some progress) :
    CallStep rules state call call.stage progress := by
  obtain ⟨number, request, stage⟩ := call
  cases stage <;> simp only [Call.abandon, Option.some.injEq, reduceCtorEq] at h
  case starting => exact h ▸ .abandonFirst
  case queued gate => exact h ▸ .abandonQueued
  case fetching gate askedAt => exact h ▸ .abandonFetching

/-- A step of the call with some number is a step of a call that is under way. -/
private theorem takes_of_stepCall {number : Nat} {next : Call → Option Progress}
    {transition : Transition} (h : stepCall state number next = some transition)
    (hnext : ∀ call progress, next call = some progress →
      CallStep rules state call call.stage progress) :
    Takes rules state transition.told transition.state := by
  simp only [stepCall, Option.bind_eq_some_iff, Option.map_eq_some_iff] at h
  obtain ⟨call, hcall, progress, hprogress, rfl⟩ := h
  exact .goOn (List.mem_of_find?_eq_some hcall) (hnext call progress hprogress)

/-- Every step of the machine is one of the listed steps, and logs what they do. -/
theorem takes_of_step {action : Action} {transition : Transition}
    (h : step rules state action = some transition) :
    Takes rules state transition.told transition.state := by
  cases action with
  | lookUp request => exact Option.some.inj h ▸ .lookUp request
  | invalidate request => exact Option.some.inj h ▸ .invalidate request
  | peek request => exact Option.some.inj h ▸ .peek request
  | read number now => exact takes_of_stepCall h fun _ _ => callStep_of_read
  | proceed number => exact takes_of_stepCall h fun _ _ => callStep_of_proceed
  | answer number outcome => exact takes_of_stepCall h fun _ _ => callStep_of_answer
  | abandon number => exact takes_of_stepCall h fun _ _ => callStep_of_abandon

/-- Every step of the machine is one of the listed steps. -/
theorem happens_of_step {action : Action} {transition : Transition}
    (h : step rules state action = some transition) :
    Happens rules state transition.event transition.state :=
  (takes_of_step h).happens

/-! ## What led to an event -/

variable {state' : State} {number : Nat} {key : EntryKey}

/-- A lease is saved by a look-up that was about to store it. -/
theorem Happens.saved {lease : Lease} (h : Happens rules state (.saved number key lease) state') :
    ∃ request gate, ⟨number, request, .storing gate lease⟩ ∈ state.calls ∧ request.key = key := by
  generalize hevent : Event.saved number key lease = event at h
  cases h with
  | lookUp request | invalidate request | peek request => cases hevent
  | @goOn call progress hcall hstep =>
    obtain ⟨number, request, stage⟩ := call
    cases hstep <;> cases hevent
    exact ⟨request, _, hcall, rfl⟩

/-- An invalidation removes what is in the store. -/
theorem Happens.removed {found : Option Lease}
    (h : Happens rules state (.removed number key found) state') :
    ∃ request, ⟨number, request, .removing⟩ ∈ state.calls ∧ request.key = key ∧
      found = state.store.fetch? key := by
  generalize hevent : Event.removed number key found = event at h
  cases h with
  | lookUp request | invalidate request | peek request => cases hevent
  | @goOn call progress hcall hstep =>
    obtain ⟨number, request, stage⟩ := call
    cases hstep <;> cases hevent
    exact ⟨request, hcall, rfl, rfl⟩

/-- A token is asked for by a look-up that has come that far, for its own request. -/
theorem Happens.asked {request : TokenRequest} {askedAt : Instant}
    (h : Happens rules state (.asked number request askedAt) state') :
    ∃ gate, ⟨number, request, .asking gate⟩ ∈ state.calls := by
  generalize hevent : Event.asked number request askedAt = event at h
  cases h with
  | lookUp request | invalidate request | peek request => cases hevent
  | @goOn call progress hcall hstep =>
    obtain ⟨number, request, stage⟩ := call
    cases hstep <;> cases hevent
    exact ⟨_, hcall⟩

/-- A look-up ends well on its first look, or on its way out. -/
theorem Happens.ended {lease : Lease}
    (h : Happens rules state (.ended number (.result (.ok lease))) state') :
    ∃ request,
      (∃ now, ⟨number, request, .looking now⟩ ∈ state.calls ∧
        state.freshLease? request.key rules.margin now = some (some lease)) ∨
      ⟨number, request, .closing (.ok lease)⟩ ∈ state.calls := by
  -- A result is handed out at two stages only, after the look and at the end.
  generalize hevent : Event.ended number (.result (.ok lease)) = event at h
  cases h with
  | lookUp request | invalidate request | peek request => cases hevent
  | @goOn call progress hcall hstep =>
    obtain ⟨number, request, stage⟩ := call
    cases hstep <;> cases hevent
    next now hfresh => exact ⟨request, .inl ⟨now, hcall, hfresh⟩⟩
    next => exact ⟨request, .inr hcall⟩

/-- What is seen of a request is what the store has for it. -/
theorem Happens.peeked {request : TokenRequest} {found : Option Lease}
    (h : Happens rules state (.peeked request found) state') :
    found = state.store.fetch? (rules.canonical request).key := by
  generalize hevent : Event.peeked request found = event at h
  cases h with
  | lookUp request | invalidate request => cases hevent
  | peek request =>
    cases hevent
    rfl
  | @goOn call progress hcall hstep =>
    obtain ⟨number, request, stage⟩ := call
    cases hstep <;> cases hevent

/-! ## Induction over a history -/

/-- What holds of an empty cache and is kept by every step holds after every history. -/
theorem Reaches.invariant {motive : List Event → State → Prop} (hstart : motive [] .initial)
    (hstep : ∀ {past state event state'}, Reaches rules past state → motive past state →
      Happens rules state event state' → motive (past ++ [event]) state')
    {history : List Event} (h : Reaches rules history state) : motive history state := by
  induction h with
  | start => exact hstart
  | next hpast hnext ih => exact hstep hpast ih (happens_of_step hnext)

/-- What holds of an empty cache, and is kept by every step and whatever others write, holds after
every history. -/
theorem ReachesShared.invariant {motive : List Event → State → Prop} (hstart : motive [] .initial)
    (hforeign : ∀ {past state} store, motive past state → motive past { state with store := store })
    (hstep : ∀ {past state event state'}, ReachesShared rules past state → motive past state →
      Happens rules state event state' → motive (past ++ [event]) state')
    {history : List Event} (h : ReachesShared rules history state) : motive history state := by
  induction h with
  | start => exact hstart
  | foreign store _ ih => exact hforeign store ih
  | next hpast hnext ih => exact hstep hpast ih (happens_of_step hnext)

/-- A call that is there after a step was there before and has not made it, or has just begun, or
has made the step. -/
theorem Happens.forall_calls {motive motive' : Call → Prop}
    (h : Happens rules state event state')
    (hlookUp : ∀ request, event = .began state.begun request →
      motive' ⟨state.begun, rules.canonical request, .starting⟩)
    (hinvalidate : ∀ request, event = .invalidating state.begun request →
      motive' ⟨state.begun, rules.canonical request, .releasing⟩)
    (hkeep : ∀ call ∈ state.calls, event.number? ≠ some call.number → motive call → motive' call)
    (hstep : ∀ number request stage progress next, ⟨number, request, stage⟩ ∈ state.calls →
      motive ⟨number, request, stage⟩ →
      CallStep rules state ⟨number, request, stage⟩ stage progress → event = progress.event →
      progress.stage = some next → motive' ⟨number, request, next⟩)
    (hall : ∀ call ∈ state.calls, motive call) : ∀ call ∈ state'.calls, motive' call := by
  intro other hother
  -- The call has just begun, was there before, or has made the step.
  cases h with
  | lookUp request =>
    rcases State.mem_calls_begin.mp hother with ⟨hold, hne⟩ | rfl
    · exact hkeep other hold (fun heq => hne (Option.some.inj heq).symm) (hall other hold)
    · exact hlookUp request rfl
  | invalidate request =>
    rcases State.mem_calls_begin.mp hother with ⟨hold, hne⟩ | rfl
    · exact hkeep other hold (fun heq => hne (Option.some.inj heq).symm) (hall other hold)
    · exact hinvalidate request rfl
  | peek request => exact hkeep other hother (by simp [Event.number?]) (hall other hother)
  | @goOn call progress hcall hcallStep =>
    rcases State.mem_calls_advance.mp hother with ⟨hold, hne⟩ | ⟨next, hnext, rfl⟩
    · refine hkeep other hold ?_ (hall other hold)
      rw [hcallStep.number?]
      exact fun heq => hne (Option.some.inj heq).symm
    · exact hstep _ _ _ _ _ hcall (hall call hcall) hcallStep rfl hnext

/-- What holds of a call when it begins, and is kept by its own steps and by all others, holds of
every call that is under way. -/
theorem Reaches.forall_calls {motive : List Event → Call → Prop}
    (hlookUp : ∀ {past state}, Reaches rules past state → ∀ request,
      motive (past ++ [.began state.begun request])
        ⟨state.begun, rules.canonical request, .starting⟩)
    (hinvalidate : ∀ {past state}, Reaches rules past state → ∀ request,
      motive (past ++ [.invalidating state.begun request])
        ⟨state.begun, rules.canonical request, .releasing⟩)
    (hkeep : ∀ {past state event state'}, Reaches rules past state →
      Happens rules state event state' → ∀ call ∈ state.calls,
      event.number? ≠ some call.number → motive past call → motive (past ++ [event]) call)
    (hstep : ∀ {past state number request stage progress next}, Reaches rules past state →
      ⟨number, request, stage⟩ ∈ state.calls → motive past ⟨number, request, stage⟩ →
      CallStep rules state ⟨number, request, stage⟩ stage progress →
      progress.stage = some next →
      motive (past ++ [progress.event]) ⟨number, request, next⟩)
    {history : List Event} (h : Reaches rules history state) :
    ∀ call ∈ state.calls, motive history call := by
  refine h.invariant (motive := fun history state => ∀ call ∈ state.calls, motive history call)
    (by simp [State.initial]) ?_
  -- A step of the run is one of the machine, for whose calls the lemma above has the cases.
  intro past state event state' hpast ih hhappens
  refine hhappens.forall_calls ?_ ?_ (hkeep hpast hhappens) ?_ ih
  · rintro request rfl
    exact hlookUp hpast request
  · rintro request rfl
    exact hinvalidate hpast request
  · rintro number request stage progress next hcall hmotive hcallStep rfl hnext
    exact hstep hpast hcall hmotive hcallStep hnext

/-- What holds of a call when it begins, and is kept by its own steps and by all others, holds of
every call that is under way, whatever others write to the store. -/
theorem ReachesShared.forall_calls {motive : List Event → Call → Prop}
    (hlookUp : ∀ {past state}, ReachesShared rules past state → ∀ request,
      motive (past ++ [.began state.begun request])
        ⟨state.begun, rules.canonical request, .starting⟩)
    (hinvalidate : ∀ {past state}, ReachesShared rules past state → ∀ request,
      motive (past ++ [.invalidating state.begun request])
        ⟨state.begun, rules.canonical request, .releasing⟩)
    (hkeep : ∀ {past state event state'}, ReachesShared rules past state →
      Happens rules state event state' → ∀ call ∈ state.calls,
      event.number? ≠ some call.number → motive past call → motive (past ++ [event]) call)
    (hstep : ∀ {past state number request stage progress next}, ReachesShared rules past state →
      ⟨number, request, stage⟩ ∈ state.calls → motive past ⟨number, request, stage⟩ →
      CallStep rules state ⟨number, request, stage⟩ stage progress →
      progress.stage = some next →
      motive (past ++ [progress.event]) ⟨number, request, next⟩)
    {history : List Event} (h : ReachesShared rules history state) :
    ∀ call ∈ state.calls, motive history call := by
  refine h.invariant (motive := fun history state => ∀ call ∈ state.calls, motive history call)
    (by simp [State.initial]) (fun _ ih => ih) ?_
  intro past state event state' hpast ih hhappens
  refine hhappens.forall_calls ?_ ?_ (hkeep hpast hhappens) ?_ ih
  · rintro request rfl
    exact hlookUp hpast request
  · rintro request rfl
    exact hinvalidate hpast request
  · rintro number request stage progress next hcall hmotive hcallStep rfl hnext
    exact hstep hpast hcall hmotive hcallStep hnext

/-- A history that ends with an event was reached by a step with that event. -/
theorem Reaches.last {past : List Event} {event : Event}
    (h : Reaches rules (past ++ [event]) state) :
    ∃ before, Reaches rules past before ∧ Happens rules before event state := by
  generalize hhistory : past ++ [event] = history at h
  cases h with
  | start => simp at hhistory
  | next hpast hnext =>
    obtain ⟨rfl, rfl⟩ := List.append_singleton_inj.mp hhistory
    exact ⟨_, hpast, happens_of_step hnext⟩

/-- Every beginning of a history is a history. -/
theorem Reaches.before {past later : List Event} (h : Reaches rules (past ++ later) state) :
    ∃ before, Reaches rules past before := by
  generalize hhistory : past ++ later = history at h
  -- The events after the beginning are taken away one by one, from the last.
  induction h generalizing later with
  | start => exact ⟨.initial, (List.append_eq_nil_iff.mp hhistory).1 ▸ .start⟩
  | next hpast hnext ih =>
    rcases List.eq_nil_or_concat later with rfl | ⟨later, event, rfl⟩
    · rw [List.append_nil] at hhistory
      exact ⟨_, hhistory ▸ hpast.next hnext⟩
    · rw [List.concat_eq_append, ← List.append_assoc] at hhistory
      exact ih (List.append_singleton_inj.mp hhistory).1

/-- Every event of a history is that of a step from a state after the history before it. -/
theorem Reaches.split {past later : List Event} {event : Event}
    (h : Reaches rules (past ++ event :: later) state) :
    ∃ before after, Reaches rules past before ∧ Happens rules before event after := by
  rw [List.append_cons] at h
  obtain ⟨after, hafter⟩ := h.before
  obtain ⟨before, hpast, hstep⟩ := hafter.last
  exact ⟨before, after, hpast, hstep⟩

/-- Every event of a history is that of a step from a state after the history before it, also where
others write to the store. -/
theorem ReachesShared.split {past later : List Event} {event : Event}
    (h : ReachesShared rules (past ++ event :: later) state) :
    ∃ before after, ReachesShared rules past before ∧ Happens rules before event after := by
  generalize hhistory : past ++ event :: later = history at h
  induction h generalizing later with
  | start => simp at hhistory
  | foreign _ _ ih => exact ih hhistory
  | next hpast hnext ih =>
    rcases List.eq_nil_or_concat later with rfl | ⟨later, other, rfl⟩
    · -- It is the last event.
      obtain ⟨rfl, rfl⟩ := List.append_singleton_inj.mp hhistory
      exact ⟨_, _, hpast, happens_of_step hnext⟩
    · rw [List.concat_eq_append, ← List.cons_append, ← List.append_assoc] at hhistory
      exact ih (List.append_singleton_inj.mp hhistory).1

end BearerCache.Cache
