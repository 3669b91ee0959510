import BearerCache.Proofs.Ways

/-! # Who writes what

A call writes to the store in one step at most: a look-up when it saves the lease that it has
fetched, an invalidation when it removes what it finds.  Whatever else happens, a fetch that
fails among it, leaves the store as it is.

## Key results

- `CallStep.alters`: a step does to the store what its event says
- `Way.wrote`: what a call has written by the time it comes to a stage
- `ReachesShared.write_discipline`: what steps, look-ups and invalidations write
-/

namespace BearerCache.Cache

variable {rules : Rules} {state : State} {history events : List Event} {event : Event}
  {number : Nat} {request : TokenRequest} {key : EntryKey}

/-! ## Events that write -/

/-- Whether an event writes to the store. -/
def Event.isWrite : Event → Bool
  | saved _ _ _ | removed _ _ _ => true
  | _ => false

/-- What an event does to the store, seen by looking up what is under keys.  A save leaves its lease
under its key, and a removal leaves nothing there and has found what was there; what is under other
keys stays.  Other events leave the store as it is. -/
def Event.Alters (before after : Store) : Event → Prop
  | saved _ key lease =>
    after.fetch? key = some lease ∧
      ∀ other, other ≠ key → after.fetch? other = before.fetch? other
  | removed _ key found =>
    before.fetch? key = found ∧ after.fetch? key = none ∧
      ∀ other, other ≠ key → after.fetch? other = before.fetch? other
  | _ => after = before

/-- The events that write to the store. -/
def writes (events : List Event) : List Event :=
  events.filter Event.isWrite

@[simp] theorem writes_append_singleton :
    writes (events ++ [event]) = writes events ++ if event.isWrite then [event] else [] := by
  cases h : event.isWrite <;> simp [writes, h]

/-- A call has started a fetch. -/
def HasAsked (number : Nat) (history : List Event) : Prop :=
  ∃ request askedAt, .asked number request askedAt ∈ history

/-- A step of a call does to the store what its event says. -/
theorem CallStep.alters {call : Call} {stage : Stage} {progress : Progress}
    (h : CallStep rules state call stage progress) :
    progress.event.Alters state.store (state.advance call progress).store := by
  rw [State.store_advance]
  -- Only saving and removing touch the store; the gates are kept beside it.
  cases h
  case save gate lease =>
    constructor
    · exact (Store.fetch?_save ..).trans (if_pos rfl)
    · exact fun other hne => (Store.fetch?_save ..).trans (if_neg hne)
  case remove =>
    refine ⟨rfl, ?_, fun other hne => ?_⟩
    · exact (Store.fetch?_remove ..).trans (if_pos rfl)
    · exact (Store.fetch?_remove ..).trans (if_neg hne)
  case arrive => exact State.store_raiseGate
  case close | release => exact State.store_releaseGate
  all_goals rfl

/-- A step does to the store what its event says. -/
theorem Happens.alters {state' : State} (h : Happens rules state event state') :
    event.Alters state.store state'.store := by
  cases h with
  | lookUp | invalidate | peek => rfl
  | goOn hcall hstep => exact hstep.alters

/-- What is under another key than that of a call stays, whatever the call does. -/
theorem CallStep.fetch?_store_of_ne {call : Call} {stage : Stage} {progress : Progress}
    (h : CallStep rules state call stage progress) (hkey : key ≠ call.key) :
    (state.advance call progress).store.fetch? key = state.store.fetch? key := by
  have halters := h.alters
  cases h
  case save => exact halters.2 key hkey
  case remove => exact halters.2.2 key hkey
  -- The other steps leave the whole store as it is.
  all_goals exact congrArg (Store.fetch? · key) halters

/-! ## What a call has written -/

/-- What a look-up with some ending has written: if it has fetched a lease, this and nothing else,
and nothing at all if it has found its lease or failed. -/
def Ending.Wrote (number : Nat) (key : EntryKey) (events : List Event) : Ending → Prop
  | .result (.ok lease) =>
    (HasAsked number events ∧ writes events = [.saved number key lease]) ∨
      (¬HasAsked number events ∧ writes events = [])
  | _ => writes events = []

/-- What a call that has come to a stage has written. -/
def Stage.Wrote (number : Nat) (key : EntryKey) (events : List Event) : Stage → Prop
  | starting | looking _ | arriving | queued _ | entering _ | checking _ _ | asking _ =>
    ¬HasAsked number events ∧ writes events = []
  | fetching _ _ | judging _ _ _ | storing _ _ =>
    HasAsked number events ∧ writes events = []
  | leaving _ ending | parting _ ending => ending.Wrote number key events
  | closing result => (Ending.result result).Wrote number key events
  | releasing | removing => writes events = []

/-- What a call has written with the event that is its last. -/
def Event.Wrote (number : Nat) (key : EntryKey) (events : List Event) : Event → Prop
  | ended _ ending => ending.Wrote number key events
  | removed _ _ found => writes events = [.removed number key found]
  | _ => False

/-- What a look-up with some ending has written stays, when it neither writes nor asks again. -/
theorem Ending.Wrote.append_singleton {ending : Ending} (h : ending.Wrote number key events)
    (hwrite : event.isWrite = false)
    (hask : ∀ request askedAt, event ≠ .asked number request askedAt) :
    ending.Wrote number key (events ++ [event]) := by
  have hwrites : writes (events ++ [event]) = writes events := by simp [hwrite]
  have hasked : HasAsked number (events ++ [event]) ↔ HasAsked number events := by
    refine exists_congr fun request => exists_congr fun askedAt => ?_
    simp [(hask request askedAt).symm]
  unfold Ending.Wrote at h ⊢
  rw [hwrites, hasked]
  exact h

section

variable {stage : Stage} {progress : Progress}
  (h : CallStep rules state ⟨number, request, stage⟩ stage progress)
  (hwas : stage.Wrote number request.key events)

include h hwas

/-- A step of a call adds to what it has written what its next stage says. -/
theorem CallStep.wrote {next : Stage} (hnext : progress.stage = some next) :
    next.Wrote number request.key (events ++ [progress.event]) := by
  cases h <;> cases hnext
  case checkHit => exact .inr (by simpa [Stage.Wrote, HasAsked, Event.isWrite] using hwas)
  case save gate lease =>
    -- It has asked, and now it writes.
    obtain ⟨⟨asked, askedAt, hasked⟩, hnone⟩ := hwas
    refine .inl ⟨⟨asked, askedAt, List.mem_append_left _ hasked⟩, ?_⟩
    rw [writes_append_singleton, hnone]
    rfl
  case leave | part =>
    exact Ending.Wrote.append_singleton hwas rfl fun _ _ => Event.noConfusion
  -- The other steps write nothing, and whether it has asked is known from the stage.
  all_goals
    simp_all [Stage.Wrote, Ending.Wrote, HasAsked, Event.isWrite, Progress.quiet, Call.fail]

/-- The last step of a call adds to what it has written what its last event says. -/
theorem CallStep.wrote_last (hlast : progress.stage = none) :
    progress.event.Wrote number request.key (events ++ [progress.event]) := by
  cases h <;> cases hlast
  case close => exact Ending.Wrote.append_singleton hwas rfl fun _ _ => Event.noConfusion
  all_goals
    simp_all [Event.Wrote, Stage.Wrote, Ending.Wrote, HasAsked, Event.isWrite, Call.key]

end

/-- A call that has come to a stage has written what it should. -/
theorem Way.wrote {ending : Option Stage} (h : Way rules number request events ending) :
    ∀ stage, ending = some stage → stage.Wrote number request.key events := by
  induction h with
  | lookUp given =>
    rintro _ ⟨⟩
    exact ⟨by simp [HasAsked], rfl⟩
  | invalidate given =>
    rintro _ ⟨⟩
    rfl
  | step state hway hstep ih => exact fun next hnext => hstep.wrote (ih _ rfl) hnext

/-- A call that is over has written what its last event says. -/
theorem Way.wrote_of_over (h : Way rules number request events none) (hevent : event ∈ events)
    (hlast : event.isLast) : event.Wrote number request.key events := by
  generalize hnone : (none : Option Stage) = ending at h
  cases h with
  | lookUp | invalidate => cases hnone
  | @step _ events stage progress state hway hstep =>
    rcases List.mem_append.mp hevent with hold | hnew
    · -- It is not told that a call is over before it is.
      exact absurd hlast (hway.not_isLast rfl hold)
    · obtain rfl := List.mem_singleton.mp hnew
      exact hstep.wrote_last (hway.wrote _ rfl) hnone.symm

/-! ## What is written in a history -/

/-- The events by which a call writes to the store. -/
def writesOf (number : Nat) (history : List Event) : List Event :=
  writes (eventsOf number history)

@[simp] theorem hasAsked_eventsOf :
    HasAsked number (eventsOf number history) ↔ HasAsked number history := by
  simp [HasAsked, Event.number?]

/-- What a call has written that is told to be over. -/
theorem ReachesShared.wrote_of_last (h : ReachesShared rules history state)
    (hevent : event ∈ history) (hnumber : event.number? = some number)
    (hlast : event.isLast) {first : Event} (hfirst : first ∈ history)
    (hfirstNumber : first.number? = some number) {given : TokenRequest}
    (hgiven : first.request? = some given) :
    event.Wrote number (rules.canonical given).key (eventsOf number history) := by
  have hmem : event ∈ eventsOf number history := mem_eventsOf.mpr ⟨hevent, hnumber⟩
  have hfirstMem : first ∈ eventsOf number history := mem_eventsOf.mpr ⟨hfirst, hfirstNumber⟩
  obtain ⟨request, hway⟩ := h.way_of_last hevent hnumber hlast
  rw [← hway.request_eq hfirstMem hgiven]
  exact hway.wrote_of_over hmem hlast

/-- A call changes nothing under a key that is not that of its request. -/
theorem ReachesShared.fetch?_of_ne (h : ReachesShared rules history state) {state' : State}
    (hhappens : Happens rules state event state') (hnumber : event.number? = some number)
    {first : Event} (hfirst : first ∈ history) (hfirstNumber : first.number? = some number)
    {given : TokenRequest} (hgiven : first.request? = some given)
    (hkey : key ≠ (rules.canonical given).key) :
    state'.store.fetch? key = state.store.fetch? key := by
  cases hhappens with
  -- Only a step of a call is left, and it touches the key of its own call alone.
  | lookUp | invalidate | peek => rfl
  | @goOn call progress hcall hstep =>
    obtain rfl : call.number = number := Option.some.inj (hstep.number?.symm.trans hnumber)
    have hmem : first ∈ eventsOf call.number history := mem_eventsOf.mpr ⟨hfirst, hfirstNumber⟩
    have hrequest := (h.ways.underWay call hcall).request_eq hmem hgiven
    refine hstep.fetch?_store_of_ne ?_
    rwa [Call.key, hrequest]

/-- The store changes only by the writes of calls, whatever is in it and whoever else writes to it.
A step that saves a lease leaves this lease under its key, one that removes leaves nothing under its
key, and both leave what is under other keys; all other steps leave the store as it is.  Nothing
changes under a key that is not that of the request of the call whose step it is.  A look-up that has
fetched the lease with which it ends has written this lease, once, under the key of its canonical
request, and nothing else.  One that ends otherwise, or without having asked for a token, has written
nothing.  An invalidation has removed what was under the key of its canonical request, and nothing
else. -/
theorem ReachesShared.write_discipline (h : ReachesShared rules history state) :
    (∀ action transition, step rules state action = some transition →
      transition.event.Alters state.store transition.state.store) ∧
    (∀ action transition, step rules state action = some transition →
      ∀ number request, transition.event.number? = some number →
        .began number request ∈ history ∨ .invalidating number request ∈ history →
        ∀ key, key ≠ (rules.canonical request).key →
          transition.state.store.fetch? key = state.store.fetch? key) ∧
    (∀ number request lease, .began number request ∈ history →
      .ended number (.result (.ok lease)) ∈ history → HasAsked number history →
      writesOf number history = [.saved number (rules.canonical request).key lease]) ∧
    (∀ number request ending, .began number request ∈ history → .ended number ending ∈ history →
      (∀ lease, ending ≠ .result (.ok lease)) ∨ ¬HasAsked number history →
      writesOf number history = []) ∧
    (∀ number request key found, .invalidating number request ∈ history →
      .removed number key found ∈ history →
      writesOf number history = [.removed number (rules.canonical request).key found]) := by
  refine ⟨?_, ?_, ?_, ?_, ?_⟩
  · exact fun action transition hstep => (happens_of_step hstep).alters
  · intro action transition hstep number request hnumber hgiven key hkey
    rcases hgiven with hbegan | hinvalidating
    · exact h.fetch?_of_ne (happens_of_step hstep) hnumber hbegan rfl rfl hkey
    · exact h.fetch?_of_ne (happens_of_step hstep) hnumber hinvalidating rfl rfl hkey
  · intro number request lease hbegan hended hasked
    rcases h.wrote_of_last hended rfl rfl hbegan rfl rfl with ⟨-, hwrites⟩ | ⟨hunasked, -⟩
    · exact hwrites
    · exact absurd (hasAsked_eventsOf.mpr hasked) hunasked
  · intro number request ending hbegan hended hothers
    have hwrote : ending.Wrote number (rules.canonical request).key (eventsOf number history) :=
      h.wrote_of_last hended rfl rfl hbegan rfl rfl
    -- A look-up that ended without a lease has written nothing, whatever else it has done.
    cases ending with
    | broken | abandoned => exact hwrote
    | result outcome =>
      cases outcome with
      | error failure => exact hwrote
      | ok lease =>
        -- It has found its lease, as it has not asked.
        have hunasked := hothers.resolve_left fun hnot => hnot lease rfl
        rcases hwrote with ⟨hasked, -⟩ | ⟨-, hnone⟩
        · exact absurd (hasAsked_eventsOf.mp hasked) hunasked
        · exact hnone
  · intro number request key found hinvalidating hremoved
    exact h.wrote_of_last hremoved rfl rfl hinvalidating rfl rfl

end BearerCache.Cache

namespace BearerCache.Cache.Sample

/-- There is a lease that has expired.  A look-up tries to replace it and fails, a second one does
replace it, and an invalidation takes the new one away. -/
def replacing : List Action :=
  [.lookUp request, .read 0 five, .proceed 0, .proceed 0, .proceed 0, .read 0 five, .proceed 0,
    .read 0 five, .answer 0 (.failed .unreachable), .proceed 0, .proceed 0, .proceed 0,
    .lookUp request, .read 1 five, .proceed 1, .proceed 1, .proceed 1, .read 1 five, .proceed 1,
    .read 1 five, .answer 1 (.token second.token), .proceed 1, .proceed 1, .proceed 1, .proceed 1,
    .invalidate request, .proceed 2, .proceed 2]

/-- What happens when a lease is replaced. -/
def replaced : List Event :=
  [.began 0 request, .read 0 five, .moved 0, .moved 0, .entered 0, .read 0 five, .moved 0,
    .asked 0 request five, .answered 0 (.failed .unreachable), .moved 0, .moved 0,
    .ended 0 (.result (.error .unreachable)),
    .began 1 request, .read 1 five, .moved 1, .moved 1, .entered 1, .read 1 five, .moved 1,
    .asked 1 request five, .answered 1 (.token second.token), .saved 1 request.key second,
    .moved 1, .moved 1, .ended 1 (.result (.ok second)),
    .invalidating 2 request, .moved 2, .removed 2 request.key (some second)]

/-- The look-up that failed has written nothing, the other one its lease, and the invalidation has
removed that. -/
theorem writes_of_replaced :
    writesOf 0 replaced = [] ∧ writesOf 1 replaced = [.saved 1 request.key second] ∧
      writesOf 2 replaced = [.removed 2 request.key (some second)] := by
  have hstale : ReachesShared rules [] { State.initial with
      store := Store.save .empty request.key first } := .foreign _ .start
  -- The store holds a lease that another program has put there, so the run is one on a shared
  -- store.
  have hreaches : ∀ history state,
      run rules [] { State.initial with store := Store.save .empty request.key first } replacing =
        some (history, state) → ReachesShared rules history state :=
    fun _ _ => hstale.run
  obtain ⟨-, -, hfetched, hothers, hremoved⟩ := (hreaches replaced _ rfl).write_discipline
  refine ⟨?_, ?_, ?_⟩
  · exact hothers 0 request (.result (.error .unreachable)) (by simp [replaced])
      (by simp [replaced]) (.inl fun _ => nofun)
  · exact hfetched 1 request second (by simp [replaced]) (by simp [replaced])
      ⟨request, five, by simp [replaced]⟩
  · exact hremoved 2 request request.key (some second) (by simp [replaced]) (by simp [replaced])

end BearerCache.Cache.Sample
