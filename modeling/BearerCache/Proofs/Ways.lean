import BearerCache.Proofs.Milestones
import BearerCache.Proofs.Stories

/-! # The way of one call

Out of a history the events of one call can be picked.  They are told by the steps of the call
alone: `Way` starts with the beginning of the call and goes on by `CallStep`, whatever the state
of the cache is when a step is done.  So what a call has done by the time it is over is shown by
induction over its way, and nothing has to be known of other calls.

Calls have ways also where others write to the store.

## Key results

- `ReachesShared.ways`: the events of a call lead to its stage, or to its end if it is over
- `ReachesShared.way_of_last`: they lead to its end if it is told to be over
- `Way.request_eq`: a call is for the canonical form of the request that it began with
- `Way.not_isLast`: it is not told that a call is over before it is
-/

namespace BearerCache.Cache

variable {rules : Rules} {state : State} {history events past : List Event} {event : Event}
  {number : Nat} {request : TokenRequest} {stage : Stage}

/-! ## Ways -/

/-- The events of a call. -/
def eventsOf (number : Nat) (history : List Event) : List Event :=
  history.filter (·.number? == some number)

/-- A call with a number and for a request has done some events and is now at a stage, or is
over. -/
inductive Way (rules : Rules) (number : Nat) : TokenRequest → List Event → Option Stage → Prop where
  | lookUp (given : TokenRequest) :
    Way rules number (rules.canonical given) [.began number given] (some .starting)
  | invalidate (given : TokenRequest) :
    Way rules number (rules.canonical given) [.invalidating number given] (some .releasing)
  | step {request : TokenRequest} {events : List Event} {stage : Stage} {progress : Progress}
      (state : State) (hway : Way rules number request events (some stage))
      (hstep : CallStep rules state ⟨number, request, stage⟩ stage progress) :
    Way rules number request (events ++ [progress.event]) progress.stage

@[simp] theorem mem_eventsOf :
    event ∈ eventsOf number history ↔ event ∈ history ∧ event.number? = some number := by
  simp [eventsOf]

/-- A call is for the canonical form of the request that it began with. -/
theorem Way.request_eq {ending : Option Stage} (h : Way rules number request events ending)
    (hevent : event ∈ events) {given : TokenRequest} (hgiven : event.request? = some given) :
    request = rules.canonical given := by
  induction h with
  | lookUp | invalidate =>
    obtain rfl := List.mem_singleton.mp hevent
    rw [Option.some.inj hgiven]
  | step state hway hstep ih =>
    rcases List.mem_append.mp hevent with hold | hnew
    · exact ih hold
    · -- No step of a call begins one.
      obtain rfl := List.mem_singleton.mp hnew
      cases hstep <;> cases hgiven

/-- Whether a call is over with an event. -/
def Event.isLast : Event → Bool
  | ended _ _ | removed _ _ _ => true
  | _ => false

/-- It is not told that a call is over before it is. -/
theorem Way.not_isLast {ending : Option Stage} (h : Way rules number request events ending)
    (hstage : ending = some stage) (hevent : event ∈ events) : ¬event.isLast := by
  induction h generalizing stage with
  | lookUp | invalidate =>
    obtain rfl := List.mem_singleton.mp hevent
    exact Bool.noConfusion
  | step state hway hstep ih =>
    rcases List.mem_append.mp hevent with hold | hnew
    · exact ih rfl hold
    · obtain rfl := List.mem_singleton.mp hnew
      cases hstep <;> cases hstage <;> exact Bool.noConfusion

/-! ## All events of a call are on its way -/

/-- The calls of a state and their ways in a history. -/
structure Ways (rules : Rules) (history : List Event) (state : State) : Prop where
  number_lt : ∀ call ∈ state.calls, call.number < state.begun
  /-- Nothing is told of a call that has not begun. -/
  unbegun : ∀ number, state.begun ≤ number → eventsOf number history = []
  underWay : ∀ call ∈ state.calls,
    Way rules call.number call.request (eventsOf call.number history) (some call.stage)
  finished : ∀ number, number < state.begun → (∀ call ∈ state.calls, call.number ≠ number) →
    ∃ request, Way rules number request (eventsOf number history) none

/-- What is told of a call has its events. -/
theorem historyOf_toldOf (told : List Told) :
    historyOf (toldOf number told) = eventsOf number (historyOf told) := by
  rw [historyOf, eventsOf, historyOf, List.filter_map]
  rfl

/-- Every story is a way with the log added. -/
theorem Story.way {told : List Told} {ending : Option Stage}
    (h : Story rules number request told ending) :
    Way rules number request (historyOf told) ending := by
  induction h with
  | lookUp given => exact .lookUp given
  | invalidate given => exact .invalidate given
  | step state hstory hstep ih =>
    rw [historyOf_append]
    exact ih.step state hstep

/-- Every history has a transcript. -/
theorem ReachesShared.tells (h : ReachesShared rules history state) :
    ∃ told, Tells rules told state ∧ historyOf told = history := by
  induction h with
  | start => exact ⟨[], .start, rfl⟩
  | foreign store _ ih =>
    obtain ⟨told, htells, hhistory⟩ := ih
    exact ⟨told, htells.foreign store, hhistory⟩
  | next _ hstep ih =>
    obtain ⟨told, htells, rfl⟩ := ih
    exact ⟨_, htells.next hstep, historyOf_append⟩

/-- After every history all events of a call are on its way. -/
theorem ReachesShared.ways (h : ReachesShared rules history state) :
    Ways rules history state := by
  -- The history is what is told of its events, and each call has a story there.
  obtain ⟨told, htells, rfl⟩ := h.tells
  refine ⟨htells.stories.number_lt, ?_, ?_, ?_⟩
  · intro number hle
    rw [← historyOf_toldOf, htells.stories.unbegun number hle, historyOf_nil]
  · intro call hcall
    rw [← historyOf_toldOf]
    exact (htells.stories.underWay call hcall).way
  · intro number hlt hgone
    rw [← historyOf_toldOf]
    obtain ⟨request, hstory⟩ := htells.stories.finished number hlt hgone
    exact ⟨request, hstory.way⟩

/-- All events of a call that is told to be over lead to its end. -/
theorem ReachesShared.way_of_last (h : ReachesShared rules history state)
    (hevent : event ∈ history) (hnumber : event.number? = some number) (hlast : event.isLast) :
    ∃ request, Way rules number request (eventsOf number history) none := by
  have hmem : event ∈ eventsOf number history := mem_eventsOf.mpr ⟨hevent, hnumber⟩
  refine h.ways.finished number (Nat.lt_of_not_le fun hle => ?_) ?_
  · rw [h.ways.unbegun number hle] at hmem
    cases hmem
  · rintro call hcall rfl
    exact (h.ways.underWay call hcall).not_isLast rfl hmem hlast

end BearerCache.Cache
