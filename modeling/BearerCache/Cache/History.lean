import BearerCache.Cache.Machine

/-! # Histories

The history of a cache is the list of what has happened since it was empty, the earliest event
first.  `Reaches` ties it to the state that the cache is in: any actions may follow each other,
as long as each is possible.  The store of a cache may be in use by others: `ReachesShared` lets
them write to it at any time, and before anything happens.

That some events happened in a given order is said by the relation `List.Sublist`, written
`<+`: `[e₁, e₂] <+ history` says that `e₂` happened some time after `e₁`. -/

namespace BearerCache.Cache

/-- A cache that goes by some rules can be in a state after a history. -/
inductive Reaches (rules : Rules) : List Event → State → Prop where
  /-- Nothing has happened yet. -/
  | start : Reaches rules [] .initial
  /-- An action is added. -/
  | next {past : List Event} {state : State} {action : Action} {transition : Transition}
      (hpast : Reaches rules past state) (hstep : step rules state action = some transition) :
      Reaches rules (past ++ [transition.event]) transition.state

/-- Carries actions out one after the other; nothing if one of them is not possible. -/
def run (rules : Rules) (past : List Event) (state : State) :
    List Action → Option (List Event × State)
  | [] => some (past, state)
  | action :: rest =>
    (step rules state action).bind fun transition =>
      run rules (past ++ [transition.event]) transition.state rest

/-- What each possible action keeps is kept when actions are carried out one after the other. -/
theorem run_invariant {rules : Rules} {motive : List Event → State → Prop}
    (hstep : ∀ {past state action transition}, motive past state →
      step rules state action = some transition →
      motive (past ++ [transition.event]) transition.state)
    {past history : List Event} {state last : State} {actions : List Action}
    (hpast : motive past state) (hrun : run rules past state actions = some (history, last)) :
    motive history last := by
  induction actions generalizing past state with
  | nil =>
    simp only [run, Option.some.injEq, Prod.mk.injEq] at hrun
    obtain ⟨rfl, rfl⟩ := hrun
    exact hpast
  | cons action rest ih =>
    simp only [run, Option.bind_eq_some_iff] at hrun
    obtain ⟨transition, hnext, hrest⟩ := hrun
    exact ih (hstep hpast hnext) hrest

/-- What is carried out from a history on leads to a history. -/
theorem Reaches.run {rules : Rules} {past history : List Event} {state last : State}
    {actions : List Action} (hpast : Reaches rules past state)
    (hrun : Cache.run rules past state actions = some (history, last)) :
    Reaches rules history last :=
  run_invariant .next hpast hrun

/-! ## A store that others write to -/

/-- A cache that goes by some rules can be in a state after a history, if others can write to its
store. -/
inductive ReachesShared (rules : Rules) : List Event → State → Prop where
  /-- Nothing has happened yet. -/
  | start : ReachesShared rules [] .initial
  /-- Others write to the store. -/
  | foreign {past : List Event} {state : State} (store : Store)
      (hpast : ReachesShared rules past state) :
      ReachesShared rules past { state with store := store }
  /-- An action is added. -/
  | next {past : List Event} {state : State} {action : Action} {transition : Transition}
      (hpast : ReachesShared rules past state) (hstep : step rules state action = some transition) :
      ReachesShared rules (past ++ [transition.event]) transition.state

/-- What is carried out from a history on leads to a history. -/
theorem ReachesShared.run {rules : Rules} {past history : List Event} {state last : State}
    {actions : List Action} (hpast : ReachesShared rules past state)
    (hrun : Cache.run rules past state actions = some (history, last)) :
    ReachesShared rules history last :=
  run_invariant .next hpast hrun

/-- A history is one in which nobody else has written to the store. -/
theorem Reaches.shared {rules : Rules} {history : List Event} {state : State}
    (h : Reaches rules history state) : ReachesShared rules history state := by
  induction h with
  | start => exact .start
  | next _ hstep ih => exact ih.next hstep

/-! ## A sample

Two look-ups of one request overlap.  The second waits while the first fetches, and when it gets
through the lease of the first has expired; a third look-up finds the lease of the second. -/

namespace Sample

/-- Requests stay as they are, leases last five seconds, and there is no margin. -/
def rules : Rules := ⟨id, fun _ => .fixed ⟨5000000000, by decide⟩, .zero⟩

def request : TokenRequest := ⟨.platform, .empty⟩

def zero : Instant := ⟨0, by decide⟩

def five : Instant := ⟨5000000000, by decide⟩

def ten : Instant := ⟨10000000000, by decide⟩

def first : Lease := ⟨⟨"first"⟩, zero, five⟩

def second : Lease := ⟨⟨"second"⟩, five, ten⟩

/-- The actions of the look-ups, until the third has looked. -/
def actions : List Action :=
  [.lookUp request, .lookUp request, .read 0 zero, .proceed 0, .proceed 0, .proceed 0,
    .read 0 zero, .proceed 0, .read 0 zero, .read 1 zero, .proceed 1, .proceed 1,
    .answer 0 (.token first.token), .proceed 0, .proceed 0, .proceed 1, .read 1 five, .proceed 1,
    .read 1 five, .proceed 0, .proceed 0, .answer 1 (.token second.token), .proceed 1, .proceed 1,
    .proceed 1, .proceed 1, .lookUp request, .read 2 five, .proceed 2]

/-- What happens until the first lease is saved. -/
def untilFirst : List Event :=
  [.began 0 request, .began 1 request, .read 0 zero, .moved 0, .moved 0, .entered 0,
    .read 0 zero, .moved 0, .asked 0 request zero, .read 1 zero, .moved 1, .moved 1,
    .answered 0 (.token first.token)]

/-- What happens then until the second look-up asks. -/
def untilAsked : List Event :=
  [.moved 0, .entered 1, .read 1 five, .moved 1]

/-- What happens then until the third look-up has looked. -/
def untilLooked : List Event :=
  [.moved 0, .ended 0 (.result (.ok first)), .answered 1 (.token second.token),
    .saved 1 request.key second, .moved 1, .moved 1, .ended 1 (.result (.ok second)),
    .began 2 request, .read 2 five]

/-- What has happened when the third look-up has looked. -/
def history : List Event :=
  untilFirst ++ .saved 0 request.key first :: untilAsked ++ .asked 1 request five :: untilLooked

/-- The actions lead to the history, and then the third look-up hands out the second lease. -/
theorem reaches :
    ∃ state, Reaches rules (history ++ [.ended 2 (.result (.ok second))]) state := by
  have hreaches : ∀ history state, run rules [] .initial actions = some (history, state) →
      Reaches rules history state := fun _ _ => Reaches.start.run
  exact ⟨_, hreaches _ _ rfl⟩

end Sample

end BearerCache.Cache
