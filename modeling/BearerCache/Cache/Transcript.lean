import BearerCache.Cache.History

/-! # Transcripts

The transcript of a cache is its history with its log: what has happened, step by step, and what
each step has logged.  `Tells` ties it to the state that the cache is in.  The store of a cache may
be in use by others, who write to it at any time and before anything happens. -/

namespace BearerCache.Cache

/-- What happened in a step, and what the step has logged. -/
structure Told where
  event : Event
  log : List LogEntry

/-- What a transition tells. -/
def Transition.told (transition : Transition) : Told :=
  ⟨transition.event, transition.log⟩

/-- The history that a transcript is of. -/
def historyOf (told : List Told) : List Event :=
  told.map Told.event

/-- All that a transcript has of the log. -/
def logOf (told : List Told) : List LogEntry :=
  told.flatMap Told.log

/-- A cache that goes by some rules can be in a state after a transcript, if others can write to
its store. -/
inductive Tells (rules : Rules) : List Told → State → Prop where
  /-- Nothing has happened yet. -/
  | start : Tells rules [] .initial
  /-- Others write to the store. -/
  | foreign {past : List Told} {state : State} (store : Store) (hpast : Tells rules past state) :
      Tells rules past { state with store := store }
  /-- An action is added. -/
  | next {past : List Told} {state : State} {action : Action} {transition : Transition}
      (hpast : Tells rules past state) (hstep : step rules state action = some transition) :
      Tells rules (past ++ [transition.told]) transition.state

/-- Carries actions out one after the other and keeps what they tell; nothing if one of them is
not possible. -/
def tellAll (rules : Rules) (state : State) : List Action → Option (List Told × State)
  | [] => some ([], state)
  | action :: rest =>
    (step rules state action).bind fun transition =>
      (tellAll rules transition.state rest).map fun (told, last) =>
        (transition.told :: told, last)

section

variable {rules : Rules} {state last : State} {past told : List Told} {action : Action}
  {actions : List Action} {entry : Told}

@[simp] theorem historyOf_nil : historyOf [] = [] :=
  rfl

@[simp] theorem historyOf_cons : historyOf (entry :: told) = entry.event :: historyOf told :=
  rfl

@[simp] theorem historyOf_append :
    historyOf (past ++ told) = historyOf past ++ historyOf told :=
  List.map_append

@[simp] theorem logOf_nil : logOf [] = [] :=
  rfl

@[simp] theorem logOf_cons : logOf (entry :: told) = entry.log ++ logOf told :=
  List.flatMap_cons

@[simp] theorem logOf_append : logOf (past ++ told) = logOf past ++ logOf told :=
  List.flatMap_append

/-- To carry an action and others out is to carry it out and then the others. -/
theorem tellAll_cons_eq_some_iff :
    tellAll rules state (action :: actions) = some (told, last) ↔
      ∃ transition later, step rules state action = some transition ∧
        tellAll rules transition.state actions = some (later, last) ∧
        told = transition.told :: later := by
  simp only [tellAll, Option.bind_eq_some_iff, Option.map_eq_some_iff, Prod.exists,
    Prod.mk.injEq]
  constructor
  · rintro ⟨transition, hstep, later, _, hlater, rfl, rfl⟩
    exact ⟨transition, later, hstep, hlater, rfl⟩
  · rintro ⟨transition, later, hstep, hlater, rfl⟩
    exact ⟨transition, hstep, later, last, hlater, rfl, rfl⟩

/-- What is carried out from a transcript on leads to a transcript. -/
theorem Tells.tellAll (hpast : Tells rules past state)
    (htold : Cache.tellAll rules state actions = some (told, last)) :
    Tells rules (past ++ told) last := by
  induction actions generalizing past state told with
  | nil =>
    simp only [Cache.tellAll, Option.some.injEq, Prod.mk.injEq] at htold
    obtain ⟨rfl, rfl⟩ := htold
    rwa [List.append_nil]
  | cons action rest ih =>
    obtain ⟨transition, later, hstep, hlater, rfl⟩ := tellAll_cons_eq_some_iff.mp htold
    rw [List.append_cons]
    exact ih (hpast.next hstep) hlater

end

end BearerCache.Cache
