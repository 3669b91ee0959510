import BearerCache.Proofs.Gates

/-! # Every call goes one way

A call passes its milestones in one order and each at most once: a look-up begins, enters, asks,
is answered, saves and ends, and an invalidation begins and removes.  It may leave some of them
out.  So of two events of one call at the same milestone there is only one, and the number of a
call tells for which request it began, what it asked for and what it saved.

## Key results

- `CallStep.position`: a step leads from the milestones before a stage to those after it
- `Reaches.pairwise_follows`: in a history, later events of a call are further along
- `Reaches.eq_of_position`: events of a call at the same milestone are the same
- `Reaches.not_twice`: no milestone is passed twice
- `Reaches.request_eq`: the request of a look-up is the canonical form of what it began with
-/

namespace BearerCache.Cache

open scoped List

variable {rules : Rules} {state : State} {history : List Event}

/-- How far along a call is with an event; nothing if the event is no milestone. -/
def Event.position? : Event → Option Nat
  | began _ _ | invalidating _ _ => some 0
  | entered _ => some 1
  | asked _ _ _ => some 2
  | answered _ _ => some 3
  | saved _ _ _ => some 4
  | ended _ _ | removed _ _ _ => some 5
  | read _ _ | moved _ | peeked _ _ => none

/-- The first milestone that is still ahead of a call at a stage. -/
def Stage.position : Stage → Nat
  | starting | looking _ | arriving | queued _ => 1
  | entering _ | checking _ _ | asking _ => 2
  | fetching _ _ => 3
  | judging _ _ _ | storing _ _ => 4
  | leaving _ _ | parting _ _ | closing _ | releasing | removing => 5

/-- If two events are milestones of one call, the second is further along. -/
def Event.Follows (first second : Event) : Prop :=
  ∀ number i j, first.number? = some number → second.number? = some number →
    first.position? = some i → second.position? = some j → i < j

/-- No step leads back, and none passes a milestone that is behind. -/
theorem CallStep.position {call : Call} {stage : Stage} {progress : Progress}
    (h : CallStep rules state call stage progress) :
    (∀ i, progress.event.position? = some i → stage.position ≤ i) ∧
      ∀ next, progress.stage = some next → stage.position ≤ next.position ∧
        ∀ i, progress.event.position? = some i → i < next.position := by
  cases h <;> simp [Event.position?, Stage.position, Progress.quiet, Call.fail]

/-- The calls that are told of have begun. -/
theorem Reaches.number_lt (h : Reaches rules history state) :
    ∀ event ∈ history, ∀ number, event.number? = some number → number < state.begun := by
  refine h.invariant
    (motive := fun history state => ∀ event ∈ history, ∀ number,
      event.number? = some number → number < state.begun) (by simp) ?_
  intro past state event state' hpast ih hhappens other hother number hnumber
  -- What has begun stays begun, and the event itself is about a call that has begun.
  have hkept : state.begun ≤ state'.begun ∧ (other = event → number < state'.begun) := by
    cases hhappens with
    | lookUp request | invalidate request =>
      refine ⟨Nat.le_succ _, ?_⟩
      rintro rfl
      exact Option.some.inj hnumber ▸ Nat.lt_succ_self _
    | peek request =>
      refine ⟨Nat.le_refl _, ?_⟩
      rintro rfl
      cases hnumber
    | goOn hcall hstep =>
      rw [State.begun_advance]
      refine ⟨Nat.le_refl _, ?_⟩
      rintro rfl
      rw [hstep.number?] at hnumber
      exact Option.some.inj hnumber ▸ hpast.numbered.number_lt _ hcall
  rcases List.mem_append.mp hother with hold | hnew
  · exact Nat.lt_of_lt_of_le (ih other hold number hnumber) hkept.1
  · exact hkept.2 (List.mem_singleton.mp hnew)

/-- All milestones that a call has passed are behind its stage. -/
theorem Reaches.position_lt (h : Reaches rules history state) :
    ∀ call ∈ state.calls, ∀ event ∈ history, event.number? = some call.number →
      ∀ i, event.position? = some i → i < call.stage.position := by
  refine h.forall_calls
    (motive := fun history call => ∀ event ∈ history, event.number? = some call.number →
      ∀ i, event.position? = some i → i < call.stage.position)
    ?lookUp ?invalidate ?keep ?step
  case lookUp | invalidate =>
    intro past state hpast request event hevent hnumber i hi
    rcases List.mem_append.mp hevent with hold | hnew
    · -- Its number has not been given out before.
      exact absurd (hpast.number_lt event hold _ hnumber) (Nat.lt_irrefl _)
    · obtain rfl := List.mem_singleton.mp hnew
      obtain rfl : 0 = i := Option.some.inj hi
      exact Nat.zero_lt_succ _
  case keep =>
    intro past state event state' _ _ call _ hne ih other hother hnumber i hi
    rcases List.mem_append.mp hother with hold | hnew
    · exact ih other hold hnumber i hi
    · exact absurd (List.mem_singleton.mp hnew ▸ hnumber) hne
  case step =>
    intro past state number request stage progress next _ _ ih hstep hnext other hother hnumber
      i hi
    obtain ⟨hle, hlt⟩ := hstep.position.2 next hnext
    rcases List.mem_append.mp hother with hold | hnew
    · exact Nat.lt_of_lt_of_le (ih other hold hnumber i hi) hle
    · exact hlt i (List.mem_singleton.mp hnew ▸ hi)

/-- In a history, later events of a call are further along. -/
theorem Reaches.pairwise_follows (h : Reaches rules history state) :
    history.Pairwise Event.Follows := by
  refine h.invariant (motive := fun history _ => history.Pairwise Event.Follows) .nil ?_
  intro past state event state' hpast ih hhappens
  rw [List.pairwise_append]
  refine ⟨ih, List.pairwise_singleton _ _, ?_⟩
  intro first hfirst second hsecond number i j hfirstNumber hnumber hi hj
  obtain rfl := List.mem_singleton.mp hsecond
  cases hhappens with
  | lookUp request | invalidate request =>
    -- Nothing has been told yet of a call that begins.
    obtain rfl : state.begun = number := Option.some.inj hnumber
    exact absurd (hpast.number_lt first hfirst _ hfirstNumber) (Nat.lt_irrefl _)
  | peek request => cases hnumber
  | @goOn call progress hcall hstep =>
    -- What has been told of the call is behind its stage, and the event is not.
    rw [hstep.number?] at hnumber
    obtain rfl : call.number = number := Option.some.inj hnumber
    have hbehind := hpast.position_lt call hcall first hfirst hfirstNumber i hi
    exact Nat.lt_of_lt_of_le hbehind (hstep.position.1 j hj)

/-- Where later events are further along, entries with events of one call at one milestone are the
same entry. -/
theorem Event.eq_of_pairwise_follows {α : Type} {event : α → Event} {entries : List α}
    (h : (entries.map event).Pairwise Follows) {a b : α} (ha : a ∈ entries) (hb : b ∈ entries)
    {number i : Nat} (hnumberA : (event a).number? = some number)
    (hnumberB : (event b).number? = some number) (hi : (event a).position? = some i)
    (hj : (event b).position? = some i) : a = b := by
  -- Of two different ones the later would be further along than itself.
  have hpairs := List.pairwise_map.mp h
  refine List.Pairwise.forall_of_forall_of_flip
    (R := fun a b : α => (event a).number? = some number → (event b).number? = some number →
      (event a).position? = some i → (event b).position? = some i → a = b)
    (fun _ _ _ _ _ _ => rfl) ?_ ?_ ha hb hnumberA hnumberB hi hj
  · exact hpairs.imp fun hab ha hb hpa hpb =>
      absurd (hab number i i ha hb hpa hpb) (Nat.lt_irrefl i)
  · exact hpairs.imp fun hab ha hb hpa hpb =>
      absurd (hab number i i hb ha hpb hpa) (Nat.lt_irrefl i)

/-- Events of one call at one milestone are the same. -/
theorem Reaches.eq_of_position (h : Reaches rules history state) {first second : Event}
    (hfirst : first ∈ history) (hsecond : second ∈ history) {number i : Nat}
    (hfirstNumber : first.number? = some number) (hnumber : second.number? = some number)
    (hi : first.position? = some i) (hj : second.position? = some i) : first = second := by
  have hpairs : (history.map id).Pairwise Event.Follows := by simpa using h.pairwise_follows
  exact Event.eq_of_pairwise_follows hpairs hfirst hsecond hfirstNumber hnumber hi hj

/-- No call passes a milestone twice. -/
theorem Reaches.not_twice (h : Reaches rules history state) {event : Event} {number i : Nat}
    (hnumber : event.number? = some number) (hi : event.position? = some i) :
    ¬[event, event] <+ history := by
  intro htwice
  have hfollows : event.Follows event := by simpa using h.pairwise_follows.sublist htwice
  exact Nat.lt_irrefl i (hfollows number i i hnumber hnumber hi hi)

/-! ## What a call is for -/

/-- What an event says that its call is for, if the call begins with it. -/
def Event.request? : Event → Option TokenRequest
  | began _ request | invalidating _ request => some request
  | _ => none

/-- The request of a call is the canonical form of what it began with. -/
theorem Reaches.request_eq (h : Reaches rules history state) :
    ∀ call ∈ state.calls, ∀ event ∈ history, event.number? = some call.number →
      ∀ request, event.request? = some request → call.request = rules.canonical request := by
  refine h.forall_calls
    (motive := fun history call => ∀ event ∈ history, event.number? = some call.number →
      ∀ request, event.request? = some request → call.request = rules.canonical request)
    ?lookUp ?invalidate ?keep ?step
  case lookUp | invalidate =>
    intro past state hpast request event hevent hnumber other hother
    rcases List.mem_append.mp hevent with hold | hnew
    · exact absurd (hpast.number_lt event hold _ hnumber) (Nat.lt_irrefl _)
    · obtain rfl := List.mem_singleton.mp hnew
      rw [Option.some.inj hother]
  case keep =>
    intro past state event state' _ _ call _ hne ih other hother hnumber request hrequest
    rcases List.mem_append.mp hother with hold | hnew
    · exact ih other hold hnumber request hrequest
    · exact absurd (List.mem_singleton.mp hnew ▸ hnumber) hne
  case step =>
    intro past state number request stage progress next _ _ ih hstep _ other hother hnumber
      given hgiven
    rcases List.mem_append.mp hother with hold | hnew
    · exact ih other hold hnumber given hgiven
    · -- No step of a call that is under way begins it.
      obtain rfl := List.mem_singleton.mp hnew
      cases hstep <;> cases hgiven

end BearerCache.Cache
