import BearerCache.Proofs.Milestones

/-! # How look-ups come by a lease

A look-up that ends with a lease has found it fresh, on its first look or behind its gate, or has
saved it.  From then on it carries the lease along until it is over.  So whatever holds of a
lease when it is found or saved, and is not undone later, holds when it is handed out:
`Reaches.of_ended` is the induction.

## Key results

- `Reaches.read_of_looksAt`: a look-up looks at an instant that it has read
- `CallStep.lease?`: where the lease that a look-up carries along comes from
- `Reaches.of_ended`: what holds of a lease when a look-up comes by it holds when it ends
-/

namespace BearerCache.Cache

variable {rules : Rules} {state : State} {history later : List Event} {call : Call}
  {request : TokenRequest} {lease : Lease} {number : Nat} {now : Instant}

/-- The instant at which a look-up that is about to look does so. -/
def Stage.looksAt? : Stage → Option Instant
  | looking now | checking _ now => some now
  | _ => none

/-- The lease that a look-up ends with. -/
def Ending.lease? : Ending → Option Lease
  | result (.ok lease) => some lease
  | _ => none

/-- The lease that a look-up on its way out carries along. -/
def Stage.lease? : Stage → Option Lease
  | leaving _ ending | parting _ ending => ending.lease?
  | closing result => (Ending.result result).lease?
  | _ => none

/-- After every history a look-up that is about to look has read the instant. -/
theorem Reaches.read_of_looksAt (h : Reaches rules history state) :
    ∀ call ∈ state.calls, ∀ now, call.stage.looksAt? = some now →
      .read call.number now ∈ history := by
  refine h.forall_calls
    (motive := fun history call => ∀ now, call.stage.looksAt? = some now →
      .read call.number now ∈ history) ?lookUp ?invalidate ?keep ?step
  case lookUp | invalidate => exact fun _ _ _ hlook => nomatch hlook
  case keep => exact fun _ _ _ _ _ ih now hlook => List.mem_append_left _ (ih now hlook)
  case step =>
    intro past state number request stage progress next hpast hcall ih hstep hnext now hlook
    -- A call looks at a clock that it has just read, or at none.
    cases hstep <;> cases hnext <;> cases hlook
    case readFirst | readAgain => exact List.mem_append_right _ List.mem_cons_self

/-- A look-up that carries a lease along after a step had it before, has just found it fresh, or
has just saved it. -/
theorem CallStep.lease? {stage next : Stage} {progress : Progress}
    (h : CallStep rules state call stage progress) (hnext : progress.stage = some next)
    (hlease : next.lease? = some lease) :
    stage.lease? = some lease ∨
      (∃ now, stage.looksAt? = some now ∧
        state.freshLease? call.key rules.margin now = some (some lease)) ∨
      ∃ gate, stage = .storing gate lease := by
  -- Only a hit and a save bring a lease to the call; a step that leaves the gate keeps it.
  cases h <;> cases hnext
  case checkHit hfresh =>
    cases hlease
    exact .inr (.inl ⟨_, rfl, hfresh⟩)
  case save gate lease =>
    cases hlease
    exact .inr (.inr ⟨gate, rfl⟩)
  case leave | part => exact .inl hlease
  all_goals cases hlease

section

/-! ## Induction over the way of a lease -/

variable {motive : List Event → Nat → TokenRequest → Lease → Prop}
  (hfound : ∀ {past state call now lease}, Reaches rules past state → call ∈ state.calls →
    call.stage.looksAt? = some now →
    state.freshLease? call.key rules.margin now = some (some lease) →
    motive past call.number call.request lease)
  (hsaved : ∀ {past state call gate lease}, Reaches rules past state → call ∈ state.calls →
    call.stage = .storing gate lease → motive past call.number call.request lease)
  (hkeep : ∀ {past event number request lease}, (∀ given, event ≠ .began number given) →
    motive past number request lease → motive (past ++ [event]) number request lease)

include hfound hsaved hkeep

/-- What holds of a lease when a look-up finds or saves it, and is kept by all that happens after
the look-up has begun, holds of what look-ups carry along. -/
theorem Reaches.forall_carried (h : Reaches rules history state) :
    ∀ call ∈ state.calls, ∀ lease, call.stage.lease? = some lease →
      motive history call.number call.request lease := by
  refine h.forall_calls
    (motive := fun history call => ∀ lease, call.stage.lease? = some lease →
      motive history call.number call.request lease) ?lookUp ?invalidate ?keep ?step
  case lookUp | invalidate => exact fun _ _ _ hlease => nomatch hlease
  case keep =>
    -- A step of another call is no beginning of this one.
    intro past state event state' _ _ call _ hne ih lease hlease
    refine hkeep (fun given hbegan => hne ?_) (ih lease hlease)
    rw [hbegan, Event.number?]
  case step =>
    intro past state number request stage progress next hpast hcall ih hstep hnext lease hlease
    have hbegan : ∀ given, progress.event ≠ .began number given := by
      intro given hevent
      cases hstep <;> cases hevent
    refine hkeep hbegan ?_
    -- The lease was with the call before, was found in the store, or has just been saved.
    rcases hstep.lease? hnext hlease with hcarried | ⟨now, hlook, hfresh⟩ | ⟨gate, rfl⟩
    · exact ih lease hcarried
    · have hmotive := hfound hpast hcall hlook hfresh
      exact hmotive
    · have hmotive := hsaved hpast hcall rfl
      exact hmotive

/-- What holds of a lease when a look-up finds or saves it, and is kept by all that happens after
the look-up has begun, holds of it when the look-up ends with it. -/
theorem Reaches.of_ended
    (h : Reaches rules (history ++ .ended number (.result (.ok lease)) :: later) state)
    (hbegan : .began number request ∈ history) :
    motive history number (rules.canonical request) lease := by
  obtain ⟨before, _, hbefore, hhappens⟩ := h.split
  -- It ends on its first look, or with what it has carried along since.
  obtain ⟨canonical, ⟨now, hcall, hfresh⟩ | hcall⟩ := hhappens.ended
  · obtain rfl := hbefore.request_eq _ hcall _ hbegan rfl _ rfl
    exact hfound hbefore hcall rfl hfresh
  · obtain rfl := hbefore.request_eq _ hcall _ hbegan rfl _ rfl
    exact hbefore.forall_carried hfound hsaved hkeep _ hcall lease rfl

end

end BearerCache.Cache
