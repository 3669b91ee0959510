import BearerCache.Proofs.Milestones
import BearerCache.Proofs.Sequential
import Mathlib.Data.List.Infix

/-! # What comes after a state

`Reaches` tells how a cache has come to a state, `Leads` how it goes on from there.  A call that is
under way in a state can be followed through what comes after it: other calls leave it where it is,
and its own steps take it along.  `Leads.follow` is the induction.

Whether a look-up can still come to its end is said by `CanEnd`: there are steps of calls that go on
by themselves, the clock standing still, and with the last of them the look-up is over.

## Key results

- `Reaches.leads`: what is reached from a state that is reached is reached
- `Reaches.leads_proceed`, `Reaches.leads_read`, `Reaches.leads_answer`: the steps of a call lead on
- `Leads.follow`: induction over what comes after a state, for one call
- `Leads.call_before`: a call that is under way was not further along before
- `CanEnd`: a look-up can come to its end
-/

namespace BearerCache.Cache

variable {rules : Rules} {before state state' : State} {past events later : List Event}
  {event : Event} {number : Nat} {request : TokenRequest} {call : Call} {progress : Progress}

/-! ## Continuations -/

/-- From a state a cache can come to another one by some events. -/
inductive Leads (rules : Rules) (before : State) : List Event → State → Prop where
  /-- Nothing has happened since. -/
  | refl : Leads rules before [] before
  /-- An action is added. -/
  | next {events : List Event} {state : State} {action : Action} {transition : Transition}
      (h : Leads rules before events state) (hstep : step rules state action = some transition) :
      Leads rules before (events ++ [transition.event]) transition.state

/-- What is reached from a state that is reached is reached. -/
theorem Reaches.leads (h : Reaches rules past before) (hleads : Leads rules before events state) :
    Reaches rules (past ++ events) state := by
  induction hleads with
  | refl => rwa [List.append_nil]
  | next _ hstep ih =>
    rw [← List.append_assoc]
    exact ih.next hstep

/-- What comes after what comes after a state comes after it. -/
theorem Leads.trans {last : State} (h : Leads rules before events state)
    (hnext : Leads rules state later last) : Leads rules before (events ++ later) last := by
  induction hnext with
  | refl => rwa [List.append_nil]
  | next _ hstep ih =>
    rw [← List.append_assoc]
    exact ih.next hstep

/-- What is carried out leads on. -/
theorem Leads.run {last : State} {actions : List Action} (h : Leads rules before events state)
    (hrun : Cache.run rules events state actions = some (later, last)) :
    Leads rules before later last := by
  -- On the actions of the run, each of which is one step.
  induction actions generalizing events state with
  | nil =>
    simp only [Cache.run, Option.some.injEq, Prod.mk.injEq] at hrun
    obtain ⟨rfl, rfl⟩ := hrun
    exact h
  | cons action rest ih =>
    simp only [Cache.run, Option.bind_eq_some_iff] at hrun
    obtain ⟨transition, hstep, hrest⟩ := hrun
    exact ih (h.next hstep) hrest

/-- Between two parts of what happens there is a state. -/
theorem Leads.split (h : Leads rules before (events ++ later) state) :
    ∃ middle, Leads rules before events middle ∧ Leads rules middle later state := by
  generalize hall : events ++ later = all at h
  -- The events of the second part are taken away one by one, from the last.
  induction h generalizing later with
  | refl =>
    obtain ⟨rfl, rfl⟩ := List.append_eq_nil_iff.mp hall
    exact ⟨before, .refl, .refl⟩
  | next hleads hstep ih =>
    rcases List.eq_nil_or_concat later with rfl | ⟨later, last, rfl⟩
    · rw [List.append_nil] at hall
      exact ⟨_, hall ▸ hleads.next hstep, .refl⟩
    · rw [List.concat_eq_append, ← List.append_assoc] at hall
      obtain ⟨hrest, rfl⟩ := List.append_singleton_inj.mp hall
      obtain ⟨middle, hfirst, hsecond⟩ := ih hrest
      exact ⟨middle, hfirst, List.concat_eq_append ▸ hsecond.next hstep⟩

/-- The first event is that of a step. -/
theorem Leads.cons (h : Leads rules before (event :: events) state) :
    ∃ middle, Leads rules before [event] middle ∧ Happens rules before event middle ∧
      Leads rules middle events state := by
  obtain ⟨middle, hfirst, hrest⟩ := @Leads.split _ _ _ [event] _ h
  refine ⟨middle, hfirst, ?_, hrest⟩
  -- The first of the events is one step, which is the last of its own run.
  generalize hone : [event] = all at hfirst
  cases hfirst with
  | refl => cases hone
  | next hnone hstep =>
    have happend : [] ++ [event] = _ := hone
    obtain ⟨hnil, rfl⟩ := List.append_singleton_inj.mp happend
    cases hnone with
    | refl => exact happens_of_step hstep
    | next => simp at hnil

/-! ## One call -/

/-- Where a call is in a state; nowhere if it is over. -/
def IsAt (state : State) (number : Nat) (request : TokenRequest) : Option Stage → Prop
  | some stage => ⟨number, request, stage⟩ ∈ state.calls
  | none => ∀ call ∈ state.calls, call.number ≠ number

/-- Calls that have begun stay where they are when others go on. -/
theorem Happens.isAt_of_ne {stage? : Option Stage} (h : Happens rules state event state')
    (hbegun : number < state.begun) (hne : event.number? ≠ some number)
    (hat : IsAt state number request stage?) : IsAt state' number request stage? := by
  -- Whoever is under way after the step with that number was so before.
  have hsame : ∀ call : Call, call.number = number →
      (call ∈ state'.calls ↔ call ∈ state.calls) := by
    rintro call rfl
    cases h with
    | lookUp given | invalidate given =>
      have hnew : call.number ≠ state.begun := Nat.ne_of_lt hbegun
      have hother : ∀ stage, call ≠ ⟨state.begun, rules.canonical given, stage⟩ :=
        fun stage heq => hnew (congrArg Call.number heq)
      simp [hnew, hother]
    | peek given => rfl
    | @goOn stepped progress hstepped hstep =>
      have hnew : call.number ≠ stepped.number := by
        intro heq
        exact hne (heq ▸ hstep.number?)
      rw [State.mem_calls_advance]
      constructor
      · rintro (⟨hold, -⟩ | ⟨stage, -, rfl⟩)
        · exact hold
        · exact absurd rfl hnew
      · exact fun hold => .inl ⟨hold, hnew⟩
  -- Whether the call is under way and where is a matter of the calls with its number.
  cases stage? with
  | some stage => exact (hsame _ rfl).mpr hat
  | none => exact fun call hcall hnumber => hat call ((hsame call hnumber).mp hcall) hnumber

/-- A call that goes on is where its step leads. -/
theorem IsAt.advance {stage : Stage} :
    IsAt (state.advance ⟨number, request, stage⟩ progress) number request progress.stage := by
  cases hnext : progress.stage with
  | some next => exact State.mem_calls_advance.mpr (.inr ⟨next, hnext, rfl⟩)
  | none =>
    intro call hcall
    rcases State.mem_calls_advance.mp hcall with ⟨-, hne⟩ | ⟨next, hsome, -⟩
    · exact hne
    · cases hnext.symm.trans hsome

/-- An event of a call that has begun is that of a step of the call. -/
theorem Happens.exists_callStep (h : Happens rules state event state')
    (hbegun : number < state.begun) (hnumber : event.number? = some number) :
    ∃ call ∈ state.calls, call.number = number ∧ ∃ progress,
      CallStep rules state call call.stage progress ∧ progress.event = event ∧
        state' = state.advance call progress := by
  cases h with
  -- A new call has a number that no earlier one has.
  | lookUp given | invalidate given =>
    exact absurd (Option.some.inj hnumber) (Nat.ne_of_gt hbegun)
  | peek given => cases hnumber
  | @goOn call progress hcall hstep =>
    have heq : call.number = number := Option.some.inj (hstep.number?.symm.trans hnumber)
    exact ⟨call, hcall, heq, progress, hstep, rfl, rfl⟩

/-- No step takes back that a call has begun. -/
theorem Happens.begun_le (h : Happens rules state event state') : state.begun ≤ state'.begun := by
  cases h with
  | lookUp | invalidate => exact Nat.le_succ _
  | peek => exact Nat.le_refl _
  | goOn => rw [State.begun_advance]

theorem Leads.begun_le (h : Leads rules before events state) : before.begun ≤ state.begun := by
  induction h with
  | refl => exact Nat.le_refl _
  | next _ hstep ih => exact Nat.le_trans ih (happens_of_step hstep).begun_le

/-- A call that has begun stays where it is as long as nothing is told of it. -/
theorem Leads.isAt_of_ne {stage? : Option Stage} (h : Leads rules before events state)
    (hbegun : number < before.begun) (hat : IsAt before number request stage?)
    (hne : ∀ event ∈ events, event.number? ≠ some number) : IsAt state number request stage? := by
  -- On the steps: none of them tells of the call, so each leaves it where it is.
  induction h with
  | refl => exact hat
  | next hleads hstep ih =>
    have hstill := ih fun event hevent => hne event (List.mem_append_left _ hevent)
    exact (happens_of_step hstep).isAt_of_ne (Nat.lt_of_lt_of_le hbegun hleads.begun_le)
      (hne _ (by simp)) hstill

/-- What is so of a call where it is, and is kept by the steps of others and by its own, is so of it
wherever it comes to; and what is so of the events of its own steps is so of all that is told of it.
`total` is all that happens, of which only a beginning may be over. -/
theorem Leads.follow (hpast : Reaches rules past before) (told : Event → Prop)
    {total : List Event} {stage? : Option Stage} (hbegun : number < before.begun)
    (hat : IsAt before number request stage?) {motive : List Event → Option Stage → Prop}
    (hstart : motive [] stage?)
    (hkeep : ∀ {events state event state' stage?}, events ++ [event] <+: total →
      Reaches rules (past ++ events) state → IsAt state number request stage? →
      Happens rules state event state' → event.number? ≠ some number →
      motive events stage? → motive (events ++ [event]) stage?)
    (hstep : ∀ {events state stage progress}, events ++ [progress.event] <+: total →
      Reaches rules (past ++ events) state → ⟨number, request, stage⟩ ∈ state.calls →
      CallStep rules state ⟨number, request, stage⟩ stage progress → motive events (some stage) →
      told progress.event ∧ motive (events ++ [progress.event]) progress.stage)
    (h : Leads rules before events state) (htotal : events <+: total) :
    ∃ stage?, IsAt state number request stage? ∧
      (∀ event ∈ events, event.number? = some number → told event) ∧ motive events stage? := by
  -- The induction is on the run, whose part so far is a beginning of all of it.
  induction h with
  | refl => exact ⟨stage?, hat, by simp, hstart⟩
  | @next events state action transition hleads hnext ih =>
    obtain ⟨stage?, hstate, htold, hmotive⟩ := ih ((List.prefix_append _ _).trans htotal)
    have hbegunNow := Nat.lt_of_lt_of_le hbegun hleads.begun_le
    have hreaches := hpast.leads hleads
    have hhappens := happens_of_step hnext
    -- The new event may be about the call, and then it is that of its step.
    have htoldNow : (transition.event.number? = some number → told transition.event) →
        ∀ event ∈ events ++ [transition.event], event.number? = some number → told event := by
      intro hnew event hevent hnumber
      rcases List.mem_append.mp hevent with hold | hlast
      · exact htold event hold hnumber
      · obtain rfl := List.mem_singleton.mp hlast
        exact hnew hnumber
    by_cases hnumber : transition.event.number? = some number
    · obtain ⟨stepped, hstepped, rfl, progress, hcallStep, hevent, hstate'⟩ :=
        hhappens.exists_callStep hbegunNow hnumber
      cases stage? with
      | none => exact absurd rfl (hstate stepped hstepped)
      | some stage =>
        obtain ⟨number, request', stage'⟩ := stepped
        cases hreaches.numbered.eq_of_number _ hstepped _ hstate rfl
        rw [← hevent] at htotal htoldNow ⊢
        rw [hstate']
        obtain ⟨hnew, hmotive'⟩ := hstep htotal hreaches hstate hcallStep hmotive
        exact ⟨progress.stage, .advance, htoldNow fun _ => hnew, hmotive'⟩
    · exact ⟨stage?, hhappens.isAt_of_ne hbegunNow hnumber hstate,
        htoldNow fun heq => absurd heq hnumber,
        hkeep htotal hreaches hstate hhappens hnumber hmotive⟩

/-- Of a call that is over nothing more is told, and it does not come back. -/
theorem Leads.over (hpast : Reaches rules past before) (hbegun : number < before.begun)
    (hover : IsAt before number request none) (h : Leads rules before events state) :
    IsAt state number request none ∧ ∀ event ∈ events, event.number? ≠ some number := by
  -- A call that is over makes no step, so `follow` has nothing to keep but that.
  have hfollow : ∃ stage?, IsAt state number request stage? ∧
      (∀ event ∈ events, event.number? = some number → False) ∧ stage? = none := by
    refine h.follow hpast (fun _ => False) hbegun hover (motive := fun _ stage? => stage? = none)
      rfl ?keep ?step (List.prefix_refl events)
    case keep => exact fun _ _ _ _ _ ih => ih
    case step =>
      intro events state stage progress _ _ _ _ hnone
      cases hnone
  obtain ⟨stage?, hstate, htold, rfl⟩ := hfollow
  exact ⟨hstate, htold⟩

/-- A call that is under way and began before was not further along then. -/
theorem Leads.call_before (hpast : Reaches rules past before)
    (h : Leads rules before events state) (hcall : call ∈ state.calls)
    (hbegun : call.number < before.begun) :
    ∃ stage, ⟨call.number, call.request, stage⟩ ∈ before.calls ∧
      stage.position ≤ call.stage.position := by
  -- The call was under way before, or it never comes to be.
  by_cases hthere : ∃ earlier ∈ before.calls, earlier.number = call.number
  · obtain ⟨⟨number, request, stage⟩, hearlier, rfl⟩ := hthere
    have hat : IsAt before call.number request (some stage) := hearlier
    have hfollow : ∃ stage?, IsAt state call.number request stage? ∧
        (∀ event ∈ events, event.number? = some call.number → True) ∧
        ∀ next, stage? = some next → stage.position ≤ next.position := by
      refine h.follow hpast (fun _ => True) hbegun hat
        (motive := fun _ stage? => ∀ next, stage? = some next → stage.position ≤ next.position)
        (by simp) ?keep ?step (List.prefix_refl events)
      case keep => exact fun _ _ _ _ _ ih => ih
      case step =>
        intro events state passed progress _ _ _ hstep ih
        exact ⟨trivial, fun next hnext =>
          Nat.le_trans (ih passed rfl) (hstep.position.2 next hnext).1⟩
    obtain ⟨stage?, hstate, -, hposition⟩ := hfollow
    cases stage? with
    | none => exact absurd rfl (hstate call hcall)
    | some next =>
      have hsame := (hpast.leads h).numbered.eq_of_number call hcall _ hstate rfl
      rw [hsame]
      exact ⟨stage, hearlier, hposition next rfl⟩
  · -- Nobody comes back.
    have hover : IsAt before call.number call.request none :=
      fun earlier hearlier heq => hthere ⟨earlier, hearlier, heq⟩
    exact absurd rfl ((h.over hpast hbegun hover).1 call hcall)

/-- A call that is still under way is for the same request, and not less far along. -/
theorem Leads.position_le (hpast : Reaches rules past before)
    (h : Leads rules before events state) {earlier : Call} (hearlier : earlier ∈ before.calls)
    (hcall : call ∈ state.calls) (hnumber : call.number = earlier.number) :
    call.request = earlier.request ∧ earlier.stage.position ≤ call.stage.position := by
  have hbegun := hpast.numbered.number_lt earlier hearlier
  obtain ⟨stage, hbefore, hposition⟩ := h.call_before hpast hcall (hnumber ▸ hbegun)
  rw [← hpast.numbered.eq_of_number _ hbefore _ hearlier hnumber]
  exact ⟨rfl, hposition⟩

/-- A look-up that is over has ended. -/
theorem CallStep.ended_of_over {stage : Stage} (h : CallStep rules state call stage progress)
    (hlookUp : stage ≠ .removing) (hover : progress.stage = none) :
    ∃ ending, progress.event = .ended call.number ending := by
  cases h <;> cases hover <;> first | exact ⟨_, rfl⟩ | exact absurd rfl hlookUp

/-- A look-up that was under way still is, or it has ended. -/
theorem Leads.isAt_or_ended (hpast : Reaches rules past before)
    (h : Leads rules before events state) {stage : Stage}
    (hcall : ⟨number, request, stage⟩ ∈ before.calls)
    (hlookUp : stage ≠ .releasing ∧ stage ≠ .removing) :
    (∃ next, ⟨number, request, next⟩ ∈ state.calls) ∨ ∃ ending, .ended number ending ∈ events := by
  have hat : IsAt before number request (some stage) := hcall
  -- It is a look-up at every stage, until it ends.
  have hfollow : ∃ stage?, IsAt state number request stage? ∧
      (∀ event ∈ events, event.number? = some number → True) ∧
      match stage? with
      | some stage => stage ≠ .releasing ∧ stage ≠ .removing
      | none => ∃ ending, .ended number ending ∈ events := by
    refine h.follow hpast (fun _ => True) (hpast.numbered.number_lt _ hcall) hat
      (motive := fun events stage? =>
        match stage? with
        | some stage => stage ≠ .releasing ∧ stage ≠ .removing
        | none => ∃ ending, .ended number ending ∈ events)
      hlookUp ?keep ?step (List.prefix_refl events)
    case keep =>
      intro events state event state' stage? _ _ _ _ _ ih
      cases stage? with
      | some next => exact ih
      | none => exact ih.imp fun _ hended => List.mem_append_left _ hended
    case step =>
      intro events state passed progress _ _ _ hstep ih
      refine ⟨trivial, ?_⟩
      cases hnext : progress.stage with
      | some next =>
        -- Only an invalidation is about to remove something.
        refine ⟨?_, ?_⟩ <;> rintro rfl <;> cases hstep <;> cases hnext
        exact ih.1 rfl
      | none =>
        obtain ⟨ending, hended⟩ := hstep.ended_of_over ih.2 hnext
        exact ⟨ending, by simp [hended]⟩
  obtain ⟨stage?, hstate, -, hmotive⟩ := hfollow
  cases stage? with
  | some next => exact .inl ⟨next, hstate⟩
  | none => exact .inr hmotive

/-! ## Calls that go on -/

/-- A call goes on by itself, with the clock at an instant: it reads the clock, or does its next
step. -/
def Action.GoesOn (now : Instant) : Action → Prop
  | .read _ instant => instant = now
  | .proceed _ => True
  | .lookUp _ | .invalidate _ | .peek _ | .answer _ _ | .abandon _ => False

/-- A look-up can come to its end: calls go on by themselves, with the clock at an instant, until it
is over. -/
inductive CanEnd (rules : Rules) (now : Instant) (number : Nat) (ending : Ending) :
    State → Prop where
  | over {state : State} {action : Action} {transition : Transition} (hgoes : action.GoesOn now)
      (hstep : step rules state action = some transition)
      (hevent : transition.event = .ended number ending) : CanEnd rules now number ending state
  | goOn {state : State} {action : Action} {transition : Transition} (hgoes : action.GoesOn now)
      (hstep : step rules state action = some transition)
      (hrest : CanEnd rules now number ending transition.state) :
      CanEnd rules now number ending state

/-- A call is found under its number. -/
theorem Numbered.find?_eq (h : Numbered state) (hcall : call ∈ state.calls) :
    state.find? call.number = some call := by
  cases hfound : state.find? call.number with
  | none => simpa using List.find?_eq_none.mp hfound call hcall
  | some other =>
    have hnumber : other.number = call.number := by simpa using List.find?_some hfound
    rw [h.eq_of_number other (List.mem_of_find?_eq_some hfound) call hcall hnumber]

/-- What the next step of a call comes to is what the cache does. -/
theorem Numbered.stepCall_eq (h : Numbered state) (hcall : call ∈ state.calls)
    {next : Call → Option Progress} (hnext : next call = some progress) :
    stepCall state call.number next =
      some ⟨state.advance call progress, progress.event, progress.log⟩ := by
  rw [stepCall, h.find?_eq hcall, Option.bind_some, hnext, Option.map_some]

/-- The next step of a call that need not wait is one of the cache. -/
theorem Numbered.exists_step (h : Numbered state) (hcall : call ∈ state.calls) {now : Instant}
    (hgoOn : call.goOn? rules state now = some progress) :
    ∃ action log, action.GoesOn now ∧
      step rules state action = some ⟨state.advance call progress, progress.event, log⟩ := by
  unfold Call.goOn? at hgoOn
  split at hgoOn
  · exact ⟨.read call.number now, progress.log, rfl, h.stepCall_eq hcall hgoOn⟩
  · exact ⟨.proceed call.number, progress.log, trivial, h.stepCall_eq hcall hgoOn⟩

/-- What a call that need not wait does next is one of its steps. -/
theorem callStep_of_goOn? {now : Instant} (h : call.goOn? rules state now = some progress) :
    CallStep rules state call call.stage progress := by
  unfold Call.goOn? at h
  split at h
  · exact callStep_of_read h
  · exact callStep_of_proceed h

/-! ## One step of a call -/

private theorem Reaches.leads_stepCall (h : Reaches rules past state) {action : Action}
    {next : Call → Option Progress}
    (haction : step rules state action = stepCall state call.number next)
    (hcall : call ∈ state.calls) (hnext : next call = some progress) :
    Leads rules state [progress.event] (state.advance call progress) :=
  Leads.refl.next (haction.trans (h.numbered.stepCall_eq hcall hnext))

/-- A call does its next step. -/
theorem Reaches.leads_proceed (h : Reaches rules past state) (hcall : call ∈ state.calls)
    (hnext : call.proceed rules state = some progress) :
    Leads rules state [progress.event] (state.advance call progress) := by
  have haction : step rules state (.proceed call.number) =
      stepCall state call.number fun call => call.proceed rules state := rfl
  exact h.leads_stepCall haction hcall hnext

/-- A call reads the clock. -/
theorem Reaches.leads_read (h : Reaches rules past state) (hcall : call ∈ state.calls)
    {now : Instant} (hnext : call.read now = some progress) :
    Leads rules state [progress.event] (state.advance call progress) := by
  have haction : step rules state (.read call.number now) =
      stepCall state call.number fun call => call.read now := rfl
  exact h.leads_stepCall haction hcall hnext

/-- The fetch of a look-up ends. -/
theorem Reaches.leads_answer (h : Reaches rules past state) (hcall : call ∈ state.calls)
    {outcome : FetchEnd} (hnext : call.answer rules outcome = some progress) :
    Leads rules state [progress.event] (state.advance call progress) := by
  have haction : step rules state (.answer call.number outcome) =
      stepCall state call.number fun call => call.answer rules outcome := rfl
  exact h.leads_stepCall haction hcall hnext

end BearerCache.Cache
