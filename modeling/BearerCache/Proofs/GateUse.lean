import BearerCache.Proofs.Gates

/-! # Who a gate is up for

A look-up with a result takes the gate of its key down on its way out, unless someone holds it.
One that broke off behind its gate, or was given up while it waited, does not.  So a gate that
is up is in use, or such a look-up has left it behind.

## Key results

- `Raised`: gates are told apart by their numbers, with `Reaches.raised`
- `Reaches.inUse_or_leftBehind`: why a gate is up
- `Sample.gate_left_behind`: a gate is up when no call is under way
-/

namespace BearerCache.Cache

variable {rules : Rules} {state : State} {history past : List Event} {call : Call}
  {progress : Progress} {stage : Stage} {name : String} {key : EntryKey}

/-! ## Numbers of gates -/

/-- The numbers of gates that are up differ, and have been given out. -/
structure Raised (state : State) : Prop where
  gate_lt : ∀ name gate, state.gates.get? name = some gate → gate < state.nextGate
  eq_of_gate : ∀ name other gate, state.gates.get? name = some gate →
    state.gates.get? other = some gate → name = other

@[simp] theorem State.nextGate_advance :
    (state.advance call progress).nextGate = (state.apply call.key progress.effect).nextGate := by
  unfold State.advance
  split <;> rfl

private theorem Raised.raiseGate (h : Raised state) : Raised (state.raiseGate key) := by
  unfold State.raiseGate
  split
  next => exact h
  next hnone =>
    -- The new gate has a number that no other one has.
    have hnew (name : String) (hup : state.gates.get? name = some state.nextGate) : False :=
      Nat.lt_irrefl _ (h.gate_lt name _ hup)
    refine ⟨fun name gate hgate => ?_, fun name other gate hname hother => ?_⟩
    · rw [NameMap.get?_insert] at hgate
      split at hgate
      next => exact Option.some.inj hgate ▸ Nat.lt_succ_self _
      next => exact Nat.lt_succ_of_lt (h.gate_lt name gate hgate)
    · rw [NameMap.get?_insert] at hname hother
      -- At most one of the two names is the one whose gate is new.
      split at hname <;> split at hother
      next heq heq' => exact heq.trans heq'.symm
      next => exact (hnew other (Option.some.inj hname ▸ hother)).elim
      next => exact (hnew name (Option.some.inj hother ▸ hname)).elim
      next => exact h.eq_of_gate name other gate hname hother

/-- A gate that is up when others are taken down was up before. -/
theorem State.get?_gates_releaseGate {gate : Nat}
    (h : (state.releaseGate key).gates.get? name = some gate) :
    state.gates.get? name = some gate := by
  unfold State.releaseGate at h
  split at h
  next =>
    -- A gate is taken down or left as it is, so one that is up was up before.
    split at h
    next => exact h
    next =>
      rw [NameMap.get?_erase] at h
      split at h
      next => cases h
      next => exact h
  next => exact h

private theorem Raised.releaseGate (h : Raised state) : Raised (state.releaseGate key) := by
  -- Releasing a gate makes no new one.
  have hnext : (state.releaseGate key).nextGate = state.nextGate := by
    unfold State.releaseGate
    split
    · split <;> rfl
    · rfl
  refine ⟨fun name gate hgate => ?_, fun name other gate hname hother => ?_⟩
  · rw [hnext]
    exact h.gate_lt name gate (State.get?_gates_releaseGate hgate)
  · exact h.eq_of_gate name other gate (State.get?_gates_releaseGate hname)
      (State.get?_gates_releaseGate hother)

private theorem Raised.apply (h : Raised state) (key : EntryKey) (effect : Effect) :
    Raised (state.apply key effect) := by
  cases effect with
  | nothing | saves lease | removes => exact ⟨h.gate_lt, h.eq_of_gate⟩
  | raisesGate => exact h.raiseGate
  | releasesGate => exact h.releaseGate

/-- After every history the gates that are up have numbers of their own. -/
theorem Reaches.raised (h : Reaches rules history state) : Raised state := by
  -- Both parts are kept by every event, as only a step of a call touches the gates.
  refine h.invariant (motive := fun _ state => Raised state) ?_ ?_
  · exact ⟨by simp [State.initial], by simp [State.initial]⟩
  · intro past state event state' _ ih hstep
    cases hstep with
    | lookUp request | invalidate request | peek request => exact ⟨ih.gate_lt, ih.eq_of_gate⟩
    | @goOn call progress hcall hstep =>
      have happly := ih.apply call.key progress.effect
      refine ⟨fun name gate hgate => ?_, fun name other gate hname hother => ?_⟩
      · rw [State.nextGate_advance]
        exact happly.gate_lt name gate (State.gates_advance ▸ hgate)
      · exact happly.eq_of_gate name other gate (State.gates_advance ▸ hname)
          (State.gates_advance ▸ hother)

/-! ## Use of a gate -/

/-- Whether a look-up has come to its gate. -/
def Stage.usesGate : Stage → Bool
  | .closing _ => true
  | stage => stage.gate?.isSome

theorem Stage.usesGate_of_gate? {gate : Nat} (h : stage.gate? = some gate) : stage.usesGate := by
  cases stage <;> first | rfl | cases h

/-- A look-up that has come to its gate uses it until it is over. -/
theorem CallStep.usesGate (h : CallStep rules state call stage progress) (huses : stage.usesGate)
    {next : Stage} (hnext : progress.stage = some next) : next.usesGate := by
  cases h <;> cases hnext <;> first | rfl | cases huses

/-- A look-up that has come to its gate ends with a result, and takes the gate down unless someone
holds it, or it ends without one. -/
theorem CallStep.ended_of_usesGate (h : CallStep rules state call stage progress)
    (huses : stage.usesGate) (hover : progress.stage = none) :
    (stage.gate? = none ∧ progress.effect = .releasesGate) ∨
      progress.event = .ended call.number .broken ∨
      progress.event = .ended call.number .abandoned := by
  cases h <;> cases hover
  -- Before it has come to its gate it is not asked about.
  case lookBroken | lookHit | abandonFirst | remove => cases huses
  case partBroken => exact .inr (.inl rfl)
  case partAbandoned => exact .inr (.inr rfl)
  case close => exact .inl ⟨rfl, rfl⟩

/-- A look-up of a key that has come to its gate is under way. -/
def InUse (state : State) (name : String) : Prop :=
  ∃ call ∈ state.calls, call.key.text = name ∧ call.stage.usesGate

/-- A look-up of a key has broken off or has been given up. -/
def LeftBehind (rules : Rules) (history : List Event) (name : String) : Prop :=
  ∃ number given, .began number given ∈ history ∧ (rules.canonical given).key.text = name ∧
    (.ended number .broken ∈ history ∨ .ended number .abandoned ∈ history)

theorem LeftBehind.append (h : LeftBehind rules past name) (later : List Event) :
    LeftBehind rules (past ++ later) name := by
  obtain ⟨number, given, hbegan, hname, hended⟩ := h
  exact ⟨number, given, List.mem_append_left _ hbegan, hname,
    hended.imp (List.mem_append_left _) (List.mem_append_left _)⟩

/-- A look-up that has come to its gate has begun, with a request of which it has the canonical
form. -/
theorem Reaches.began_of_usesGate (h : Reaches rules history state) :
    ∀ call ∈ state.calls, call.stage.usesGate →
      ∃ given, .began call.number given ∈ history ∧ call.request = rules.canonical given := by
  -- A call that uses the gate has begun as a look-up; one that began as an invalidation never comes
  -- to use it.
  have hbegan := h.forall_calls
    (motive := fun history call => call.stage ≠ .releasing ∧ call.stage ≠ .removing →
      ∃ given, .began call.number given ∈ history ∧ call.request = rules.canonical given)
    ?lookUp ?invalidate ?keep ?step
  · intro call hcall huses
    refine hbegan call hcall ⟨?_, ?_⟩ <;>
    · intro hstage
      rw [hstage] at huses
      cases huses
  case lookUp =>
    intro past state _ request _
    exact ⟨request, List.mem_append_right _ (List.mem_singleton.mpr rfl), rfl⟩
  case invalidate =>
    intro past state _ request hstage
    exact absurd rfl hstage.1
  case keep =>
    intro past state event state' _ _ call _ _ ih hstage
    obtain ⟨given, hbegan, hrequest⟩ := ih hstage
    exact ⟨given, List.mem_append_left _ hbegan, hrequest⟩
  case step =>
    intro past state number request stage progress next _ _ ih hstep hnext hstage
    have hlookUp : stage ≠ .releasing ∧ stage ≠ .removing := by
      constructor
      -- No stage of a look-up leads to a removal, and none leads out of one.
      · rintro rfl
        cases hstep
        exact hstage.2 (Option.some.inj hnext).symm
      · rintro rfl
        cases hstep
        cases hnext
    obtain ⟨given, hbegan, hrequest⟩ := ih hlookUp
    exact ⟨given, List.mem_append_left _ hbegan, hrequest⟩

/-- A gate that is up after a step was up before, or the call that makes the step comes to it. -/
theorem CallStep.get?_gates (h : CallStep rules state call stage progress) {gate : Nat}
    (hup : (state.apply call.key progress.effect).gates.get? name = some gate) :
    state.gates.get? name = some gate ∨
      (name = call.key.text ∧ ∃ next, progress.stage = some next ∧ next.usesGate) := by
  -- Gates are put up by one effect only, and then the call goes on with that gate.
  cases heffect : progress.effect with
  | nothing | saves lease | removes =>
    rw [heffect] at hup
    exact .inl hup
  | releasesGate =>
    rw [heffect] at hup
    exact .inl (State.get?_gates_releaseGate hup)
  | raisesGate =>
    rw [heffect, State.apply, State.get?_gates_raiseGate] at hup
    split at hup
    next hname =>
      refine .inr ⟨hname, ?_⟩
      cases h <;> cases heffect
      exact ⟨_, rfl, rfl⟩
    next => exact .inl hup

/-- A gate that is still up when a call has let go of it is held. -/
theorem State.exists_holder_of_releaseGate {gate : Nat}
    (h : (state.releaseGate key).gates.get? key.text = some gate) :
    ∃ holder ∈ state.calls, holder.stage.gate? = some gate := by
  unfold State.releaseGate at h
  split at h
  next other hother =>
    -- It stayed up although it was to be taken down, so some call holds it.
    split at h
    next hheld =>
      rw [hother, Option.some.injEq] at h
      subst h
      simpa [State.isHeld] using hheld
    next =>
      rw [NameMap.get?_erase, if_pos rfl] at h
      cases h
  next hnone =>
    rw [hnone] at h
    cases h

/-- A gate that is in use stays in use while it is up, unless the look-up that uses it ends
without a result. -/
theorem InUse.advance (h : InUse state name) (hnumbered : Numbered state)
    (hgated : Gated state) (hraised : Raised state) (hcall : call ∈ state.calls)
    (hstep : CallStep rules state call call.stage progress) {gate : Nat}
    (hup : (state.apply call.key progress.effect).gates.get? name = some gate) :
    InUse (state.advance call progress) name ∨
      (call.key.text = name ∧ call.stage.usesGate ∧
        (progress.event = .ended call.number .broken ∨
          progress.event = .ended call.number .abandoned)) := by
  obtain ⟨user, huser, rfl, huses⟩ := h
  by_cases hne : user.number ≠ call.number
  · exact .inl ⟨user, State.mem_calls_advance.mpr (.inl ⟨huser, hne⟩), rfl, huses⟩
  -- The call that makes the step is the one that uses the gate.
  obtain rfl := hnumbered.eq_of_number user huser call hcall (Decidable.not_not.mp hne)
  -- A call that goes on uses the gate still; one that ends either takes it down or breaks off.
  cases hnext : progress.stage with
  | some next =>
    exact .inl ⟨{ user with stage := next },
      State.mem_calls_advance.mpr (.inr ⟨next, hnext, rfl⟩), rfl, hstep.usesGate huses hnext⟩
  | none =>
    rcases hstep.ended_of_usesGate huses hnext with ⟨hgate, heffect⟩ | hended
    · -- The gate is still up, so someone else holds it.
      rw [heffect] at hup
      obtain ⟨holder, hholder, hholds⟩ := State.exists_holder_of_releaseGate hup
      have hname : holder.key.text = user.key.text :=
        hraised.eq_of_gate _ _ gate (hgated.get?_gate holder hholder gate hholds)
          (State.get?_gates_releaseGate hup)
      have hother : holder.number ≠ user.number := by
        intro hnumber
        rw [hnumbered.eq_of_number holder hholder user huser hnumber, hgate] at hholds
        cases hholds
      exact .inl ⟨holder, State.mem_calls_advance.mpr (.inl ⟨hholder, hother⟩), hname,
        Stage.usesGate_of_gate? hholds⟩
    · exact .inr ⟨rfl, huses, hended⟩

/-- Whenever a gate is up, a look-up of its key has come to it and is under way, or one has broken
off or been given up.  So if that never happens, no gate is up when no look-up is under way. -/
theorem Reaches.inUse_or_leftBehind (h : Reaches rules history state) :
    ∀ name gate, state.gates.get? name = some gate →
      InUse state name ∨ LeftBehind rules history name := by
  -- On the events: what was in use stays in use unless the step at hand is its user's.
  refine h.invariant (motive := fun history state => ∀ name gate,
    state.gates.get? name = some gate → InUse state name ∨ LeftBehind rules history name) ?_ ?_
  · intro name gate hgate
    cases hgate
  intro past state event state' hpast ih hhappens name gate hup
  cases hhappens with
  | lookUp request | invalidate request =>
    refine (ih name gate hup).imp ?_ (LeftBehind.append · _)
    rintro ⟨user, huser, hname, huses⟩
    have hne : user.number ≠ state.begun := Nat.ne_of_lt (hpast.numbered.number_lt user huser)
    exact ⟨user, State.mem_calls_begin.mpr (.inl ⟨huser, hne⟩), hname, huses⟩
  | peek request => exact (ih name gate hup).imp id (LeftBehind.append · _)
  | @goOn call progress hcall hstep =>
    rw [State.gates_advance] at hup
    -- A gate that was not up before has been put up by the call that makes the step.
    rcases hstep.get?_gates hup with hbefore | ⟨rfl, next, hnext, huses⟩
    · rcases ih name gate hbefore with huse | hleft
      · rcases huse.advance hpast.numbered hpast.gated hpast.raised hcall hstep hup with
          hstill | ⟨rfl, huses, hended⟩
        · exact .inl hstill
        · -- It is left behind by the call that makes the step.
          obtain ⟨given, hbegan, hrequest⟩ := hpast.began_of_usesGate call hcall huses
          refine .inr ⟨call.number, given, List.mem_append_left _ hbegan, ?_, ?_⟩
          · rw [Call.key, hrequest]
          · refine hended.imp ?_ ?_ <;>
            · rintro hevent
              exact List.mem_append_right _ (List.mem_singleton.mpr hevent.symm)
      · exact .inr (hleft.append _)
    · exact .inl ⟨{ call with stage := next },
        State.mem_calls_advance.mpr (.inr ⟨next, hnext, rfl⟩), rfl, huses⟩

end BearerCache.Cache

namespace BearerCache.Cache.Sample

/-- A look-up comes to its gate and asks, its fetch breaks off, and it is over. -/
def breaking : List Action :=
  [.lookUp request, .read 0 zero, .proceed 0, .proceed 0, .proceed 0, .read 0 zero, .proceed 0,
    .read 0 zero, .answer 0 .broken, .proceed 0, .proceed 0]

/-- A gate can be up when no call is under way. -/
theorem gate_left_behind :
    ∃ history state, Reaches rules history state ∧ state.calls = [] ∧
      state.gates.get? request.key.text = some 0 := by
  have hreaches : ∀ history state, run rules [] .initial breaking = some (history, state) →
      Reaches rules history state := fun _ _ => Reaches.start.run
  exact ⟨_, _, hreaches _ _ rfl, rfl, by decide⟩

end BearerCache.Cache.Sample
