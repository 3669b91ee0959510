import BearerCache.Proofs.Steps

/-! # Gates keep look-ups of one key apart

A gate is taken down only when nobody holds it, and a look-up comes to a gate only through the
map.  So the gate that a look-up holds is always the one that is up for its key, all look-ups of
a key that hold a gate hold the same one, and at most one of them is behind it.

## Key results

- `Numbered`: calls are told apart by their numbers
- `Gated`: the invariant, with `ReachesShared.gated`
- `Gated.eq_of_isBehind`: at most one look-up of a key is behind a gate
-/

namespace BearerCache.Cache

variable {rules : Rules} {state : State} {call : Call} {stage : Stage} {progress : Progress}

/-! ## Numbers of calls -/

/-- The numbers of calls that are not over differ, and have been given out. -/
structure Numbered (state : State) : Prop where
  number_lt : ∀ call ∈ state.calls, call.number < state.begun
  eq_of_number : ∀ a ∈ state.calls, ∀ b ∈ state.calls, a.number = b.number → a = b

private theorem Numbered.begin (h : Numbered state) (request : TokenRequest) (stage : Stage) :
    Numbered (state.begin request stage) where
  number_lt := by
    intro a ha
    rcases State.mem_calls_begin.mp ha with ⟨ha, -⟩ | rfl
    · exact Nat.lt_succ_of_lt (h.number_lt a ha)
    · exact Nat.lt_succ_self _
  eq_of_number := by
    intro a ha b hb hab
    -- The new call is the one that has the first number that is free, so it shares it with no
    -- other.
    rcases State.mem_calls_begin.mp ha with ⟨ha, hane⟩ | rfl <;>
      rcases State.mem_calls_begin.mp hb with ⟨hb, hbne⟩ | rfl
    · exact h.eq_of_number a ha b hb hab
    · exact absurd hab hane
    · exact absurd hab.symm hbne
    · rfl

private theorem Numbered.advance (h : Numbered state) (hcall : call ∈ state.calls) :
    Numbered (state.advance call progress) where
  number_lt := by
    intro a ha
    rw [State.begun_advance]
    rcases State.mem_calls_advance.mp ha with ⟨ha, -⟩ | ⟨stage, -, rfl⟩
    · exact h.number_lt a ha
    · -- The call keeps its number.
      exact h.number_lt call hcall
  eq_of_number := by
    intro a ha b hb hab
    -- A step adds no call: what is there afterwards was there before or is the call that made it.
    rcases State.mem_calls_advance.mp ha with ⟨ha, hane⟩ | ⟨s, hs, rfl⟩ <;>
      rcases State.mem_calls_advance.mp hb with ⟨hb, hbne⟩ | ⟨t, ht, rfl⟩
    · exact h.eq_of_number a ha b hb hab
    · exact absurd hab hane
    · exact absurd hab.symm hbne
    · rw [Option.some.inj (hs.symm.trans ht)]

/-- After every history the calls that are not over have numbers of their own. -/
theorem ReachesShared.numbered {history : List Event} (h : ReachesShared rules history state) :
    Numbered state := by
  -- Only the start of a call takes a number, which is the next one.
  refine h.invariant (motive := fun _ state => Numbered state) ?_ ?_ ?_
  · exact ⟨by simp [State.initial], by simp [State.initial]⟩
  · exact fun _ ih => ⟨ih.number_lt, ih.eq_of_number⟩
  · intro past state event state' _ ih hstep
    cases hstep with
    | lookUp request => exact ih.begin _ _
    | invalidate request => exact ih.begin _ _
    | peek request => exact ih
    | goOn hcall hstep => exact ih.advance hcall

theorem Reaches.numbered {history : List Event} (h : Reaches rules history state) :
    Numbered state :=
  h.shared.numbered

/-! ## Holding a gate -/

/-- The gate of a look-up is the one that is up for its key, and two look-ups behind one gate are
one. -/
structure Gated (state : State) : Prop where
  get?_gate : ∀ call ∈ state.calls, ∀ gate, call.stage.gate? = some gate →
    state.gates.get? call.key.text = some gate
  eq_of_gate : ∀ a ∈ state.calls, ∀ b ∈ state.calls, a.stage.gate? = b.stage.gate? →
    a.stage.isBehind → b.stage.isBehind → a = b

/-- All look-ups of a key that hold a gate hold the same. -/
theorem Gated.gate_unique (h : Gated state) {a b : Call} (ha : a ∈ state.calls)
    (hb : b ∈ state.calls) (hkey : a.key = b.key) {g g' : Nat} (hg : a.stage.gate? = some g)
    (hg' : b.stage.gate? = some g') : g = g' := by
  have hup := h.get?_gate a ha g hg
  rw [hkey, h.get?_gate b hb g' hg'] at hup
  exact (Option.some.inj hup).symm

/-- Whoever is behind a gate holds it. -/
theorem Stage.gate?_of_isBehind (h : stage.isBehind) : ∃ gate, stage.gate? = some gate := by
  cases stage <;> simp_all [Stage.isBehind, Stage.gate?]

/-- At most one look-up of a key is behind a gate. -/
theorem Gated.eq_of_isBehind (h : Gated state) {a b : Call} (ha : a ∈ state.calls)
    (hb : b ∈ state.calls) (hkey : a.key = b.key) (hab : a.stage.isBehind)
    (hbb : b.stage.isBehind) : a = b := by
  obtain ⟨g, hg⟩ := Stage.gate?_of_isBehind hab
  obtain ⟨g', hg'⟩ := Stage.gate?_of_isBehind hbb
  have heq := h.gate_unique ha hb hkey hg hg'
  exact h.eq_of_gate a ha b hb (by rw [hg, hg', heq]) hab hbb

/-- A look-up that fetches is behind its gate. -/
theorem Stage.isBehind_of_isFetching (h : stage.isFetching) : stage.isBehind := by
  cases stage <;> simp_all [Stage.isBehind, Stage.isFetching]

/-! ## What a step does to gates -/

/-- The gate that a step leaves a call with is the one that it held, or that of its key. -/
theorem CallStep.gate (h : CallStep rules state call stage progress) {next : Stage} {gate : Nat}
    (hnext : progress.stage = some next) (hgate : next.gate? = some gate) :
    stage.gate? = some gate ∨
      (progress.effect = .raisesGate ∧ gate = state.gateOf call.key) := by
  cases h <;> cases hnext
  case arrive => exact .inr ⟨rfl, (Option.some.inj hgate).symm⟩
  case part => cases hgate
  all_goals exact .inl hgate

/-- A call that a step leaves behind a gate was behind it, or nobody was. -/
theorem CallStep.behind (h : CallStep rules state call stage progress) {next : Stage}
    (hnext : progress.stage = some next) (hbehind : next.isBehind) :
    (stage.isBehind ∧ next.gate? = stage.gate?) ∨
      ∃ gate, next.gate? = some gate ∧ state.isTaken gate = false := by
  cases h <;> cases hnext
  case enter hfree => exact .inr ⟨_, rfl, hfree⟩
  case arrive | leave | part => cases hbehind
  all_goals exact .inl ⟨hbehind, rfl⟩

/-- A gate that a call holds stays up whatever another call does. -/
theorem Gated.get?_gates_apply (h : Gated state) (hcall : call ∈ state.calls) {gate : Nat}
    (hgate : call.stage.gate? = some gate) (key : EntryKey) (effect : Effect) :
    (state.apply key effect).gates.get? call.key.text = some gate := by
  have hup := h.get?_gate call hcall gate hgate
  -- Only the gate of this key can be taken down, and only when nobody holds it.
  cases effect with
  | nothing | saves lease | removes => exact hup
  | raisesGate =>
    rw [State.apply, State.get?_gates_raiseGate]
    split
    next hname => rw [State.gateOf, ← hname, hup, Option.getD_some]
    next => exact hup
  | releasesGate =>
    simp only [State.apply, State.releaseGate]
    split
    next other hother =>
      split
      next => exact hup
      next hheld =>
        rw [NameMap.get?_erase, if_neg]
        · exact hup
        · -- Were it the gate of the key, it would not have been taken down.
          intro hname
          rw [hname, hother] at hup
          have hfree := State.isHeld_eq_false_iff.mp (Bool.eq_false_iff.mpr hheld) call hcall
          exact hfree (hup ▸ hgate)
    next => exact hup

private theorem Gated.begin (h : Gated state) (request : TokenRequest) {stage : Stage}
    (hgate : stage.gate? = none) : Gated (state.begin request stage) where
  get?_gate := by
    intro a ha gate hg
    rcases State.mem_calls_begin.mp ha with ⟨ha, -⟩ | rfl
    · exact h.get?_gate a ha gate hg
    · rw [hgate] at hg
      cases hg
  eq_of_gate := by
    intro a ha b hb hgates hab hbb
    -- A new call holds no gate, so it is not behind one.
    rcases State.mem_calls_begin.mp ha with ⟨ha, -⟩ | rfl <;>
      rcases State.mem_calls_begin.mp hb with ⟨hb, -⟩ | rfl
    · exact h.eq_of_gate a ha b hb hgates hab hbb
    · obtain ⟨gate, hg⟩ := Stage.gate?_of_isBehind hbb
      cases hgate.symm.trans hg
    · obtain ⟨gate, hg⟩ := Stage.gate?_of_isBehind hab
      cases hgate.symm.trans hg
    · rfl

/-- A call that has just made a step is behind a gate only if nobody else is. -/
private theorem Gated.alone (h : Gated state) (hcall : call ∈ state.calls)
    (hstep : CallStep rules state call call.stage progress) {next : Stage}
    (hnext : progress.stage = some next) (hbehind : next.isBehind) {other : Call}
    (hother : other ∈ state.calls) (hgates : other.stage.gate? = next.gate?)
    (hob : other.stage.isBehind) : other = call := by
  rcases hstep.behind hnext hbehind with ⟨hwas, hsame⟩ | ⟨gate, hgate, hfree⟩
  · -- It was behind the gate before.
    exact h.eq_of_gate other hother call hcall (hgates.trans hsame) hob hwas
  · -- It has just entered, which it can only when nobody is there.
    have hnone := State.isTaken_eq_false_iff.mp hfree other hother (hgates.trans hgate)
    cases hnone.symm.trans hob

private theorem Gated.advance (h : Gated state) (hcall : call ∈ state.calls)
    (hstep : CallStep rules state call call.stage progress) :
    Gated (state.advance call progress) where
  get?_gate := by
    intro a ha gate hg
    rw [State.gates_advance]
    -- A step lets at most one call behind a gate, the one that makes it.
    rcases State.mem_calls_advance.mp ha with ⟨ha, -⟩ | ⟨next, hnext, rfl⟩
    · exact h.get?_gates_apply ha hg _ _
    · -- The gate that the call holds is the one that it held, or the one that it has put up.
      rcases hstep.gate hnext hg with hheld | ⟨heffect, rfl⟩
      · exact h.get?_gates_apply hcall hheld _ _
      · rw [heffect, State.apply, State.get?_gates_raiseGate]
        exact if_pos rfl
  eq_of_gate := by
    intro a ha b hb hgates hab hbb
    rcases State.mem_calls_advance.mp ha with ⟨ha, hane⟩ | ⟨s, hs, rfl⟩ <;>
      rcases State.mem_calls_advance.mp hb with ⟨hb, hbne⟩ | ⟨t, ht, rfl⟩
    · exact h.eq_of_gate a ha b hb hgates hab hbb
    · exact absurd (congrArg Call.number (h.alone hcall hstep ht hbb ha hgates hab)) hane
    · exact absurd (congrArg Call.number (h.alone hcall hstep hs hab hb hgates.symm hbb)) hbne
    · rw [Option.some.inj (hs.symm.trans ht)]

/-- After every history the gates are as they should be, whatever is in the store. -/
theorem ReachesShared.gated {history : List Event} (h : ReachesShared rules history state) :
    Gated state := by
  -- A call has a gate only behind its miss, and then that of its key.
  refine h.invariant (motive := fun _ state => Gated state) ?_ ?_ ?_
  · exact ⟨by simp [State.initial], by simp [State.initial]⟩
  · exact fun _ ih => ⟨ih.get?_gate, ih.eq_of_gate⟩
  · intro past state event state' _ ih hstep
    cases hstep with
    | lookUp request => exact ih.begin _ rfl
    | invalidate request => exact ih.begin _ rfl
    | peek request => exact ih
    | goOn hcall hstep => exact ih.advance hcall hstep

theorem Reaches.gated {history : List Event} (h : Reaches rules history state) : Gated state :=
  h.shared.gated

end BearerCache.Cache
