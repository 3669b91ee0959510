import BearerCache.Proofs.Steps

/-! # The story of one call

Out of a transcript the part of one call can be picked: its events with what they log.  It is told
by the steps of the call alone: `Story` starts with the beginning of the call and goes on by
`CallStep`, whatever the state of the cache is when a step is done.  So what a call has done and
logged by the time it is over is shown by induction over its story, and nothing has to be known of
other calls.

## Key results

- `Tells.invariant`: what holds at the start and is kept by every step holds always
- `Tells.stories`: what is told of a call leads to its stage, or to its end if it is over
-/

namespace BearerCache.Cache

variable {rules : Rules} {state : State} {told past : List Told} {entry : Told} {number : Nat}
  {stage : Stage}

/-- What holds of an empty cache, and is kept by every step and whatever others write, holds after
every transcript. -/
theorem Tells.invariant {motive : List Told → State → Prop} (hstart : motive [] .initial)
    (hforeign : ∀ {past state} store, motive past state → motive past { state with store := store })
    (hstep : ∀ {past state entry state'}, Tells rules past state → motive past state →
      Takes rules state entry state' → motive (past ++ [entry]) state')
    (h : Tells rules told state) : motive told state := by
  induction h with
  | start => exact hstart
  | foreign store hpast ih => exact hforeign store ih
  | next hpast hnext ih => exact hstep hpast ih (takes_of_step hnext)

/-! ## Stories -/

/-- What is told of a call. -/
def toldOf (number : Nat) (told : List Told) : List Told :=
  told.filter (·.event.number? == some number)

/-- A call with a number and for a request has told something and is now at a stage, or is over. -/
inductive Story (rules : Rules) (number : Nat) :
    TokenRequest → List Told → Option Stage → Prop where
  | lookUp (given : TokenRequest) :
    Story rules number (rules.canonical given)
      [⟨.began number given, [.span "get" (rules.canonical given).kind]⟩] (some .starting)
  | invalidate (given : TokenRequest) :
    Story rules number (rules.canonical given) [⟨.invalidating number given, []⟩]
      (some .releasing)
  | step {request : TokenRequest} {told : List Told} {stage : Stage} {progress : Progress}
      (state : State) (hstory : Story rules number request told (some stage))
      (hstep : CallStep rules state ⟨number, request, stage⟩ stage progress) :
    Story rules number request (told ++ [⟨progress.event, progress.log⟩]) progress.stage

theorem toldOf_append_of_eq (h : entry.event.number? = some number) :
    toldOf number (past ++ [entry]) = toldOf number past ++ [entry] := by
  simp [toldOf, h]

theorem toldOf_append_of_ne (h : entry.event.number? ≠ some number) :
    toldOf number (past ++ [entry]) = toldOf number past := by
  simp [toldOf, h]

/-! ## All that is told of a call is in its story -/

/-- The calls of a state and their stories in a transcript. -/
structure Stories (rules : Rules) (told : List Told) (state : State) : Prop where
  number_lt : ∀ call ∈ state.calls, call.number < state.begun
  /-- Nothing is told of a call that has not begun. -/
  unbegun : ∀ number, state.begun ≤ number → toldOf number told = []
  underWay : ∀ call ∈ state.calls,
    Story rules call.number call.request (toldOf call.number told) (some call.stage)
  finished : ∀ number, number < state.begun → (∀ call ∈ state.calls, call.number ≠ number) →
    ∃ request, Story rules number request (toldOf number told) none
  /-- What is no step of a call logs nothing. -/
  silent : ∀ entry ∈ told, entry.event.number? = none → entry.log = []

/-- Every call that has begun has a story. -/
theorem Stories.exists_story (h : Stories rules told state) (hlt : number < state.begun) :
    ∃ request ending, Story rules number request (toldOf number told) ending := by
  by_cases hcall : ∃ call ∈ state.calls, call.number = number
  · obtain ⟨call, hcall, rfl⟩ := hcall
    exact ⟨call.request, some call.stage, h.underWay call hcall⟩
  · obtain ⟨request, hstory⟩ := h.finished number hlt fun call hmem hnumber =>
      hcall ⟨call, hmem, hnumber⟩
    exact ⟨request, none, hstory⟩

/-- The calls that are told of have begun. -/
theorem Stories.number_lt_of_mem (h : Stories rules told state) (hentry : entry ∈ told)
    (hnumber : entry.event.number? = some number) : number < state.begun := by
  refine Nat.lt_of_not_le fun hle => ?_
  have hmem : entry ∈ toldOf number told := List.mem_filter.mpr ⟨hentry, by simp [hnumber]⟩
  rw [h.unbegun number hle] at hmem
  cases hmem

/-- A call that begins has the beginning of a story, and the others keep theirs. -/
private theorem Stories.begin (h : Stories rules told state) (given : TokenRequest)
    (hnumber : entry.event.number? = some state.begun)
    (hstory : Story rules state.begun (rules.canonical given) [entry] (some stage)) :
    Stories rules (told ++ [entry]) (state.begin (rules.canonical given) stage) where
  number_lt := by
    intro call hcall
    rcases State.mem_calls_begin.mp hcall with ⟨hold, -⟩ | rfl
    · exact Nat.lt_succ_of_lt (h.number_lt call hold)
    · exact Nat.lt_succ_self _
  unbegun := by
    intro number hle
    have hlt : state.begun < number := hle
    rw [toldOf_append_of_ne (by rw [hnumber]; simpa using Nat.ne_of_lt hlt)]
    exact h.unbegun number (Nat.le_of_lt hlt)
  underWay := by
    intro call hcall
    rcases State.mem_calls_begin.mp hcall with ⟨hold, hne⟩ | rfl
    · rw [toldOf_append_of_ne (by rw [hnumber]; simpa using hne.symm)]
      exact h.underWay call hold
    · rw [toldOf_append_of_eq hnumber, h.unbegun _ (Nat.le_refl _)]
      exact hstory
  finished := by
    intro number hlt hgone
    -- The new call is under way, so one that is over is an older one.
    have hne : number ≠ state.begun := by
      rintro rfl
      exact hgone _ (State.mem_calls_begin.mpr (.inr rfl)) rfl
    rw [toldOf_append_of_ne (by rw [hnumber]; simpa using hne.symm)]
    refine h.finished number (Nat.lt_of_le_of_ne (Nat.le_of_lt_succ hlt) hne) fun call hcall => ?_
    exact hgone call (State.mem_calls_begin.mpr
      (.inl ⟨hcall, Nat.ne_of_lt (h.number_lt call hcall)⟩))
  silent := by
    intro other hother hnone
    rcases List.mem_append.mp hother with hold | hnew
    · exact h.silent other hold hnone
    · rw [List.mem_singleton.mp hnew, hnumber] at hnone
      cases hnone

/-- A call that makes a step goes on with its story, and the others keep theirs. -/
private theorem Stories.advance (h : Stories rules told state) {call : Call} {progress : Progress}
    (hcall : call ∈ state.calls) (hstep : CallStep rules state call call.stage progress) :
    Stories rules (told ++ [⟨progress.event, progress.log⟩]) (state.advance call progress) where
  number_lt := by
    intro other hother
    rw [State.begun_advance]
    rcases State.mem_calls_advance.mp hother with ⟨hold, -⟩ | ⟨next, -, rfl⟩
    · exact h.number_lt other hold
    · exact h.number_lt call hcall
  unbegun := by
    intro number hle
    rw [State.begun_advance] at hle
    have hlt := Nat.lt_of_lt_of_le (h.number_lt call hcall) hle
    rw [toldOf_append_of_ne (by rw [hstep.number?]; simpa using Nat.ne_of_lt hlt)]
    exact h.unbegun number hle
  underWay := by
    intro other hother
    rcases State.mem_calls_advance.mp hother with ⟨hold, hne⟩ | ⟨next, hnext, rfl⟩
    · rw [toldOf_append_of_ne (by rw [hstep.number?]; simpa using hne.symm)]
      exact h.underWay other hold
    · rw [toldOf_append_of_eq hstep.number?, ← hnext]
      exact (h.underWay call hcall).step state hstep
  finished := by
    intro number hlt hgone
    rw [State.begun_advance] at hlt
    by_cases hnumber : call.number = number
    · -- It was the last step of the call.
      subst hnumber
      have hnone : progress.stage = none := by
        cases hnext : progress.stage with
        | none => rfl
        | some next =>
          have hmem : { call with stage := next } ∈ (state.advance call progress).calls :=
            State.mem_calls_advance.mpr (.inr ⟨next, hnext, rfl⟩)
          exact (hgone _ hmem rfl).elim
      rw [toldOf_append_of_eq hstep.number?, ← hnone]
      exact ⟨call.request, (h.underWay call hcall).step state hstep⟩
    -- Another call is over, and this step is none of its.
    · rw [toldOf_append_of_ne (by rw [hstep.number?]; simpa using hnumber)]
      refine h.finished number hlt fun other hother hsame => ?_
      exact hgone other (State.mem_calls_advance.mpr
        (.inl ⟨hother, fun heq => hnumber (heq.symm.trans hsame)⟩)) hsame
  silent := by
    intro other hother hnone
    rcases List.mem_append.mp hother with hold | hnew
    · exact h.silent other hold hnone
    · rw [List.mem_singleton.mp hnew, hstep.number?] at hnone
      cases hnone

/-- After every transcript all that is told of a call is in its story. -/
theorem Tells.stories (h : Tells rules told state) : Stories rules told state := by
  refine h.invariant (motive := Stories rules) ?_ ?_ ?_
  · exact ⟨by simp [State.initial], by simp [toldOf], by simp [State.initial],
      by simp [State.initial], by simp⟩
  · exact fun _ ih => ⟨ih.number_lt, ih.unbegun, ih.underWay, ih.finished, ih.silent⟩
  -- A look-up and an invalidation begin a story; a step goes on with one.
  · intro past state entry state' _ ih htakes
    cases htakes with
    | lookUp given => exact ih.begin given rfl (.lookUp given)
    | invalidate given => exact ih.begin given rfl (.invalidate given)
    | peek given =>
      -- It is no call.
      have hkept (number : Nat) : ∀ found, toldOf number (past ++ [⟨.peeked given found, []⟩]) =
          toldOf number past := fun found => toldOf_append_of_ne (by rintro ⟨⟩)
      refine ⟨ih.number_lt, by simpa only [hkept] using ih.unbegun,
        by simpa only [hkept] using ih.underWay, by simpa only [hkept] using ih.finished, ?_⟩
      intro other hother hnone
      rcases List.mem_append.mp hother with hold | hnew
      · exact ih.silent other hold hnone
      · rw [List.mem_singleton.mp hnew]
    | goOn hcall hstep => exact ih.advance hcall hstep

end BearerCache.Cache
