import BearerCache.Proofs.Accounting

/-! # Tokens do not reach the log

Two runs of a cache that differ in their tokens only cannot be told apart by their logs.  While the
runs go on side by side their states stay alike: the same calls are at the same stages, and the
same keys have leases of the same times.  A step can look at a token at one point only, where a
look-up judges when its token expires; there the tokens have to come to the same verdict.

What the log does hold is known as well: an entry names nothing but the kind of a canonical
request, the fingerprint of its key, and the wording of a failure.

## Key results

- `step_alike`: from states that are alike the same actions lead to states that are alike, and log
  the same
- `tellAll_alike`: so do the same runs
- `Story.isFrom`: what the entries of a look-up are made from
- `log_hides_tokens`: both, for all runs
-/

namespace BearerCache.Cache

variable {rules : Rules} {told : List Told} {number : Nat} {request : TokenRequest}

/-! ## What is alike -/

/-- What a reading of the clock says of a token: when it expires, or how it is told that it will
not do. -/
def verdict (token : Secret) (now : Instant) : Except String Instant :=
  (Expiry.ofLiveToken token.expose now).mapError ExpiryFault.message

/-- Two runs are carried out by the same actions, but for tokens that come to the same verdicts. -/
inductive SameButTokens : List Action → List Action → Prop where
  | nil : SameButTokens [] []
  | same (action : Action) {rest rest' : List Action} (hrest : SameButTokens rest rest') :
    SameButTokens (action :: rest) (action :: rest')
  /-- A look-up that still has to read the clock judges its token by it. -/
  | token {number : Nat} {token token' : Secret} {rest rest' : List Action}
      (hverdict : ∀ now, .read number now ∈ rest → verdict token now = verdict token' now)
      (hrest : SameButTokens rest rest') :
    SameButTokens (.answer number (.token token) :: rest) (.answer number (.token token') :: rest')

/-- Two leases differ in their tokens at most. -/
structure LeasesAlike (a b : Lease) : Prop where
  issuedAt : a.issuedAt = b.issuedAt
  expiresAt : a.expiresAt = b.expiresAt

/-- Two endings differ in their tokens at most, or are failures of the same wording. -/
inductive EndingsAlike : Ending → Ending → Prop where
  | same (ending : Ending) : EndingsAlike ending ending
  | lease {a b : Lease} (h : LeasesAlike a b) :
    EndingsAlike (.result (.ok a)) (.result (.ok b))
  | failure {a b : Failure} (h : a.message = b.message) :
    EndingsAlike (.result (.error a)) (.result (.error b))

/-- Two stages differ in their tokens at most, which come to the same verdicts on some readings of
the clock. -/
inductive StagesAlike (reads : Instant → Prop) : Stage → Stage → Prop where
  | same (stage : Stage) : StagesAlike reads stage stage
  | judging {gate : Nat} {askedAt : Instant} {token token' : Secret}
      (hverdict : ∀ now, reads now → verdict token now = verdict token' now) :
    StagesAlike reads (.judging gate askedAt token) (.judging gate askedAt token')
  | storing {gate : Nat} {a b : Lease} (h : LeasesAlike a b) :
    StagesAlike reads (.storing gate a) (.storing gate b)
  | leaving {gate : Nat} {a b : Ending} (h : EndingsAlike a b) :
    StagesAlike reads (.leaving gate a) (.leaving gate b)
  | parting {gate : Nat} {a b : Ending} (h : EndingsAlike a b) :
    StagesAlike reads (.parting gate a) (.parting gate b)
  | closing {a b : Except Failure Lease} (h : EndingsAlike (.result a) (.result b)) :
    StagesAlike reads (.closing a) (.closing b)

/-- Two calls that still have to do some actions differ in their tokens at most. -/
structure CallsAlike (rest : List Action) (a b : Call) : Prop where
  number : a.number = b.number
  request : a.request = b.request
  stage : StagesAlike (fun now => .read a.number now ∈ rest) a.stage b.stage

/-- Two states from which some actions still have to be done differ in their tokens at most. -/
structure StatesAlike (rest : List Action) (a b : State) : Prop where
  store : ∀ key, Option.Rel LeasesAlike (a.store.fetch? key) (b.store.fetch? key)
  gates : a.gates = b.gates
  nextGate : a.nextGate = b.nextGate
  calls : List.Forall₂ (CallsAlike rest) a.calls b.calls
  begun : a.begun = b.begun

/-- Two effects differ in their tokens at most. -/
inductive EffectsAlike : Effect → Effect → Prop where
  | same (effect : Effect) : EffectsAlike effect effect
  | saves {a b : Lease} (h : LeasesAlike a b) : EffectsAlike (.saves a) (.saves b)

/-- Two steps of a call differ in their tokens at most, and log the same. -/
structure ProgressAlike (reads : Instant → Prop) (a b : Progress) : Prop where
  stage : Option.Rel (StagesAlike reads) a.stage b.stage
  effect : EffectsAlike a.effect b.effect
  log : a.log = b.log

/-- Two transitions lead to states that differ in their tokens at most, and log the same. -/
structure TransitionsAlike (rest : List Action) (a b : Transition) : Prop where
  state : StatesAlike rest a.state b.state
  log : a.log = b.log

/-! ## What is the same of what is alike -/

variable {rest : List Action} {a b : State} {call call' : Call} {reads : Instant → Prop}
  {progress progress' : Progress} {action : Action}

theorem LeasesAlike.refl (lease : Lease) : LeasesAlike lease lease :=
  ⟨rfl, rfl⟩

theorem option_rel_refl {α : Type} {r : α → α → Prop} (hrefl : ∀ a, r a a) (a : Option α) :
    Option.Rel r a a := by
  cases a with
  | none => exact .none
  | some a => exact .some (hrefl a)

theorem option_rel_map {α β α' β' : Type} {r : α → β → Prop} {r' : α' → β' → Prop} {a : Option α}
    {b : Option β} {f : α → α'} {g : β → β'} (h : Option.Rel r a b)
    (hfg : ∀ a b, r a b → r' (f a) (g b)) : Option.Rel r' (a.map f) (b.map g) := by
  cases h with
  | none => exact .none
  | some hab => exact .some (hfg _ _ hab)

theorem option_rel_bind {α β α' β' : Type} {r : α → β → Prop} {r' : α' → β' → Prop} {a : Option α}
    {b : Option β} {f : α → Option α'} {g : β → Option β'} (h : Option.Rel r a b)
    (hfg : ∀ a b, r a b → Option.Rel r' (f a) (g b)) : Option.Rel r' (a.bind f) (b.bind g) := by
  cases h with
  | none => exact .none
  | some hab => exact hfg _ _ hab

theorem ProgressAlike.refl (progress : Progress) : ProgressAlike reads progress progress :=
  ⟨option_rel_refl .same _, .same _, rfl⟩

/-- Every state is like itself. -/
theorem StatesAlike.refl (state : State) : StatesAlike rest state state where
  store := fun _ => option_rel_refl .refl _
  gates := rfl
  nextGate := rfl
  calls := List.forall₂_same.mpr fun _ _ => ⟨rfl, rfl, .same _⟩
  begun := rfl

/-- Stages that are alike are at the same gate. -/
theorem StagesAlike.gate? {stage stage' : Stage} (h : StagesAlike reads stage stage') :
    stage.gate? = stage'.gate? := by
  cases h <;> rfl

/-- Stages that are alike are on the same side of the gate. -/
theorem StagesAlike.isBehind {stage stage' : Stage} (h : StagesAlike reads stage stage') :
    stage.isBehind = stage'.isBehind := by
  cases h <;> rfl

/-- The fewer readings are to come, the more stages are alike. -/
theorem StagesAlike.mono {stage stage' : Stage} {fewer : Instant → Prop}
    (h : StagesAlike reads stage stage') (hle : ∀ now, fewer now → reads now) :
    StagesAlike fewer stage stage' := by
  cases h with
  | same => exact .same _
  | judging hverdict => exact .judging fun now hnow => hverdict now (hle now hnow)
  | storing h => exact .storing h
  | leaving h => exact .leaving h
  | parting h => exact .parting h
  | closing h => exact .closing h

/-- The first action is done. -/
theorem StatesAlike.tail (h : StatesAlike (action :: rest) a b) :
    StatesAlike rest a b where
  store := h.store
  gates := h.gates
  nextGate := h.nextGate
  calls := h.calls.imp fun _ _ hcall =>
    ⟨hcall.number, hcall.request, hcall.stage.mono fun _ => List.mem_cons_of_mem _⟩
  begun := h.begun

/-- In states that are alike the same call is found. -/
theorem StatesAlike.find? (h : StatesAlike rest a b) (number : Nat) :
    Option.Rel (fun call call' => call.number = number ∧ CallsAlike rest call call')
      (a.find? number) (b.find? number) := by
  have hcalls := h.calls
  unfold State.find?
  generalize a.calls = calls at hcalls ⊢
  generalize b.calls = calls' at hcalls ⊢
  -- The calls of the two states are alike one by one and have the same numbers.
  induction hcalls with
  | nil => exact .none
  | @cons call call' _ _ hcall _ ih =>
    by_cases hnumber : call.number = number
    · rw [List.find?_cons_of_pos (by simp [hnumber]),
        List.find?_cons_of_pos (by simp [← hcall.number, hnumber])]
      exact .some ⟨hnumber, hcall⟩
    · simpa [← hcall.number, hnumber] using ih

/-- Of calls that are alike the same is true, if it only depends on what they have in common. -/
theorem StatesAlike.any_calls (h : StatesAlike rest a b) {p : Call → Bool}
    (hp : ∀ {call call'}, CallsAlike rest call call' → p call = p call') :
    a.calls.any p = b.calls.any p := by
  have hcalls := h.calls
  generalize a.calls = calls at hcalls ⊢
  generalize b.calls = calls' at hcalls ⊢
  -- On the calls of the two states, which are alike in pairs.
  induction hcalls with
  | nil => rfl
  | cons hcall _ ih => rw [List.any_cons, List.any_cons, hp hcall, ih]

theorem StatesAlike.isTaken (h : StatesAlike rest a b) (gate : Nat) :
    a.isTaken gate = b.isTaken gate :=
  h.any_calls fun hcall => by rw [hcall.stage.gate?, hcall.stage.isBehind]

theorem StatesAlike.isHeld (h : StatesAlike rest a b) (gate : Nat) :
    a.isHeld gate = b.isHeld gate :=
  h.any_calls fun hcall => by rw [hcall.stage.gate?]

/-- In states that are alike the same leases are fresh. -/
theorem StatesAlike.freshLease? (h : StatesAlike rest a b) (key : EntryKey) (margin : Span)
    (now : Instant) :
    Option.Rel (Option.Rel LeasesAlike) (a.freshLease? key margin now)
      (b.freshLease? key margin now) := by
  have hstore := h.store key
  unfold State.freshLease?
  generalize a.store.fetch? key = found at hstore ⊢
  generalize b.store.fetch? key = found' at hstore ⊢
  cases hstore with
  | none => exact .some .none
  | @some lease other hlike =>
    -- Whether a lease is fresh does not depend on its token.
    have hfresh : other.isFreshAt? now margin = lease.isFreshAt? now margin := by
      rw [Lease.isFreshAt?, Lease.isFreshAt?, hlike.expiresAt]
    simp only [hfresh]
    have hrefl : Option.Rel (· = ·) (lease.isFreshAt? now margin) (lease.isFreshAt? now margin) :=
      option_rel_refl (fun _ => rfl) _
    refine option_rel_map hrefl fun isFresh _ hsame => ?_
    cases hsame
    cases isFresh with
    | false => exact .none
    | true => exact .some hlike

/-! ## Steps of calls -/

/-- Failures of the same wording are logged alike, and so are their calls. -/
theorem ProgressAlike.fail (hrequest : call.request = call'.request) {gate : Nat}
    {failure failure' : Failure} {event event' : Event}
    (hmessage : failure.message = failure'.message) :
    ProgressAlike reads (call.fail gate failure event) (call'.fail gate failure' event') where
  stage := .some (.leaving (.failure hmessage))
  effect := .same _
  log := by simp only [Call.fail, outcomeLog, Option.map_some, hrequest, hmessage]

/-- What calls that are alike read leads them to the same, if it is the same verdict. -/
theorem CallsAlike.read {now : Instant}
    (h : CallsAlike (.read call.number now :: rest) call call') :
    Option.Rel (ProgressAlike fun now => .read call.number now ∈ rest)
      (call.read now) (call'.read now) := by
  obtain ⟨number, request, stage⟩ := call
  obtain ⟨number', request', stage'⟩ := call'
  obtain ⟨rfl, rfl, hstage⟩ := h
  -- At most stages the two calls are the same; where they differ a token is still to be judged, and
  -- both judgements are the same by assumption.
  cases hstage with
  | same => exact option_rel_refl ProgressAlike.refl _
  | storing | leaving | parting | closing => exact .none
  | @judging gate askedAt token token' hverdict =>
    have hsame := hverdict now List.mem_cons_self
    simp only [Call.read]
    simp only [verdict] at hsame
    cases hlive : Expiry.ofLiveToken token.expose now with
    | ok expiresAt =>
      cases hlive' : Expiry.ofLiveToken token'.expose now with
      | error fault' => simp [hlive, hlive', Except.mapError] at hsame
      | ok expiresAt' =>
        rw [hlive, hlive'] at hsame
        cases hsame
        exact .some ⟨.some (.storing ⟨rfl, rfl⟩), .same _, rfl⟩
    | error fault =>
      cases hlive' : Expiry.ofLiveToken token'.expose now with
      | ok expiresAt' => simp [hlive, hlive', Except.mapError] at hsame
      | error fault' =>
        rw [hlive, hlive'] at hsame
        exact .some (.fail rfl (Except.error.inj hsame))

/-- What calls that are alike do next leads them to the same. -/
theorem CallsAlike.proceed (h : CallsAlike rest call call') (hstates : StatesAlike rest a b) :
    Option.Rel (ProgressAlike reads) (call.proceed rules a) (call'.proceed rules b) := by
  obtain ⟨number, request, stage⟩ := call
  obtain ⟨number', request', stage'⟩ := call'
  obtain ⟨rfl, rfl, hstage⟩ := h
  -- A stage that carries a lease or an ending goes on in one way, whatever it carries.
  cases hstage with
  | judging => exact .none
  | storing hlease => exact .some ⟨.some (.leaving (.lease hlease)), .saves hlease, rfl⟩
  | leaving hending => exact .some ⟨.some (.parting hending), .same _, rfl⟩
  | @parting gate ending _ hending =>
    cases hending with
    | same => cases ending <;> exact option_rel_refl ProgressAlike.refl _
    | lease hlease => exact .some ⟨.some (.closing (.lease hlease)), .same _, rfl⟩
    | failure hmessage => exact .some ⟨.some (.closing (.failure hmessage)), .same _, rfl⟩
  | closing => exact .some ⟨.none, .same _, rfl⟩
  | same =>
    -- At these stages a step depends on the state.
    cases stage with
    | looking now =>
      have hfresh := hstates.freshLease? request.key rules.margin now
      simp only [Call.proceed, Call.key]
      generalize a.freshLease? request.key rules.margin now = found at hfresh
      generalize b.freshLease? request.key rules.margin now = found' at hfresh
      rcases hfresh with ⟨hlike | _⟩ | _
      · exact .some ⟨.none, .same _, rfl⟩
      · exact .some (ProgressAlike.refl _)
      · exact .some (ProgressAlike.refl _)
    | checking gate now =>
      have hfresh := hstates.freshLease? request.key rules.margin now
      simp only [Call.proceed, Call.key]
      generalize a.freshLease? request.key rules.margin now = found at hfresh
      generalize b.freshLease? request.key rules.margin now = found' at hfresh
      rcases hfresh with ⟨hlike | _⟩ | _
      · exact .some ⟨.some (.leaving (.lease hlike)), .same _, rfl⟩
      · exact .some (ProgressAlike.refl _)
      · exact .some (ProgressAlike.refl _)
    | arriving =>
      simp only [Call.proceed, State.gateOf, hstates.gates, hstates.nextGate]
      exact .some (.refl _)
    | queued gate =>
      simp only [Call.proceed, hstates.isTaken gate]
      exact option_rel_refl ProgressAlike.refl _
    | removing => exact .some ⟨.none, .same _, rfl⟩
    | parting gate ending => cases ending <;> exact option_rel_refl ProgressAlike.refl _
    | starting | entering | asking | fetching | judging | storing | leaving | closing
    | releasing => exact option_rel_refl ProgressAlike.refl _

/-- Calls that are alike are given up alike. -/
theorem CallsAlike.abandon (h : CallsAlike rest call call') :
    Option.Rel (ProgressAlike reads) call.abandon call'.abandon := by
  obtain ⟨number, request, stage⟩ := call
  obtain ⟨number', request', stage'⟩ := call'
  obtain ⟨rfl, rfl, hstage⟩ := h
  cases hstage with
  | same => exact option_rel_refl ProgressAlike.refl _
  | judging | storing | leaving | parting | closing => exact .none

/-- The same end of a fetch leads calls that are alike to the same. -/
theorem CallsAlike.answer (h : CallsAlike rest call call') (outcome : FetchEnd) :
    Option.Rel (ProgressAlike reads) (call.answer rules outcome) (call'.answer rules outcome) := by
  obtain ⟨number, request, stage⟩ := call
  obtain ⟨number', request', stage'⟩ := call'
  obtain ⟨rfl, rfl, hstage⟩ := h
  cases hstage with
  | same => exact option_rel_refl ProgressAlike.refl _
  | judging | storing | leaving | parting | closing => exact .none

/-- Tokens that come to the same verdicts lead calls that are alike to the same. -/
theorem CallsAlike.answer_token (h : CallsAlike rest call call') {token token' : Secret}
    (hverdict : ∀ now, reads now → verdict token now = verdict token' now) :
    Option.Rel (ProgressAlike reads) (call.answer rules (.token token))
      (call'.answer rules (.token token')) := by
  obtain ⟨number, request, stage⟩ := call
  obtain ⟨number', request', stage'⟩ := call'
  obtain ⟨rfl, rfl, hstage⟩ := h
  -- Only a call that is fetching takes an answer, and what it makes of it depends on the rule.
  cases hstage with
  | judging | storing | leaving | parting | closing => exact .none
  | same =>
    cases stage with
    | fetching gate askedAt =>
      simp only [Call.answer]
      cases rules.lifetime request with
      | expiryClaim => exact .some ⟨.some (.judging hverdict), .same _, rfl⟩
      | fixed ttl =>
        simp only
        cases askedAt.add? ttl with
        | none => exact .some ⟨.some (.same _), .same _, rfl⟩
        | some expiresAt => exact .some ⟨.some (.storing ⟨rfl, rfl⟩), .same _, rfl⟩
    | starting | looking | arriving | queued | entering | checking | asking | judging | storing
    | leaving | parting | closing | releasing | removing => exact .none

/-! ## Steps of the cache -/

/-- What is done to states that are alike leaves them alike. -/
theorem StatesAlike.apply (h : StatesAlike rest a b) (key : EntryKey) {effect effect' : Effect}
    (heffect : EffectsAlike effect effect') :
    StatesAlike rest (a.apply key effect) (b.apply key effect') := by
  -- A save may be of two leases that are alike; any other effect is the same one.
  cases heffect with
  | saves hlease =>
    refine ⟨fun other => ?_, h.gates, h.nextGate, h.calls, h.begun⟩
    simp only [State.apply, Store.fetch?_save]
    split
    · exact .some hlease
    · exact h.store other
  | same =>
    cases effect with
    | nothing => exact h
    | raisesGate =>
      simp only [State.apply, State.raiseGate, h.gates, h.nextGate]
      split
      · exact h
      · exact ⟨h.store, rfl, rfl, h.calls, h.begun⟩
    | releasesGate =>
      simp only [State.apply, State.releaseGate, h.gates, h.isHeld]
      split
      · split
        · exact h
        · exact ⟨h.store, rfl, h.nextGate, h.calls, h.begun⟩
      · exact h
    | saves lease =>
      refine ⟨fun other => ?_, h.gates, h.nextGate, h.calls, h.begun⟩
      simp only [State.apply, Store.fetch?_save]
      split
      · exact .some (.refl lease)
      · exact h.store other
    | removes =>
      refine ⟨fun other => ?_, h.gates, h.nextGate, h.calls, h.begun⟩
      simp only [State.apply, Store.fetch?_remove]
      split
      · exact .none
      · exact h.store other

/-- The calls but one of states that are alike are alike. -/
theorem StatesAlike.filter_calls (h : StatesAlike rest a b) (number : Nat) :
    List.Forall₂ (CallsAlike rest) (a.calls.filter (·.number != number))
      (b.calls.filter (·.number != number)) :=
  List.rel_filter (fun _ _ hcall => by simp [hcall.number]) h.calls

/-- States that are alike stay so when calls that are alike are put into them. -/
theorem StatesAlike.put (h : StatesAlike rest a b) (hcall : CallsAlike rest call call') :
    StatesAlike rest (a.put call) (b.put call') where
  store := h.store
  gates := h.gates
  nextGate := h.nextGate
  calls := by
    simp only [State.put, ← hcall.number]
    exact List.rel_append (h.filter_calls _) (.cons hcall .nil)
  begun := h.begun

/-- States that are alike stay so when calls go on alike. -/
theorem StatesAlike.advance (h : StatesAlike rest a b) (hnumber : call.number = call'.number)
    (hrequest : call.request = call'.request)
    (hprogress : ProgressAlike (fun now => .read call.number now ∈ rest) progress progress') :
    StatesAlike rest (a.advance call progress) (b.advance call' progress') := by
  have happly := h.apply call.key hprogress.effect
  have hkey : call'.key = call.key := by rw [Call.key, Call.key, hrequest]
  obtain ⟨stage, effect, event, log⟩ := progress
  obtain ⟨stage', effect', event', log'⟩ := progress'
  obtain ⟨hstage, heffect, hlog⟩ := hprogress
  simp only [State.advance, hkey]
  -- The call goes on in both runs or ends in both.
  cases hstage with
  | none =>
    rw [← hnumber]
    exact ⟨happly.store, happly.gates, happly.nextGate, happly.filter_calls _, happly.begun⟩
  | some hnext => exact happly.put ⟨hnumber, hrequest, hnext⟩

/-- States that are alike stay so when the same call begins. -/
theorem StatesAlike.begin (h : StatesAlike rest a b) (request : TokenRequest) (stage : Stage) :
    StatesAlike rest (a.begin request stage) (b.begin request stage) := by
  have hcall : CallsAlike rest ⟨a.begun, request, stage⟩ ⟨b.begun, request, stage⟩ :=
    ⟨h.begun, rfl, .same _⟩
  have hput := h.put hcall
  exact ⟨hput.store, hput.gates, hput.nextGate, hput.calls, by simp [State.begin, h.begun]⟩

/-- Steps of calls that are alike lead states that are alike to such states. -/
theorem StatesAlike.stepCall (h : StatesAlike (action :: rest) a b)
    (number : Nat) {next next' : Call → Option Progress}
    (hnext : ∀ call call', call.number = number → CallsAlike (action :: rest) call call' →
      Option.Rel (ProgressAlike fun now => .read number now ∈ rest) (next call) (next' call')) :
    Option.Rel (TransitionsAlike rest) (stepCall a number next) (stepCall b number next') := by
  refine option_rel_bind (h.find? number) fun call call' hlike => ?_
  obtain ⟨hnumber, hlike⟩ := hlike
  refine option_rel_map (hnext call call' hnumber hlike) fun progress progress' hprogress => ?_
  exact ⟨h.tail.advance hlike.number hlike.request (hnumber ▸ hprogress), hprogress.log⟩

/-- From states that are alike the same action leads to states that are alike, and logs the
same. -/
theorem step_alike (h : StatesAlike (action :: rest) a b) :
    Option.Rel (TransitionsAlike rest) (step rules a action) (step rules b action) := by
  -- Events from outside are the same in both runs; those of a call are its steps.
  cases action with
  | lookUp request => exact .some ⟨h.tail.begin _ _, rfl⟩
  | invalidate request => exact .some ⟨h.tail.begin _ _, rfl⟩
  | peek request => exact .some ⟨h.tail, rfl⟩
  | read number now =>
    refine h.stepCall number fun call call' hnumber hlike => ?_
    subst hnumber
    exact hlike.read
  | proceed number => exact h.stepCall number fun _ _ _ hlike => hlike.proceed h
  | answer number outcome => exact h.stepCall number fun _ _ _ hlike => hlike.answer outcome
  | abandon number => exact h.stepCall number fun _ _ _ hlike => hlike.abandon

/-- From states that are alike tokens that come to the same verdicts lead to states that are alike,
and the same is logged. -/
theorem step_answer_alike {token token' : Secret}
    (h : StatesAlike (.answer number (.token token) :: rest) a b)
    (hverdict : ∀ now, .read number now ∈ rest → verdict token now = verdict token' now) :
    Option.Rel (TransitionsAlike rest) (step rules a (.answer number (.token token)))
      (step rules b (.answer number (.token token'))) :=
  h.stepCall number fun _ _ _ hlike => hlike.answer_token hverdict

/-- From states that are alike the same runs are possible, but for their tokens, and log the same
step by step. -/
theorem tellAll_alike {actions actions' : List Action} (hactions : SameButTokens actions actions')
    (h : StatesAlike actions a b) :
    Option.Rel (fun run run' => run.1.map Told.log = run'.1.map Told.log)
      (tellAll rules a actions) (tellAll rules b actions') := by
  -- On the actions, where the readings of the clock that are still to come stay in the hypothesis.
  induction hactions generalizing a b with
  | nil => exact .some rfl
  | same action hrest ih =>
    refine option_rel_bind (step_alike h) fun transition transition' hlike => ?_
    refine option_rel_map (ih hlike.state) fun run run' hlogs => ?_
    simp only [List.map_cons, Transition.told, hlike.log, hlogs]
  | token hverdict hrest ih =>
    refine option_rel_bind (step_answer_alike h hverdict) fun transition transition' hlike => ?_
    refine option_rel_map (ih hlike.state) fun run run' hlogs => ?_
    simp only [List.map_cons, Transition.told, hlike.log, hlogs]

/-- What is done before does not matter, if it is the same. -/
theorem SameButTokens.append_left {actions actions' : List Action}
    (h : SameButTokens actions actions') (before : List Action) :
    SameButTokens (before ++ actions) (before ++ actions') := by
  induction before with
  | nil => exact h
  | cons action rest ih => exact .same action ih

theorem SameButTokens.refl (actions : List Action) : SameButTokens actions actions := by
  induction actions with
  | nil => exact .nil
  | cons action rest ih => exact .same action ih

/-! ## What the log is made from -/

/-- A look-up has failed: its fetch has, or its token is no good when it is judged. -/
inductive HasFailed (number : Nat) (history : List Event) : Failure → Prop where
  | fetch {failure : Failure} (hanswered : .answered number (.failed failure) ∈ history) :
    HasFailed number history failure
  | token {token : Secret} {now : Instant} {fault : ExpiryFault}
      (hanswered : .answered number (.token token) ∈ history) (hread : .read number now ∈ history)
      (hdead : Expiry.ofLiveToken token.expose now = .error fault) :
    HasFailed number history (.expiry fault)

/-- An entry of the log names the kind of a request, the fingerprint of its key and the wording of
the failure of its look-up, and nothing else. -/
def IsFrom (number : Nat) (request : TokenRequest) (history : List Event) : LogEntry → Prop
  | .span stage kind => stage = "get" ∧ kind = request.kind
  | .count _ kind => kind = request.kind
  | .event outcome kind fingerprint error =>
    kind = request.kind ∧ fingerprint = request.key.fingerprint ∧
      if outcome = .failure then
        ∃ failure, HasFailed number history failure ∧ error = some failure.message
      else error = none

variable {history later : List Event} {entry : LogEntry} {ending : Option Stage}

/-- A look-up that has failed has failed for good. -/
theorem HasFailed.mono {failure : Failure} (h : HasFailed number history failure)
    (hle : history ⊆ later) : HasFailed number later failure := by
  cases h with
  | fetch hanswered => exact .fetch (hle hanswered)
  | token hanswered hread hdead => exact .token (hle hanswered) (hle hread) hdead

/-- What an entry is made from stays. -/
theorem IsFrom.mono (h : IsFrom number request history entry) (hle : history ⊆ later) :
    IsFrom number request later entry := by
  -- More of the history can only give more of what is asked for.
  cases entry with
  | span | count => exact h
  | event outcome kind fingerprint error =>
    obtain ⟨hkind, hfingerprint, herror⟩ := h
    refine ⟨hkind, hfingerprint, ?_⟩
    split at herror
    next houtcome =>
      obtain ⟨failure, hfailed, hmessage⟩ := herror
      rw [if_pos houtcome]
      exact ⟨failure, hfailed.mono hle, hmessage⟩
    next houtcome => rwa [if_neg houtcome]

/-- The entries of an outcome that is no failure are made from the request. -/
theorem isFrom_of_mem_outcomeLog {outcome : Outcome}
    (hentry : entry ∈ outcomeLog outcome request none) (houtcome : outcome ≠ .failure) :
    IsFrom number request history entry := by
  simp only [outcomeLog, LogEntry.ofOutcome, List.mem_cons, List.not_mem_nil, or_false] at hentry
  rcases hentry with rfl | rfl
  · rfl
  · simp [IsFrom, houtcome]

/-- The entries of a failure are made from the request and the failure. -/
theorem HasFailed.isFrom {failure : Failure} (h : HasFailed number history failure)
    (hentry : entry ∈ outcomeLog .failure request (some failure)) :
    IsFrom number request history entry := by
  simp only [outcomeLog, LogEntry.ofOutcome, List.mem_cons, List.not_mem_nil, or_false] at hentry
  rcases hentry with rfl | rfl
  · rfl
  · exact ⟨rfl, rfl, failure, h, rfl⟩

/-- A token that a look-up is about to judge is what its fetch has ended with. -/
theorem Story.answered (h : Story rules number request told ending) :
    ∀ gate askedAt token, ending = some (.judging gate askedAt token) →
      .answered number (.token token) ∈ historyOf told := by
  cases h with
  | lookUp | invalidate => exact fun _ _ _ hstage => by cases hstage
  | step state hstory hstep =>
    intro gate askedAt token hstage
    cases hstep <;> cases hstage
    simp

/-- The entries of a look-up are made from its request and its failure. -/
theorem Story.isFrom (h : Story rules number request told ending) :
    ∀ entry ∈ logOf told, IsFrom number request (historyOf told) entry := by
  -- On the story; what an entry says was so by the time it was written.
  induction h with
  | lookUp given =>
    intro entry hentry
    obtain rfl := List.mem_singleton.mp hentry
    exact ⟨rfl, rfl⟩
  | invalidate given => exact fun _ hentry => by cases hentry
  | step state hstory hstep ih =>
    intro entry hentry
    rw [logOf_append, List.mem_append, logOf_cons, logOf_nil, List.append_nil] at hentry
    rw [historyOf_append]
    rcases hentry with hold | hnew
    · exact (ih entry hold).mono (List.subset_append_left ..)
    · cases hstep
      case lookHit | checkHit | checkMiss | save => exact isFrom_of_mem_outcomeLog hnew nofun
      case answerFailed =>
        exact (HasFailed.fetch (List.mem_append_right _ List.mem_cons_self)).isFrom hnew
      case judgeDead hdead =>
        have hanswered := hstory.answered _ _ _ rfl
        exact (HasFailed.token (List.mem_append_left _ hanswered)
          (List.mem_append_right _ List.mem_cons_self) hdead).isFrom hnew
      all_goals cases hnew

/-- Two runs by the same actions, in which only tokens differ and come to the same verdicts, are
possible alike, and their spans, counts and events are the same.  The log of a run is made from
what its look-ups are for: an entry names the kind of the canonical request, the fingerprint of its
key and, if it tells of a failure, the wording of this. -/
theorem log_hides_tokens (rules : Rules) :
    (∀ state actions actions', SameButTokens actions actions' →
      (tellAll rules state actions).map (fun run => run.1.map Told.log) =
        (tellAll rules state actions').map (fun run => run.1.map Told.log)) ∧
    (∀ told state, Tells rules told state → ∀ entry ∈ logOf told,
      ∃ number given, .began number given ∈ historyOf told ∧
        IsFrom number (rules.canonical given) (historyOf told) entry) := by
  constructor
  -- Two runs of which one has other tokens.
  · intro state actions actions' hactions
    have hlogs : Option.Rel (fun run run' => run.1.map Told.log = run'.1.map Told.log)
        (tellAll rules state actions) (tellAll rules state actions') :=
      tellAll_alike hactions (.refl state)
    generalize tellAll rules state actions = run at hlogs ⊢
    generalize tellAll rules state actions' = run' at hlogs ⊢
    cases hlogs with
    | none => rfl
    | some hsame => exact congrArg some hsame
  -- An entry is written at an event of some call.
  · intro told state h entry hentry
    obtain ⟨step, hstep, hlogged⟩ := List.mem_flatMap.mp hentry
    cases hnumber : step.event.number? with
    | none =>
      rw [h.stories.silent step hstep hnumber] at hlogged
      cases hlogged
    | some number =>
      -- The entry is in the story of a call, which is no invalidation.
      obtain ⟨request, ending, hstory⟩ :=
        h.stories.exists_story (h.stories.number_lt_of_mem hstep hnumber)
      have hmem : entry ∈ logOf (toldOf number told) :=
        List.mem_flatMap.mpr ⟨step, List.mem_filter.mpr ⟨hstep, by simp [hnumber]⟩, hlogged⟩
      rcases hstory.began_or_silent with ⟨given, hbegan⟩ | ⟨hsilent, -⟩
      · have hfrom := hstory.isFrom entry hmem
        rw [hstory.way.request_eq hbegan rfl, historyOf_toldOf] at hfrom
        rw [historyOf_toldOf, mem_eventsOf] at hbegan
        exact ⟨number, given, hbegan.1, hfrom.mono (List.filter_subset_self _)⟩
      · rw [hsilent.log] at hmem
        cases hmem

end BearerCache.Cache

namespace BearerCache.Cache.Sample

/-- Requests stay as they are, and tokens say when they expire. -/
def claiming : Rules := ⟨id, fun _ => .expiryClaim, .zero⟩

/-- A look-up asks for a token. -/
def untilAnswer : List Action :=
  [.lookUp request, .read 0 zero, .proceed 0, .proceed 0, .proceed 0, .read 0 zero, .proceed 0,
    .read 0 zero]

/-- It judges the token that it is given, and ends. -/
def fromAnswer : List Action :=
  [.read 0 five, .proceed 0, .proceed 0, .proceed 0]

/-- A look-up with a token that is no compact JWT. -/
def judging (token : String) : List Action :=
  untilAnswer ++ .answer 0 (.token ⟨token⟩) :: fromAnswer

/-- What is told of it. -/
def judgedTold (token : String) : List Told :=
  [⟨.began 0 request, [.span "get" .platform]⟩, ⟨.read 0 zero, []⟩, ⟨.moved 0, []⟩,
    ⟨.moved 0, []⟩, ⟨.entered 0, []⟩, ⟨.read 0 zero, []⟩,
    ⟨.moved 0, outcomeLog .miss request none⟩, ⟨.asked 0 request zero, []⟩,
    ⟨.answered 0 (.token ⟨token⟩), []⟩,
    ⟨.read 0 five, outcomeLog .failure request (some (.expiry .notCompact))⟩, ⟨.moved 0, []⟩,
    ⟨.moved 0, []⟩, ⟨.ended 0 (.result (.error (.expiry .notCompact))), []⟩]

/-- Two tokens that are no compact JWTs cannot be told apart, and the failure is told with the
fingerprint of the key. -/
theorem judged_logs :
    (tellAll claiming .initial (judging "one")).map (fun run => run.1.map Told.log) =
        (tellAll claiming .initial (judging "two")).map (fun run => run.1.map Told.log) ∧
      ∃ given, .began 0 given ∈ historyOf (judgedTold "one") ∧
        IsFrom 0 (claiming.canonical given) (historyOf (judgedTold "one"))
          (.event .failure .platform request.key.fingerprint
            (some "Token is not a compact JWT.")) := by
  obtain ⟨hsame, hfrom⟩ := log_hides_tokens claiming
  constructor
  -- Neither text is a token of three parts, so the verdict on both is the same.
  · refine hsame .initial _ _ (.append_left (.token (fun now _ => ?_) (.refl _)) untilAnswer)
    have hone : Expiry.payload? "one" = none := by decide
    have htwo : Expiry.payload? "two" = none := by decide
    simp [verdict, Expiry.ofLiveToken, Expiry.ofToken, hone, htwo]
  · have htells : ∀ told state, tellAll claiming .initial (judging "one") = some (told, state) →
        Tells claiming told state := fun _ _ => Tells.start.tellAll
    have hlogged : ⟨.read 0 five, outcomeLog .failure request (some (.expiry .notCompact))⟩ ∈
        judgedTold "one" := by
      simp only [judgedTold, List.mem_cons, true_or, or_true]
    obtain ⟨number, given, hbegan, hentry⟩ := hfrom (judgedTold "one") _ (htells _ _ rfl) _
      (List.mem_flatMap.mpr ⟨_, hlogged, List.mem_cons_of_mem _ List.mem_cons_self⟩)
    obtain rfl : number = 0 := by
      simp only [judgedTold, historyOf, List.map_cons, List.map_nil, List.mem_cons,
        Event.began.injEq, reduceCtorEq, List.not_mem_nil, or_false] at hbegan
      exact hbegan.1
    exact ⟨given, hbegan, hentry⟩

end BearerCache.Cache.Sample
