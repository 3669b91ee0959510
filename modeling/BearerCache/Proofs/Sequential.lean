import BearerCache.Proofs.Ledger

/-! # A call by itself

A session that is given one call at a time.  Nobody is at a gate then but the call itself, so
what it comes to depends on the store, the clock and the source of tokens alone.  These make up
the `Scene` of a session; which gates are up, how many calls there have been and what the log
says is left out.

`Comes` is a contract for the rest of a call: from every session with some scene in which the
call stands alone at a stage, so many steps lead to a reply and a scene that meet a condition.
Contracts are put together backwards, from the last step of a call to the first.

## Key results

- `Session.seen_get_of_hit`, `Session.seen_get_of_broken`, `Session.seen_get_of_miss`: what a
  look-up by itself comes to, by what it finds
- `Session.seen_invalidate`: what an invalidation by itself comes to
-/

namespace BearerCache

/-- The fresh lease under a key, if there is one; no answer at all if the margin leads out of
the calendar. -/
def Store.freshLease? (store : Store) (key : EntryKey) (margin : Span) (now : Instant) :
    Option (Option Lease) :=
  match store.fetch? key with
  | none => some none
  | some lease =>
    (lease.isFreshAt? now margin).map fun isFresh => if isFresh then some lease else none

/-- The store after a look-up has fetched. -/
def Store.after (store : Store) (key : EntryKey) : Cache.Ending → Store
  | .result (.ok lease) => store.save key lease
  | .result (.error _) | .broken | .abandoned => store

namespace Cache

variable {σ : Type}

/-! ## Scenes -/

/-- What is seen of a session when its gates, its numbers and its log are left out. -/
structure Scene (σ : Type) where
  fetcher : Fetcher σ
  rules : Rules
  clock : Clock
  source : σ
  flights : List Flight
  store : Store
  calls : List Call

/-- The scene of a session. -/
def Session.scene (session : Session σ) : Scene σ where
  fetcher := session.fetcher
  rules := session.rules
  clock := session.clock
  source := session.source
  flights := session.flights
  store := session.state.store
  calls := session.state.calls

/-- What is seen of a session that has replied. -/
def seen (replied : Reply × Session σ) : Reply × Scene σ :=
  (replied.1, replied.2.scene)

namespace Scene

/-- The scene in which no call is under way but one, which is at some stage. -/
def alone (scene : Scene σ) (call : Call) (stage : Stage) : Scene σ :=
  { scene with calls := [{ call with stage := stage }] }

/-- The scene in which no call is under way. -/
def idle (scene : Scene σ) : Scene σ :=
  { scene with calls := [] }

end Scene

/-! ## One step -/

/-- What a step does to the store. -/
def Effect.on (key : EntryKey) (store : Store) : Effect → Store
  | .saves lease => store.save key lease
  | .removes => store.remove key
  | .nothing | .raisesGate | .releasesGate => store

theorem State.store_apply {state : State} {key : EntryKey} {effect : Effect} :
    (state.apply key effect).store = effect.on key state.store := by
  cases effect with
  | nothing | saves lease | removes => rfl
  | raisesGate => exact State.store_raiseGate
  | releasesGate => exact State.store_releaseGate

/-- The scene after a step of a call that is alone. -/
def Scene.advance (scene : Scene σ) (call : Call) (progress : Progress) : Scene σ :=
  { scene with
    store := progress.effect.on call.key scene.store
    calls := (progress.stage.map fun stage => { call with stage := stage }).toList }

/-- Which lease is fresh depends on the store alone. -/
theorem State.freshLease?_of_store {state : State} {store : Store} (hstore : state.store = store)
    (key : EntryKey) (margin : Span) (now : Instant) :
    state.freshLease? key margin now = store.freshLease? key margin now := by
  rw [← hstore]
  rfl

/-- A step of a call that is alone changes this call, or it is over. -/
theorem State.calls_advance_alone {state : State} {call : Call} {progress : Progress}
    (hcalls : state.calls = [call]) :
    (state.advance call progress).calls =
      (progress.stage.map fun stage => { call with stage := stage }).toList := by
  unfold State.advance
  cases progress.stage <;> simp [State.put, State.drop, hcalls]

/-- The next step of a call if it need not wait, with the clock at an instant. -/
def Call.goOn? (rules : Rules) (state : State) (now : Instant) (call : Call) : Option Progress :=
  if call.stage.readsClock then call.read now else call.proceed rules state

namespace Session

variable {session : Session σ} {scene : Scene σ} {call : Call} {stage : Stage} {now : Instant}
  {action : Action}

theorem readClock_manual (hclock : session.clock = .manual now) :
    session.readClock = (now, session) := by
  rw [readClock, hclock, Clock.read_manual, ← hclock]

/-- What is seen of a step of a call that is alone. -/
theorem seen_act? {next : Call → Option Progress} (hcalls : session.state.calls = [call])
    (hstep : step session.rules session.state action =
      stepCall session.state call.number next) :
    (session.act? action).map seen = (next call).map fun progress =>
      (progress.event.reply, session.scene.advance call progress) := by
  -- The call is the only one, so it is the one that is found by its number.
  have hfind : session.state.find? call.number = some call := by
    simp [State.find?, hcalls]
  rw [act?, hstep, stepCall, hfind, Option.bind_some]
  cases next call with
  | none => rfl
  | some progress =>
    simp only [Option.map_some, seen, scene, Scene.advance, Option.some.injEq, Prod.mk.injEq,
      true_and]
    rw [State.store_advance, State.store_apply, State.calls_advance_alone hcalls]

/-- What is seen of a call that is alone and goes on. -/
theorem seen_goOn? (hclock : session.clock = .manual now) (hcalls : session.state.calls = [call]) :
    (session.goOn? call).map seen =
      (call.goOn? session.rules session.state now).map fun progress =>
        (progress.event.reply, session.scene.advance call progress) := by
  have hread : step session.rules session.state (.read call.number now) =
      stepCall session.state call.number fun call => call.read now := rfl
  have hproceed : step session.rules session.state (.proceed call.number) =
      stepCall session.state call.number fun call =>
        call.proceed session.rules session.state := rfl
  -- The clock stands still, so to read it changes nothing but the call.
  unfold goOn? Call.goOn?
  by_cases hreads : call.stage.readsClock = true
  · rw [if_pos hreads, if_pos hreads, readClock_manual hclock]
    exact seen_act? hcalls hread
  · rw [if_neg hreads, if_neg hreads]
    exact seen_act? hcalls hproceed

/-- The call that is alone is found by its number. -/
theorem find?_alone (hscene : session.scene = scene.alone call stage) :
    session.state.find? call.number = some { call with stage := stage } := by
  have hcalls : session.state.calls = [{ call with stage := stage }] :=
    congrArg Scene.calls hscene
  simp [State.find?, hcalls]

/-- A call that is alone goes on as it can, and nobody else has a part in that. -/
theorem goOn?_eq_some {progress : Progress} (hclock : scene.clock = .manual now)
    (hscene : session.scene = scene.alone call stage)
    (hgoOn : Call.goOn? scene.rules session.state now { call with stage := stage } =
      some progress) :
    ∃ after : Session σ,
      session.goOn? { call with stage := stage } = some (progress.event.reply, after) ∧
      after.scene = scene.advance call progress := by
  have hrules : session.rules = scene.rules := congrArg Scene.rules hscene
  -- What is seen of the step depends on the scene only, and the state has the store of the scene.
  have hseen := seen_goOn? ((congrArg Scene.clock hscene).trans hclock)
    (congrArg Scene.calls hscene)
  rw [hrules, hgoOn, Option.map_some, Option.map_eq_some_iff] at hseen
  obtain ⟨⟨reply, after⟩, hafter, hseen⟩ := hseen
  obtain ⟨rfl, hscene'⟩ := Prod.mk.inj hseen
  refine ⟨after, hafter, ?_⟩
  rw [hscene', hscene]
  rfl

/-- A call that is alone waits if it has to. -/
theorem goOn?_eq_none (hclock : scene.clock = .manual now)
    (hscene : session.scene = scene.alone call stage)
    (hgoOn : Call.goOn? scene.rules session.state now { call with stage := stage } = none) :
    session.goOn? { call with stage := stage } = none := by
  have hrules : session.rules = scene.rules := congrArg Scene.rules hscene
  have hseen := seen_goOn? ((congrArg Scene.clock hscene).trans hclock)
    (congrArg Scene.calls hscene)
  rw [hrules, hgoOn, Option.map_none] at hseen
  exact Option.map_eq_none_iff.mp hseen

end Session

/-! ## The rest of a call -/

/-- From every session with a scene in which a call stands alone at a stage, so many steps lead
to a reply and a scene that meet a condition. -/
def Comes (scene : Scene σ) (call : Call) (stage : Stage) (count : Nat)
    (post : Reply × Scene σ → Prop) : Prop :=
  ∀ session : Session σ, session.scene = scene.alone call stage →
    post (seen (session.stepsOf call.number count))

section Contracts

variable {scene : Scene σ} {call : Call} {stage : Stage} {now : Instant} {count : Nat}
  {post : Reply × Scene σ → Prop}

/-- A call that goes on takes as many steps as it has left. -/
theorem Comes.resume {session : Session σ} (h : Comes scene call stage stage.stepsLeft post)
    (hscene : session.scene = scene.alone call stage) :
    post (seen (session.resume call.number)) := by
  have hresume : session.resume call.number =
      session.stepsOf call.number stage.stepsLeft := by
    simp only [Session.resume, Session.find?_alone hscene]
  rw [hresume]
  exact h session hscene

/-- A step after which the call goes on. -/
theorem Comes.move (hclock : scene.clock = .manual now)
    (hstep : ∀ state : State, state.store = scene.store →
      state.calls = [{ call with stage := stage }] →
      ∃ progress next,
        Call.goOn? scene.rules state now { call with stage := stage } = some progress ∧
        progress.stage = some next ∧ progress.event.reply = .pending ∧
        Comes { scene with store := progress.effect.on call.key scene.store } call next count
          post) :
    Comes scene call stage (count + 1) post := by
  intro session hscene
  obtain ⟨progress, next, hgoOn, hnext, hreply, hcomes⟩ :=
    hstep session.state (congrArg Scene.store hscene) (congrArg Scene.calls hscene)
  obtain ⟨after, hafter, hscene'⟩ := Session.goOn?_eq_some hclock hscene hgoOn
  -- This is the first of the steps; the others start from where it leads.
  rw [Session.stepsOf, Session.find?_alone hscene, Option.bind_some, hafter, hreply]
  rw [Scene.advance, hnext] at hscene'
  exact hcomes after hscene'

/-- A step with which the call is over. -/
theorem Comes.finish (hclock : scene.clock = .manual now)
    (hstep : ∀ state : State, state.store = scene.store →
      state.calls = [{ call with stage := stage }] →
      ∃ progress,
        Call.goOn? scene.rules state now { call with stage := stage } = some progress ∧
        progress.stage = none ∧ progress.event.reply ≠ .pending ∧
        post (progress.event.reply,
          { scene.idle with store := progress.effect.on call.key scene.store })) :
    Comes scene call stage (count + 1) post := by
  intro session hscene
  obtain ⟨progress, hgoOn, hover, hreply, hpost⟩ :=
    hstep session.state (congrArg Scene.store hscene) (congrArg Scene.calls hscene)
  obtain ⟨after, hafter, hscene'⟩ := Session.goOn?_eq_some hclock hscene hgoOn
  rw [Scene.advance, hover] at hscene'
  -- The call is over with this step, so no further one is made.
  have hsteps : session.stepsOf call.number (count + 1) = (progress.event.reply, after) := by
    rw [Session.stepsOf, Session.find?_alone hscene, Option.bind_some, hafter]
    split
    next hnone => cases hnone
    next hpending => exact absurd (congrArg Prod.fst (Option.some.inj hpending)) hreply
    next hfinished => exact (Option.some.inj hfinished).symm
  rw [hsteps, seen, hscene']
  exact hpost

/-- A call that has to wait. -/
theorem Comes.waits (hclock : scene.clock = .manual now)
    (hstep : ∀ state : State,
      Call.goOn? scene.rules state now { call with stage := stage } = none)
    (hpost : post (.pending, scene.alone call stage)) :
    Comes scene call stage (count + 1) post := by
  intro session hscene
  have hnone := Session.goOn?_eq_none hclock hscene (hstep session.state)
  rw [Session.stepsOf, Session.find?_alone hscene, Option.bind_some, hnone, seen, hscene]
  exact hpost

/-! ### On the way out -/

theorem comes_closing (hclock : scene.clock = .manual now) {result : Except Failure Lease}
    (hpost : post (.ended result, scene.idle)) :
    Comes scene call (.closing result) (count + 1) post :=
  .finish hclock fun _ _ _ => ⟨_, rfl, rfl, nofun, hpost⟩

theorem comes_parting (hclock : scene.clock = .manual now) {gate : Nat} {ending : Ending}
    (hpost : post (ending.reply, scene.idle)) :
    Comes scene call (.parting gate ending) (count + 2) post := by
  cases ending with
  | result result =>
    exact .move hclock fun _ _ _ => ⟨_, _, rfl, rfl, rfl, comes_closing hclock hpost⟩
  | broken | abandoned =>
    -- Without a result it does not look after its gate.
    exact .finish hclock fun _ _ _ => ⟨_, rfl, rfl, nofun, hpost⟩

theorem comes_leaving (hclock : scene.clock = .manual now) {gate : Nat} {ending : Ending}
    (hpost : post (ending.reply, scene.idle)) :
    Comes scene call (.leaving gate ending) (count + 3) post :=
  .move hclock fun _ _ _ => ⟨_, _, rfl, rfl, rfl, comes_parting hclock hpost⟩

theorem comes_storing (hclock : scene.clock = .manual now) {gate : Nat} {lease : Lease}
    (hpost : post (.ended (.ok lease),
      { scene.idle with store := scene.store.save call.key lease })) :
    Comes scene call (.storing gate lease) (count + 4) post := by
  -- On its way out it finds its lease in the store.
  have hleaving : Comes { scene with store := scene.store.save call.key lease } call
      (.leaving gate (.result (.ok lease))) (count + 3) post :=
    comes_leaving (by exact hclock) hpost
  exact .move hclock fun _ _ _ => ⟨_, _, rfl, rfl, rfl, hleaving⟩

/-- A token that says when it expires is stored if it is still to expire. -/
theorem comes_judging (hclock : scene.clock = .manual now) {gate : Nat} {askedAt : Instant}
    {token : Secret} {ending : Ending}
    (hending : LifetimeRule.expiryClaim.ending askedAt now (.token token) = ending)
    (hpost : post (ending.reply,
      { scene.idle with store := scene.store.after call.key ending })) :
    Comes scene call (.judging gate askedAt token) (count + 5) post := by
  subst hending
  -- The clock is read once more, and the token is judged by that.
  cases hlive : Expiry.ofLiveToken token.expose now with
  | error fault =>
    simp only [LifetimeRule.ending, hlive] at hpost
    have hread : Call.read { call with stage := .judging gate askedAt token } now =
        some (call.fail gate (.expiry fault) (.read call.number now)) := by
      simp only [Call.read, hlive]
      rfl
    exact .move hclock fun _ _ _ => ⟨_, _, hread, rfl, rfl, comes_leaving hclock hpost⟩
  | ok expiresAt =>
    simp only [LifetimeRule.ending, hlive] at hpost
    have hread : Call.read { call with stage := .judging gate askedAt token } now =
        some ⟨some (.storing gate ⟨token, askedAt, expiresAt⟩), .nothing,
          .read call.number now, []⟩ := by
      simp only [Call.read, hlive]
    exact .move hclock fun _ _ _ => ⟨_, _, hread, rfl, rfl, comes_storing hclock hpost⟩

/-! ### On the way in -/

/-- The store has a fresh lease. -/
theorem comes_starting_hit (hclock : scene.clock = .manual now) {lease : Lease}
    (hfresh : scene.store.freshLease? call.key scene.rules.margin now = some (some lease))
    (hpost : post (.ended (.ok lease), scene.idle)) :
    Comes scene call .starting (count + 2) post := by
  -- The look-up finds the lease fresh at the instant it has just read, and ends there.
  have hlooking : Comes scene call (.looking now) (count + 1) post := by
    refine .finish hclock fun state hstore _ => ?_
    have hfound := (state.freshLease?_of_store hstore call.key scene.rules.margin now).trans hfresh
    have hproceed : Call.proceed scene.rules state { call with stage := .looking now } =
        some ⟨none, .nothing, .ended call.number (.result (.ok lease)),
          outcomeLog .hit call.request none⟩ := by
      simp only [Call.proceed, Call.key] at hfound ⊢
      rw [hfound]
    exact ⟨_, hproceed, rfl, nofun, hpost⟩
  exact .move hclock fun _ _ _ => ⟨_, _, rfl, rfl, rfl, hlooking⟩

/-- The margin of the lease in the store leads out of the calendar. -/
theorem comes_starting_broken (hclock : scene.clock = .manual now)
    (hfresh : scene.store.freshLease? call.key scene.rules.margin now = none)
    (hpost : post (.broken, scene.idle)) :
    Comes scene call .starting (count + 2) post := by
  -- Comparing the instants breaks off, which is the end of the look-up.
  have hlooking : Comes scene call (.looking now) (count + 1) post := by
    refine .finish hclock fun state hstore _ => ?_
    have hfound := (state.freshLease?_of_store hstore call.key scene.rules.margin now).trans hfresh
    have hproceed : Call.proceed scene.rules state { call with stage := .looking now } =
        some ⟨none, .nothing, .ended call.number .broken, []⟩ := by
      simp only [Call.proceed, Call.key] at hfound ⊢
      rw [hfound]
    exact ⟨_, hproceed, rfl, nofun, hpost⟩
  exact .move hclock fun _ _ _ => ⟨_, _, rfl, rfl, rfl, hlooking⟩

/-- A look-up that asks starts a fetch and waits for it. -/
theorem comes_asking (hclock : scene.clock = .manual now) {gate : Nat}
    (hpost : post (.pending, scene.alone call (.fetching gate now))) :
    Comes scene call (.asking gate) (count + 2) post := by
  have hfetching : Comes scene call (.fetching gate now) (count + 1) post :=
    .waits hclock (fun _ => rfl) hpost
  exact .move hclock fun _ _ _ => ⟨_, _, rfl, rfl, rfl, hfetching⟩

/-- Behind the gate of a look-up that is alone nothing has changed since its first look. -/
theorem comes_queued_miss (hclock : scene.clock = .manual now) {gate : Nat}
    (hfresh : scene.store.freshLease? call.key scene.rules.margin now = some none)
    (hpost : post (.pending, scene.alone call (.fetching gate now))) :
    Comes scene call (.queued gate) (count + 5) post := by
  -- The second look is at the same store and the same instant as the first.
  have hchecking : Comes scene call (.checking gate now) (count + 3) post := by
    refine .move hclock fun state hstore _ => ?_
    have hfound := (state.freshLease?_of_store hstore call.key scene.rules.margin now).trans hfresh
    have hproceed : Call.proceed scene.rules state { call with stage := .checking gate now } =
        some ⟨some (.asking gate), .nothing, .moved call.number,
          outcomeLog .miss call.request none⟩ := by
      simp only [Call.proceed, Call.key] at hfound ⊢
      rw [hfound]
    exact ⟨_, _, hproceed, rfl, rfl, comes_asking hclock hpost⟩
  have hentering : Comes scene call (.entering gate) (count + 4) post :=
    .move hclock fun _ _ _ => ⟨_, _, rfl, rfl, rfl, hchecking⟩
  refine .move hclock fun state _ hcalls => ?_
  -- The only call there is waits, so nobody is behind the gate.
  have hfree : state.isTaken gate = false := by
    rw [State.isTaken_eq_false_iff, hcalls]
    intro other hother _
    rw [List.mem_singleton.mp hother]
    rfl
  have hproceed : Call.proceed scene.rules state { call with stage := .queued gate } =
      some ⟨some (.entering gate), .nothing, .entered call.number, []⟩ := by
    simp only [Call.proceed, hfree]
    rfl
  exact ⟨_, _, hproceed, rfl, rfl, hentering⟩

/-- The store has no fresh lease. -/
theorem comes_starting_miss (hclock : scene.clock = .manual now)
    (hfresh : scene.store.freshLease? call.key scene.rules.margin now = some none)
    (hpost : ∀ gate, post (.pending, scene.alone call (.fetching gate now))) :
    Comes scene call .starting (count + 8) post := by
  -- Nothing is found, so the look-up arrives at the gate of its key, whichever that is.
  have harriving : Comes scene call .arriving (count + 6) post :=
    .move hclock fun _ _ _ => ⟨_, _, rfl, rfl, rfl, comes_queued_miss hclock hfresh (hpost _)⟩
  have hlooking : Comes scene call (.looking now) (count + 7) post := by
    refine .move hclock fun state hstore _ => ?_
    have hfound := (state.freshLease?_of_store hstore call.key scene.rules.margin now).trans hfresh
    have hproceed : Call.proceed scene.rules state { call with stage := .looking now } =
        some (.quiet call .arriving) := by
      simp only [Call.proceed, Call.key] at hfound ⊢
      rw [hfound]
      rfl
    exact ⟨_, _, hproceed, rfl, rfl, harriving⟩
  exact .move hclock fun _ _ _ => ⟨_, _, rfl, rfl, rfl, hlooking⟩

/-! ### Invalidations -/

theorem comes_releasing (hclock : scene.clock = .manual now)
    (hpost : post (.found (scene.store.fetch? call.key),
      { scene.idle with store := scene.store.remove call.key })) :
    Comes scene call .releasing (count + 2) post := by
  have hremoving : Comes scene call .removing (count + 1) post := by
    refine .finish hclock fun state hstore _ => ⟨_, rfl, rfl, nofun, ?_⟩
    rw [hstore]
    exact hpost
  exact .move hclock fun _ _ _ => ⟨_, _, rfl, rfl, rfl, hremoving⟩

end Contracts

/-! ## What a fetch comes to -/

/-- What a look-up by itself comes to that started a fetch at an instant. -/
def Scene.landed (scene : Scene σ) (request : TokenRequest) (askedAt : Instant)
    (fetch : FetchCall) : Reply × Scene σ :=
  match askedAt.add? fetch.latency with
  | none => (.broken, scene)
  | some now =>
    let ending := (scene.rules.lifetime request).ending askedAt now fetch.outcome
    (ending.reply,
      { scene with clock := .manual now, store := scene.store.after request.key ending })

theorem Ending.reply_ne_pending (ending : Ending) : ending.reply ≠ .pending := by
  cases ending <;> nofun

theorem Scene.landed_ne_pending {scene : Scene σ} {request : TokenRequest} {askedAt : Instant}
    {fetch : FetchCall} : (scene.landed request askedAt fetch).1 ≠ .pending := by
  unfold Scene.landed
  cases askedAt.add? fetch.latency with
  | none => nofun
  | some now => exact Ending.reply_ne_pending _

namespace Session

variable {session : Session σ} {scene : Scene σ} {call : Call} {gate : Nat}
  {askedAt now : Instant}

/-- When a fetch ends, the look-up that waits for it goes on from the stage that this leads to. -/
theorem seen_answer_of_comes {outcome : FetchEnd} {progress : Progress} {stage : Stage}
    {last : Reply × Scene σ}
    (hscene : session.scene = scene.alone call (.fetching gate askedAt))
    (hanswer : Call.answer scene.rules { call with stage := .fetching gate askedAt } outcome =
      some progress)
    (hstage : progress.stage = some stage) (heffect : progress.effect = .nothing)
    (hcomes : Comes scene call stage stage.stepsLeft fun ended => ended = last) :
    seen ((session.act (.answer call.number outcome)).2.resume call.number) = last := by
  have hstep : step session.rules session.state (.answer call.number outcome) =
      stepCall session.state call.number fun call => call.answer session.rules outcome := rfl
  -- The answer itself is one step, after which the call goes on alone.
  have hrules : session.rules = scene.rules := congrArg Scene.rules hscene
  have hseen := seen_act? (congrArg Scene.calls hscene) hstep
  rw [hrules, hanswer, Option.map_some, Option.map_eq_some_iff] at hseen
  obtain ⟨⟨reply, after⟩, hafter, hseen⟩ := hseen
  have hscene' : (session.act (.answer call.number outcome)).2.scene = scene.alone call stage := by
    rw [act, hafter, Option.getD_some, (Prod.mk.inj hseen).2, hscene, Scene.advance, hstage,
      heffect]
    rfl
  exact hcomes.resume hscene'

/-- A look-up whose fetch ends goes on to its own end. -/
theorem seen_answer {outcome : FetchEnd} {rule : LifetimeRule} {ending : Ending}
    (hclock : scene.clock = .manual now)
    (hscene : session.scene = scene.alone call (.fetching gate askedAt))
    (hrule : scene.rules.lifetime call.request = rule)
    (hending : rule.ending askedAt now outcome = ending) :
    seen ((session.act (.answer call.number outcome)).2.resume call.number) =
      (ending.reply, { scene.idle with store := scene.store.after call.key ending }) := by
  -- An end without a token leads to the gate at once; a token is taken by the rule.
  cases outcome with
  | broken =>
    subst hending
    exact seen_answer_of_comes hscene rfl rfl rfl (comes_leaving hclock rfl)
  | failed failure =>
    subst hending
    exact seen_answer_of_comes hscene rfl rfl rfl (comes_leaving hclock rfl)
  | token token =>
    cases rule with
    | expiryClaim =>
      have hanswer : Call.answer scene.rules { call with stage := .fetching gate askedAt }
          (.token token) = some ⟨some (.judging gate askedAt token), .nothing,
            .answered call.number (.token token), []⟩ := by
        simp only [Call.answer, hrule]
      exact seen_answer_of_comes hscene hanswer rfl rfl (comes_judging hclock hending rfl)
    | fixed ttl =>
      cases hexpires : askedAt.add? ttl with
      -- The expiry is beyond the calendar, which breaks the look-up off.
      | none =>
        simp only [LifetimeRule.ending, hexpires] at hending
        subst hending
        have hanswer : Call.answer scene.rules { call with stage := .fetching gate askedAt }
            (.token token) = some ⟨some (.leaving gate .broken), .nothing,
              .answered call.number (.token token), []⟩ := by
          simp only [Call.answer, hrule, hexpires]
        exact seen_answer_of_comes hscene hanswer rfl rfl (comes_leaving hclock rfl)
      | some expiresAt =>
        simp only [LifetimeRule.ending, hexpires] at hending
        subst hending
        have hanswer : Call.answer scene.rules { call with stage := .fetching gate askedAt }
            (.token token) = some ⟨some (.storing gate ⟨token, askedAt, expiresAt⟩), .nothing,
              .answered call.number (.token token), []⟩ := by
          simp only [Call.answer, hrule, hexpires]
        exact seen_answer_of_comes hscene hanswer rfl rfl (comes_storing hclock rfl)

/-- The fetch of the only look-up there is lands. -/
theorem seen_land {flight : Flight} (hnumber : flight.number = call.number)
    (hclock : scene.clock = .manual askedAt) (hidle : scene.calls = [])
    (hscene : { session with flights := session.otherFlights call.number }.scene =
      scene.alone call (.fetching gate askedAt)) :
    seen (session.land flight) = scene.landed call.request askedAt flight.call := by
  have hsession : session.clock = .manual askedAt := (congrArg Scene.clock hscene).trans hclock
  have hempty : scene.idle = scene := by
    rw [Scene.idle, ← hidle]
  cases hlatency : askedAt.add? flight.call.latency with
  | none =>
    -- The clock stays, and the look-up takes it that its fetch broke off.
    have hadvance : session.clock.advance? flight.call.latency = none := by
      rw [hsession]
      simp [Clock.advance?, Clock.manual, hlatency]
    have hbroken : (scene.rules.lifetime call.request).ending askedAt askedAt .broken = .broken :=
      rfl
    have hanswer := seen_answer hclock hscene rfl hbroken
    rw [hempty] at hanswer
    simp only [Scene.landed, hlatency, land, hadvance, hnumber]
    exact hanswer
  -- The clock is moved to the instant of the reply, and the answer comes then.
  | some now =>
    have hadvance : session.clock.advance? flight.call.latency = some (.manual now) := by
      rw [hsession]
      simp [Clock.advance?, Clock.manual, Clock.set, hlatency]
    have hscene' : { session with
        clock := .manual now, flights := session.otherFlights call.number }.scene =
        Scene.alone { scene with clock := .manual now } call (.fetching gate askedAt) :=
      congrArg (fun scene : Scene σ => { scene with clock := .manual now }) hscene
    generalize hending :
      (scene.rules.lifetime call.request).ending askedAt now flight.call.outcome = ending
    have hanswer := seen_answer rfl hscene' rfl hending
    simp only [Scene.landed, hlatency, hending, land, hadvance, hnumber]
    rw [← hempty]
    exact hanswer

/-! ## Calls -/

theorem turn_of_over {number : Nat} (hflights : session.flights = [])
    (hover : (session.resume number).1 ≠ .pending) :
    session.turn number = session.resume number := by
  simp only [turn, hflights, List.find?_nil]
  split
  next after hpending => exact absurd (congrArg Prod.fst hpending) hover
  next => rfl

theorem get_of_over {request : TokenRequest} (hover : (session.launch request).1 ≠ .pending) :
    session.get request = session.launch request := by
  simp only [get]
  split
  next after hpending => exact absurd (congrArg Prod.fst hpending) hover
  next => rfl

/-- A look-up begins. -/
theorem scene_lookUp (request : TokenRequest) (hidle : session.state.calls = []) :
    (session.act (.lookUp request)).2.scene =
      session.scene.alone ⟨session.state.begun, session.rules.canonical request, .starting⟩
        .starting := by
  simp [act, act?, step, State.begin, State.put, scene, Scene.alone, hidle]

/-- An invalidation begins. -/
theorem scene_invalidate (request : TokenRequest) (hidle : session.state.calls = []) :
    (session.act (.invalidate request)).2.scene =
      session.scene.alone ⟨session.state.begun, session.rules.canonical request, .releasing⟩
        .releasing := by
  simp [act, act?, step, State.begin, State.put, scene, Scene.alone, hidle]

theorem idle_scene (hidle : session.state.calls = []) : session.scene.idle = session.scene := by
  rw [Scene.idle, ← hidle]
  rfl

/-- What an invalidation by itself comes to. -/
theorem seen_invalidate (request : TokenRequest) (hclock : session.clock = .manual now)
    (hidle : session.state.calls = []) :
    seen (session.invalidate request) =
      (.found (session.state.store.fetch? (session.rules.canonical request).key),
        { session.scene with
          store := session.state.store.remove (session.rules.canonical request).key }) := by
  -- An invalidation takes two steps, in which only the store changes.
  have hcomes : Comes session.scene
      ⟨session.state.begun, session.rules.canonical request, .releasing⟩ .releasing 2 fun ended =>
        ended = (.found (session.state.store.fetch? (session.rules.canonical request).key),
          { session.scene with
            store := session.state.store.remove (session.rules.canonical request).key }) := by
    refine comes_releasing hclock ?_
    rw [idle_scene hidle]
    rfl
  exact hcomes.resume (scene_invalidate request hidle)

/-- A look-up that starts no fetch leaves the session as it is. -/
theorem seen_get_of_over {request : TokenRequest} {reply : Reply} (hidle : session.state.calls = [])
    (hflights : session.flights = []) (hreply : reply ≠ .pending)
    (hcomes : Comes session.scene
      ⟨session.state.begun, session.rules.canonical request, .starting⟩ .starting 13 fun ended =>
        ended = (reply, session.scene)) :
    seen (session.get request) = (reply, session.scene) := by
  have hscene := scene_lookUp request hidle
  have hended := hcomes.resume hscene
  -- The call is over when its run has come to its end, so there is no other to let run.
  have hover : ((session.act (.lookUp request)).2.resume session.state.begun).1 ≠ .pending := by
    intro hpending
    exact hreply ((congrArg Prod.fst hended).symm.trans hpending)
  have hlaunch : session.launch request =
      (session.act (.lookUp request)).2.resume session.state.begun :=
    turn_of_over ((congrArg Scene.flights hscene).trans hflights) hover
  rw [get_of_over (by rwa [hlaunch]), hlaunch]
  exact hended

/-- A look-up that has started its fetch waits until it lands, however often that is. -/
theorem seen_get_of_wait {request : TokenRequest} {after : Session σ} {flight : Flight}
    (hlaunch : session.launch request = after.wait flight)
    (hnumber : flight.number = call.number) (hcall : call.number = session.state.begun)
    (hclock : scene.clock = .manual askedAt) (hidle : scene.calls = [])
    (hflights : after.flights = [])
    (hscene : after.scene = scene.alone call (.fetching gate askedAt)) :
    seen (session.get request) = scene.landed call.request askedAt flight.call := by
  cases hwaits : flight.call.waits with
  -- The fetch does not wait and lands at once.
  | zero =>
    have hwait : session.launch request = after.land flight := by
      rw [hlaunch, wait, hwaits]
    have hgrounded : { after with flights := after.otherFlights call.number }.scene =
        scene.alone call (.fetching gate askedAt) := by
      rw [otherFlights, hflights, List.filter_nil, ← hflights]
      exact hscene
    have hlanded := seen_land hnumber hclock hidle hgrounded
    have hover : (session.launch request).1 ≠ .pending := by
      rw [hwait]
      exact (congrArg Prod.fst hlanded).trans_ne Scene.landed_ne_pending
    rw [get_of_over hover, hwait]
    exact hlanded
  | succ waits =>
    -- It has waited once, and lands when it is waited for.
    let waiting : Flight := { flight with call := { flight.call with waits := waits } }
    let later : Session σ := { after with flights := [waiting] }
    have hwait : session.launch request = (.pending, later) := by
      rw [hlaunch, wait, hwaits]
      simp only [otherFlights, hflights, List.filter_nil, List.nil_append, waiting, later]
    have hget : session.get request = later.land waiting := by
      simp only [get, hwait, later, waiting, hnumber, hcall, List.find?_cons, beq_self_eq_true]
    have hother : later.otherFlights call.number = [] := by
      simp [otherFlights, later, waiting, hnumber]
    have hgrounded : { later with flights := later.otherFlights call.number }.scene =
        scene.alone call (.fetching gate askedAt) := by
      rw [hother, ← hflights]
      exact hscene
    rw [hget]
    exact seen_land hnumber hclock hidle hgrounded

/-- A look-up that finds a fresh lease hands it out. -/
theorem seen_get_of_hit {request : TokenRequest} {lease : Lease}
    (hclock : session.clock = .manual now) (hidle : session.state.calls = [])
    (hflights : session.flights = [])
    (hfresh : session.state.store.freshLease? (session.rules.canonical request).key
      session.rules.margin now = some (some lease)) :
    seen (session.get request) = (.ended (.ok lease), session.scene) := by
  refine seen_get_of_over hidle hflights nofun (comes_starting_hit hclock hfresh ?_)
  rw [idle_scene hidle]

/-- A look-up breaks off if the margin of the lease it finds leads out of the calendar. -/
theorem seen_get_of_broken {request : TokenRequest}
    (hclock : session.clock = .manual now) (hidle : session.state.calls = [])
    (hflights : session.flights = [])
    (hfresh : session.state.store.freshLease? (session.rules.canonical request).key
      session.rules.margin now = none) :
    seen (session.get request) = (.broken, session.scene) := by
  refine seen_get_of_over hidle hflights nofun (comes_starting_broken hclock hfresh ?_)
  rw [idle_scene hidle]

/-- A fetch is started with the source of tokens as it is. -/
theorem takeOff_eq {fetch : FetchCall} {source : σ} (hclock : session.clock = .manual now)
    (hfetch : session.fetcher.call call.request now session.source = (fetch, source)) :
    session.takeOff call = { session with source := source }.wait ⟨call.number, fetch⟩ := by
  rw [takeOff, readClock_manual hclock]
  simp only [hfetch]

/-- A look-up that finds no fresh lease starts a fetch, which lands. -/
theorem seen_get_of_miss {request : TokenRequest} {fetch : FetchCall} {source : σ}
    (hclock : session.clock = .manual now) (hidle : session.state.calls = [])
    (hflights : session.flights = [])
    (hfresh : session.state.store.freshLease? (session.rules.canonical request).key
      session.rules.margin now = some none)
    (hfetch : session.fetcher.call (session.rules.canonical request) now session.source =
      (fetch, source)) :
    seen (session.get request) =
      Scene.landed { session.scene with source := source } (session.rules.canonical request) now
        fetch := by
  let call : Call := ⟨session.state.begun, session.rules.canonical request, .starting⟩
  -- It comes to wait for a fetch at its gate, whichever number that has.
  have hcomes : Comes session.scene call .starting 13 fun ended =>
      ∃ gate, ended = (.pending, session.scene.alone call (.fetching gate now)) :=
    comes_starting_miss hclock hfresh fun gate => ⟨gate, rfl⟩
  have hbegun := scene_lookUp request hidle
  obtain ⟨gate, hended⟩ := hcomes.resume hbegun
  change seen ((session.act (.lookUp request)).2.resume session.state.begun) = _ at hended
  cases hresume : (session.act (.lookUp request)).2.resume session.state.begun with
  | mk reply after =>
    rw [hresume] at hended
    obtain ⟨rfl, hscene⟩ := Prod.mk.inj hended
    -- Only now is the fetch started, with the clock and the source as they were.
    have hlaunch : session.launch request =
        after.takeOff { call with stage := .fetching gate now } := by
      have hnone : (session.act (.lookUp request)).2.flights = [] :=
        (congrArg Scene.flights hbegun).trans hflights
      have hfind : after.state.find? session.state.begun =
          some { call with stage := .fetching gate now } := find?_alone hscene
      simp only [launch, turn, hnone, List.find?_nil, hresume, hfind]
      rfl
    have hfetch' : after.fetcher.call (session.rules.canonical request) now after.source =
        (fetch, source) := by
      have hfetcher : after.fetcher = session.fetcher := congrArg Scene.fetcher hscene
      have hsource : after.source = session.source := congrArg Scene.source hscene
      rw [hfetcher, hsource, hfetch]
    have hclock' : after.clock = .manual now := (congrArg Scene.clock hscene).trans hclock
    have hflights' : after.flights = [] := (congrArg Scene.flights hscene).trans hflights
    have hscene' : { after with source := source }.scene =
        Scene.alone { session.scene with source := source } call (.fetching gate now) :=
      congrArg (fun scene : Scene σ => { scene with source := source }) hscene
    rw [takeOff_eq hclock' hfetch'] at hlaunch
    exact seen_get_of_wait hlaunch rfl rfl hclock hidle hflights' hscene'

end Session

end Cache

end BearerCache
