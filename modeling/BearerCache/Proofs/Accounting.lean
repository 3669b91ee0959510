import BearerCache.Proofs.Writes
import Mathlib.Algebra.BigOperators.Group.Finset.Piecewise

/-! # What is counted

A look-up that ends with a result tells of its outcomes in one of three ways: a hit; a miss, and
that its lease is stored; a miss, and its failure.  Which it is can be told from whether it has
asked for a token and what it ends with.  `Account` says what a look-up has logged, asked and
written so far, `Course` what it has when it has come to its result.

As all that is logged, asked and saved is logged, asked and saved by some call, the totals of a
transcript are the sums over its calls.

## Key results

- `Story.accounted`: what a look-up has logged, asked and written when it comes to a stage
- `sum_countP_toldOf`: a total is the sum of what the calls have added to it
- `Tells.outcome_accounting`: the outcomes of every look-up, and the totals over all of them
-/

namespace BearerCache.Cache

variable {rules : Rules} {state : State} {told : List Told} {entry : Told} {number : Nat}
  {request : TokenRequest} {outcomes : List Outcome} {failure : Option Failure} {times : Nat}
  {written : List Event}

/-! ## The account of a look-up -/

/-- What a look-up for a request logs: that it begins, and each of its outcomes, once to be counted
and once as an event. -/
def lookUpLog (request : TokenRequest) (failure : Option Failure) (outcomes : List Outcome) :
    List LogEntry :=
  .span "get" request.kind :: outcomes.flatMap fun outcome =>
    [.count outcome request.kind,
      .event outcome request.kind request.key.fingerprint
        (if outcome = .failure then failure.map Failure.message else none)]

/-- Whether a look-up begins with an event. -/
def Event.begins : Event → Bool
  | began _ _ => true
  | _ => false

/-- Whether a fetch starts with an event. -/
def Event.asks : Event → Bool
  | asked _ _ _ => true
  | _ => false

/-- Whether a lease is saved with an event. -/
def Event.saves : Event → Bool
  | saved _ _ _ => true
  | _ => false

/-- What a look-up has told of: its outcomes, with the failure if there is one, how often it has
asked for a token, and what it has written. -/
structure Account (request : TokenRequest) (told : List Told) (outcomes : List Outcome)
    (failure : Option Failure) (times : Nat) (written : List Event) : Prop where
  log : logOf told = lookUpLog request failure outcomes
  begins : (historyOf told).countP Event.begins = 1
  asks : (historyOf told).countP Event.asks = times
  writes : writes (historyOf told) = written

/-- The three ways in which a look-up comes to its result. -/
inductive Course (number : Nat) (request : TokenRequest) (told : List Told) :
    Except Failure Lease → Prop where
  /-- It has found a lease and not asked. -/
  | found {lease : Lease} (haccount : Account request told [.hit] none 0 []) :
    Course number request told (.ok lease)
  /-- It has asked once, and saved the lease. -/
  | fetched {lease : Lease}
      (haccount : Account request told [.miss, .stored] none 1
        [.saved number request.key lease]) :
    Course number request told (.ok lease)
  /-- It has asked once, and written nothing. -/
  | failed {failure : Failure}
      (haccount : Account request told [.miss, .failure] (some failure) 1 []) :
    Course number request told (.error failure)

/-- What a look-up that has come to a stage has told of. -/
def Stage.Accounted (number : Nat) (request : TokenRequest) (told : List Told) : Stage → Prop
  | starting | looking _ | arriving | queued _ | entering _ | checking _ _ =>
    Account request told [] none 0 []
  | asking _ => Account request told [.miss] none 0 []
  | fetching _ _ | judging _ _ _ | storing _ _ => Account request told [.miss] none 1 []
  | leaving _ (.result result) | parting _ (.result result) | closing result =>
    Course number request told result
  | leaving _ _ | parting _ _ | releasing | removing => True

/-- A step adds to the account what it logs, asks and writes. -/
theorem Account.append_singleton (h : Account request told outcomes failure times written)
    {outcomes' : List Outcome} {failure' : Option Failure} {times' : Nat} {written' : List Event}
    (hbegins : entry.event.begins = false)
    (hlog : lookUpLog request failure outcomes ++ entry.log =
      lookUpLog request failure' outcomes')
    (hasked : (times + if entry.event.asks then 1 else 0) = times')
    (hwritten : (written ++ if entry.event.isWrite then [entry.event] else []) = written') :
    Account request (told ++ [entry]) outcomes' failure' times' written' where
  -- Nothing but the last entry is new, so each of the three counts grows by what that one counts
  -- for.
  log := by rw [logOf_append, h.log, ← hlog, logOf_cons, logOf_nil, List.append_nil]
  begins := by simp [List.countP_append, h.begins, hbegins]
  asks := by simp [List.countP_append, h.asks, List.countP_singleton, ← hasked]
  writes := by
    rw [historyOf_append, historyOf_cons, historyOf_nil, writes_append_singleton, h.writes,
      hwritten]

/-- An account stays, when nothing is logged, asked or written. -/
theorem Account.append_quiet (h : Account request told outcomes failure times written)
    {event : Event} (hbegins : event.begins = false) (hasks : event.asks = false)
    (hwrites : event.isWrite = false) :
    Account request (told ++ [⟨event, []⟩]) outcomes failure times written :=
  h.append_singleton hbegins (List.append_nil _) (by simp [hasks]) (by simp [hwrites])

/-- How a look-up has come to its result stays, when nothing is logged, asked or written. -/
theorem Course.append_quiet {result : Except Failure Lease}
    (h : Course number request told result) {event : Event} (hbegins : event.begins = false)
    (hasks : event.asks = false) (hwrites : event.isWrite = false) :
    Course number request (told ++ [⟨event, []⟩]) result := by
  cases h with
  | found haccount => exact .found (haccount.append_quiet hbegins hasks hwrites)
  | fetched haccount => exact .fetched (haccount.append_quiet hbegins hasks hwrites)
  | failed haccount => exact .failed (haccount.append_quiet hbegins hasks hwrites)

section

variable {stage : Stage} {progress : Progress}
  (h : CallStep rules state ⟨number, request, stage⟩ stage progress)
  (hwas : stage.Accounted number request told)

include h hwas

/-- A step of a look-up adds to its account what its next stage says. -/
theorem CallStep.accounted {next : Stage} (hnext : progress.stage = some next) :
    next.Accounted number request (told ++ [⟨progress.event, progress.log⟩]) := by
  cases h <;> cases hnext
  -- A step that logs adds what it logs to the account, and the sums are the same by computation.
  case checkHit => exact .found (hwas.append_singleton rfl rfl rfl rfl)
  case checkMiss => exact hwas.append_singleton rfl rfl rfl rfl
  case ask => exact hwas.append_singleton rfl rfl rfl rfl
  case answerFailed | judgeDead => exact .failed (hwas.append_singleton rfl rfl rfl rfl)
  case save => exact .fetched (hwas.append_singleton rfl rfl rfl rfl)
  case part => exact hwas.append_quiet rfl rfl rfl
  case leave gate ending =>
    cases ending with
    | result => exact Course.append_quiet hwas rfl rfl rfl
    | broken | abandoned => trivial
  -- The other steps log nothing, or lead to no result.
  case checkBroken | answerBroken | answerOverflow | release | abandonQueued |
      abandonFetching => trivial
  all_goals exact Account.append_quiet hwas rfl rfl rfl

/-- A look-up that ends with a result has come to it in one of the three ways. -/
theorem CallStep.course {result : Except Failure Lease}
    (hended : progress.event = .ended number (.result result)) :
    Course number request (told ++ [⟨progress.event, progress.log⟩]) result := by
  cases h <;> cases hended
  case lookHit => exact .found (hwas.append_singleton rfl rfl rfl rfl)
  case close => exact Course.append_quiet hwas rfl rfl rfl

end

/-- A look-up that has come to a stage has told of what it should. -/
theorem Story.accounted {ending : Option Stage} (h : Story rules number request told ending) :
    ∀ stage, ending = some stage → stage.Accounted number request told := by
  induction h with
  | lookUp given =>
    rintro _ ⟨⟩
    exact ⟨rfl, rfl, rfl, rfl⟩
  | invalidate given =>
    rintro _ ⟨⟩
    trivial
  | step state hstory hstep ih => exact fun next hnext => hstep.accounted (ih _ rfl) hnext

/-- A look-up that is over and has ended with a result has come to it in one of the three ways. -/
theorem Story.course_of_over (h : Story rules number request told none)
    {result : Except Failure Lease}
    (hended : .ended number (.result result) ∈ historyOf told) :
    Course number request told result := by
  generalize hnone : (none : Option Stage) = ending at h
  cases h with
  | lookUp | invalidate => cases hnone
  | step state hstory hstep =>
    rw [historyOf_append] at hended
    rcases List.mem_append.mp hended with hold | hnew
    · -- It is not told that a call is over before it is.
      exact absurd rfl (hstory.way.not_isLast rfl hold)
    · exact hstep.course (hstory.accounted _ rfl) (List.mem_singleton.mp hnew).symm

/-! ## Totals -/

/-- How often an outcome is counted in a log. -/
def counter (outcome : Outcome) (log : List LogEntry) : Nat :=
  log.countP fun
    | .count counted _ => counted == outcome
    | _ => false

/-- What is counted fits what has happened. -/
structure Balanced (told : List Told) : Prop where
  /-- Every look-up is a hit or a miss. -/
  begins : counter .hit (logOf told) + counter .miss (logOf told) =
    (historyOf told).countP Event.begins
  /-- Every miss leads to a lease that is stored, or to a failure. -/
  misses : counter .miss (logOf told) =
    counter .stored (logOf told) + counter .failure (logOf told)
  /-- At every miss a token is asked for, and only then. -/
  asks : counter .miss (logOf told) = (historyOf told).countP Event.asks
  /-- Every lease that is said to be stored is saved, and no other. -/
  saves : counter .stored (logOf told) = (historyOf told).countP Event.saves

@[simp] theorem counter_lookUpLog (outcome : Outcome) :
    counter outcome (lookUpLog request failure outcomes) = outcomes.count outcome := by
  simp only [counter, lookUpLog, List.countP_cons, List.countP_flatMap, List.count]
  induction outcomes with
  | nil => rfl
  | cons first rest ih => simp_all [List.countP_cons, Nat.add_comm]

/-- To save a lease is to write. -/
theorem countP_saves_writes (history : List Event) :
    (writes history).countP Event.saves = history.countP Event.saves := by
  rw [writes, List.countP_filter]
  refine List.countP_congr fun event _ => ?_
  cases event <;> simp [Event.saves, Event.isWrite]

/-- What is counted of a look-up that has ended with a result fits what it has done. -/
theorem Course.balanced {result : Except Failure Lease} (h : Course number request told result) :
    Balanced told := by
  cases h with
  | found haccount | fetched haccount | failed haccount =>
    constructor <;>
      simp [haccount.log, haccount.begins, haccount.asks, ← countP_saves_writes, haccount.writes,
        Event.saves]

/-- Nothing of a transcript is counted. -/
structure Silent (told : List Told) : Prop where
  log : logOf told = []
  event : ∀ event ∈ historyOf told,
    event.begins = false ∧ event.asks = false ∧ event.saves = false

/-- Where nothing is counted, this fits what has happened. -/
theorem Silent.balanced (h : Silent told) : Balanced told := by
  have hbegins : (historyOf told).countP Event.begins = 0 :=
    List.countP_eq_zero.mpr fun event hevent => by simp [(h.event event hevent).1]
  have hasks : (historyOf told).countP Event.asks = 0 :=
    List.countP_eq_zero.mpr fun event hevent => by simp [(h.event event hevent).2.1]
  have hsaves : (historyOf told).countP Event.saves = 0 :=
    List.countP_eq_zero.mpr fun event hevent => by simp [(h.event event hevent).2.2]
  constructor <;> simp [h.log, hbegins, hasks, hsaves, counter]

/-- A call is a look-up, or nothing of it is counted. -/
theorem Story.began_or_silent {ending : Option Stage}
    (h : Story rules number request told ending) :
    (∃ given, .began number given ∈ historyOf told) ∨
      (Silent told ∧ ∀ stage, ending = some stage → stage = .releasing ∨ stage = .removing) := by
  induction h with
  | lookUp given => exact .inl ⟨given, List.mem_singleton_self _⟩
  | invalidate given =>
    refine .inr ⟨⟨rfl, ?_⟩, fun stage hstage => .inl (Option.some.inj hstage).symm⟩
    simp [historyOf, Event.begins, Event.asks, Event.saves]
  | @step _ past stage progress state hstory hstep ih =>
    rcases ih with ⟨given, hbegan⟩ | ⟨hsilent, hstage⟩
    · exact .inl ⟨given, by simp [hbegan]⟩
    -- An invalidation has two stages, and its steps out of them log nothing and ask for nothing.
    · right
      rcases hstage stage rfl with rfl | rfl <;> cases hstep
      all_goals
        refine ⟨⟨by simp [hsilent.log], ?_⟩, by simp⟩
        simpa [or_imp, forall_and, Event.begins, Event.asks, Event.saves] using hsilent.event

/-- What is counted of a transcript is the sum of what is counted of its calls, as long as nothing
else is counted. -/
theorem sum_countP_toldOf {α : Type} (part : Told → List α) (p : α → Bool) {bound : Nat}
    (h : ∀ entry ∈ told, ∀ a ∈ part entry, p a = true →
      ∃ number < bound, entry.event.number? = some number) :
    ∑ number ∈ Finset.range bound, ((toldOf number told).flatMap part).countP p =
      (told.flatMap part).countP p := by
  induction told with
  | nil => simp [toldOf]
  | cons entry rest ih =>
    rw [List.flatMap_cons, List.countP_append,
      ← ih fun other hother => h other (List.mem_cons_of_mem _ hother)]
    -- The first entry is counted for its own call.
    have hsplit (number : Nat) : ((toldOf number (entry :: rest)).flatMap part).countP p =
        (if entry.event.number? = some number then (part entry).countP p else 0) +
          ((toldOf number rest).flatMap part).countP p := by
      by_cases hnumber : entry.event.number? = some number <;> simp [toldOf, hnumber]
    simp only [hsplit, Finset.sum_add_distrib]
    congr 1
    -- It is counted for one call only, the one whose number it has, which is below the bound.
    by_cases hcounted : (part entry).countP p = 0
    · simp [hcounted]
    · obtain ⟨a, ha, hp⟩ := List.countP_pos_iff.mp (Nat.pos_of_ne_zero hcounted)
      obtain ⟨number, hlt, hnumber⟩ := h entry List.mem_cons_self a ha hp
      simp [hnumber, hlt, Finset.sum_ite_eq]

/-- Totals fit, if what is counted of every call does. -/
theorem Tells.balanced (h : Tells rules told state)
    (hcalls : ∀ number < state.begun, Balanced (toldOf number told)) : Balanced told := by
  -- Both the logged outcomes and the events are summed up over the calls; so what balances for each
  -- call balances for all.
  have hlog (outcome : Outcome) : counter outcome (logOf told) =
      ∑ number ∈ Finset.range state.begun, counter outcome (logOf (toldOf number told)) := by
    refine (sum_countP_toldOf Told.log _ fun entry hentry logged hlogged _ => ?_).symm
    cases hsome : entry.event.number? with
    | none => rw [h.stories.silent entry hentry hsome] at hlogged; cases hlogged
    | some number => exact ⟨number, h.stories.number_lt_of_mem hentry hsome, rfl⟩
  have hhistory (p : Event → Bool) (hp : ∀ event, p event = true → event.number? ≠ none) :
      (historyOf told).countP p =
        ∑ number ∈ Finset.range state.begun, (historyOf (toldOf number told)).countP p := by
    simp only [historyOf, List.map_eq_flatMap]
    refine (sum_countP_toldOf _ p fun entry hentry event hevent hcounted => ?_).symm
    obtain rfl := List.mem_singleton.mp hevent
    obtain ⟨number, hsome⟩ := Option.ne_none_iff_exists'.mp (hp _ hcounted)
    exact ⟨number, h.stories.number_lt_of_mem hentry hsome, hsome⟩
  have hbegins := hhistory Event.begins fun event => by
    cases event <;> simp [Event.begins, Event.number?]
  have hasks := hhistory Event.asks fun event => by
    cases event <;> simp [Event.asks, Event.number?]
  have hsaves := hhistory Event.saves fun event => by
    cases event <;> simp [Event.saves, Event.number?]
  constructor
  · rw [hlog, hlog, hbegins, ← Finset.sum_add_distrib]
    exact Finset.sum_congr rfl fun number hmem => (hcalls number (Finset.mem_range.mp hmem)).begins
  · rw [hlog, hlog, hlog, ← Finset.sum_add_distrib]
    exact Finset.sum_congr rfl fun number hmem => (hcalls number (Finset.mem_range.mp hmem)).misses
  · rw [hlog, hasks]
    exact Finset.sum_congr rfl fun number hmem => (hcalls number (Finset.mem_range.mp hmem)).asks
  · rw [hlog, hsaves]
    exact Finset.sum_congr rfl fun number hmem => (hcalls number (Finset.mem_range.mp hmem)).saves

/-- A look-up that has ended with a result has come to it in one of the three ways. -/
theorem Tells.course_of_ended (h : Tells rules told state) {given : TokenRequest}
    {result : Except Failure Lease} (hbegan : .began number given ∈ historyOf told)
    (hended : .ended number (.result result) ∈ historyOf told) :
    Course number (rules.canonical given) (toldOf number told) result := by
  -- The events of the look-up are those of its own story, which is over: a story that goes on has
  -- not told of an end.
  have hmem : .ended number (.result result) ∈ historyOf (toldOf number told) := by
    rw [historyOf_toldOf, mem_eventsOf]
    exact ⟨hended, rfl⟩
  have hbeganMem : .began number given ∈ historyOf (toldOf number told) := by
    rw [historyOf_toldOf, mem_eventsOf]
    exact ⟨hbegan, rfl⟩
  obtain ⟨request, hstory⟩ : ∃ request, Story rules number request (toldOf number told) none := by
    refine h.stories.finished number (Nat.lt_of_not_le fun hle => ?_) ?_
    · rw [h.stories.unbegun number hle] at hmem
      cases hmem
    · rintro call hcall rfl
      exact (h.stories.underWay call hcall).way.not_isLast rfl hmem rfl
  rw [← hstory.way.request_eq hbeganMem rfl]
  exact hstory.course_of_over hmem

/-- However look-ups are interleaved, each that ends with a result tells of a hit, of a miss and
that its lease is stored, or of a miss and its failure: of a hit if it ends with a lease and has not
asked for a token, of a stored lease if it has asked and ends with the lease that it has saved, and
of a failure if that is how it ends.  Each outcome is counted once and makes one event, under the
kind of its canonical request and with the fingerprint of the key of this.  If all look-ups end with
a result, then hits and misses make up the look-ups, stored leases and failures the misses, a token
has been asked for as often as there was a miss, and a lease saved as often as one is said to be
stored. -/
theorem Tells.outcome_accounting (h : Tells rules told state) :
    (∀ number request result, .began number request ∈ historyOf told →
      .ended number (.result result) ∈ historyOf told →
      Course number (rules.canonical request) (toldOf number told) result) ∧
    ((∀ number request, .began number request ∈ historyOf told →
        ∃ result, .ended number (.result result) ∈ historyOf told) →
      Balanced told) := by
  refine ⟨fun number request result => h.course_of_ended, fun hdone => ?_⟩
  refine h.balanced fun number hlt => ?_
  obtain ⟨request, ending, hstory⟩ := h.stories.exists_story hlt
  rcases hstory.began_or_silent with ⟨given, hbegan⟩ | ⟨hsilent, -⟩
  · rw [historyOf_toldOf, mem_eventsOf] at hbegan
    obtain ⟨result, hended⟩ := hdone number given hbegan.1
    exact (h.course_of_ended hbegan.1 hended).balanced
  -- A call that is an invalidation has neither logged nor fetched anything.
  · exact hsilent.balanced

end BearerCache.Cache

namespace BearerCache.Cache.Sample

/-- What is told when a lease is replaced. -/
def replacedTold : List Told :=
  [⟨.began 0 request, [.span "get" .platform]⟩, ⟨.read 0 five, []⟩, ⟨.moved 0, []⟩,
    ⟨.moved 0, []⟩, ⟨.entered 0, []⟩, ⟨.read 0 five, []⟩,
    ⟨.moved 0, outcomeLog .miss request none⟩, ⟨.asked 0 request five, []⟩,
    ⟨.answered 0 (.failed .unreachable), outcomeLog .failure request (some .unreachable)⟩,
    ⟨.moved 0, []⟩, ⟨.moved 0, []⟩, ⟨.ended 0 (.result (.error .unreachable)), []⟩,
    ⟨.began 1 request, [.span "get" .platform]⟩, ⟨.read 1 five, []⟩, ⟨.moved 1, []⟩,
    ⟨.moved 1, []⟩, ⟨.entered 1, []⟩, ⟨.read 1 five, []⟩,
    ⟨.moved 1, outcomeLog .miss request none⟩, ⟨.asked 1 request five, []⟩,
    ⟨.answered 1 (.token second.token), []⟩,
    ⟨.saved 1 request.key second, outcomeLog .stored request none⟩, ⟨.moved 1, []⟩,
    ⟨.moved 1, []⟩, ⟨.ended 1 (.result (.ok second)), []⟩, ⟨.invalidating 2 request, []⟩,
    ⟨.moved 2, []⟩, ⟨.removed 2 request.key (some second), []⟩]

/-- The look-up that failed has told of its failure, the other one of its lease, and the totals
fit. -/
theorem accounts_of_replaced :
    Course 0 request (toldOf 0 replacedTold) (.error .unreachable) ∧
      Course 1 request (toldOf 1 replacedTold) (.ok second) ∧ Balanced replacedTold := by
  -- The store is not empty at the start: another cache has saved the first lease.
  have hstale : Tells rules [] { State.initial with
      store := Store.save .empty request.key first } := .foreign _ .start
  have htells : ∀ told state,
      tellAll rules { State.initial with store := Store.save .empty request.key first } replacing =
        some (told, state) → Tells rules told state :=
    fun _ _ => hstale.tellAll
  obtain ⟨hcourses, hbalanced⟩ := (htells replacedTold _ rfl).outcome_accounting
  refine ⟨?_, ?_, hbalanced fun number given hbegan => ?_⟩
  · exact hcourses 0 request _ (by simp [replacedTold]) (by simp [replacedTold])
  · exact hcourses 1 request _ (by simp [replacedTold]) (by simp [replacedTold])
  -- Only two look-ups have begun, and how each of them has ended is in the history.
  · have hended : (number = 0 ∨ number = 1) := by
      simp only [replacedTold, historyOf, List.map_cons, List.map_nil, List.mem_cons,
        Event.began.injEq, reduceCtorEq, List.not_mem_nil, or_false, false_or] at hbegan
      exact hbegan.imp And.left And.left
    rcases hended with rfl | rfl
    · exact ⟨.error .unreachable, by simp [replacedTold]⟩
    · exact ⟨.ok second, by simp [replacedTold]⟩

end BearerCache.Cache.Sample
