import BearerCache.Proofs.Freshness
import BearerCache.Proofs.Lifetimes
import BearerCache.Proofs.Refinement

/-! # Look-ups at the end of the calendar

A look-up of a cache that fetches from the token generator has three sums and differences of
instants to make: the margin before the expiry of the lease that it finds, on its first look and
behind its gate, and the lifetime after the instant at which it has asked.  The margin never leads
out of the calendar, as no lease expires before 1970.  The lifetime can: it is taken from the
request or the settings as any number of seconds that fits in 64 bits, and where the sum does not
exist the look-up breaks off, although its fetch has succeeded.  That is the only way in which it
breaks off.

## Key results

- `Ready.freshLease?_ne_none`: the margin never leads out of the calendar
- `Ready.broken_iff_overruns`: a look-up breaks off just when its lifetime leads out of it
- `Ready.get_of_serving`: a look-up by itself has a result unless its lifetime does so
- `lookUp_broken_iff_overruns`: both of this, and for which lifetimes it does not happen
-/

namespace BearerCache

open Cache

/-! ## Instants -/

/-- An instant of the years from 1970 to 9000. -/
def Instant.IsUsual (now : Instant) : Prop :=
  0 ≤ now.nanoseconds ∧ now.nanoseconds < Calendar.startOfYear 9001 * 86400 * nanosPerSecond

instance (now : Instant) : Decidable now.IsUsual := inferInstanceAs (Decidable (_ ∧ _))

/-- The usual margin before an instant from 1970 on is in the calendar. -/
theorem Instant.exists_sub?_usualMargin {t : Instant} (h : 0 ≤ t.nanoseconds) :
    ∃ limit, t.sub? usualMargin.clamped = some limit := by
  have hmargin : usualMargin.clamped.nanoseconds = 10000000000 := by decide
  refine (exists_sub?_iff usualMargin.nanoseconds_clamped_nonneg).mpr ?_
  rw [hmargin]
  simp only [minInstantNanos]
  omega

/-- What is later than a usual instant is not before 1970. -/
theorem Instant.IsUsual.nonneg_of_add? {askedAt expiresAt : Instant} {span : Span}
    (h : askedAt.IsUsual) (hspan : 0 < span.nanoseconds)
    (hsum : askedAt.add? span = some expiresAt) : 0 ≤ expiresAt.nanoseconds := by
  have hnanos : expiresAt.nanoseconds = askedAt.nanoseconds + span.nanoseconds :=
    ofNanoseconds?_nanoseconds hsum
  have hnonneg := h.1
  omega

/-- A span of no more than the last 999 years of the calendar leads from a usual instant to one in
the calendar. -/
theorem Instant.IsUsual.exists_add? {now : Instant} {span : Span} (h : now.IsUsual)
    (hpos : 0 < span.nanoseconds) (hspan : span.nanoseconds ≤
      (Calendar.startOfYear 10000 - Calendar.startOfYear 9001) * 86400 * nanosPerSecond) :
    ∃ later, now.add? span = some later := by
  obtain ⟨hmin, hmax⟩ := h
  -- The year 9999 is the last one, so up to its end there are 999 years from any usual instant.
  have hlast : Calendar.startOfYear 10000 * 86400 * nanosPerSecond = maxInstantNanos + 1 := by
    decide
  have hrange : minInstantNanos ≤ now.nanoseconds + span.nanoseconds ∧
      now.nanoseconds + span.nanoseconds ≤ maxInstantNanos := by
    simp only [minInstantNanos]
    rw [Int.sub_mul, Int.sub_mul, hlast] at hspan
    omega
  exact exists_ofNanoseconds?_iff.mpr hrange

/-! ## What is told of look-ups and what is entered -/

/-- Whether a call is on its way out because it has broken off. -/
def Cache.Stage.IsBroken : Stage → Prop
  | leaving _ ending | parting _ ending => ending = .broken
  | _ => False

/-- No lease that is entered expires before 1970. -/
def Cache.Entries.Lasting (entries : Entries) : Prop :=
  ∀ request lease, entries.lookup request = some lease → 0 ≤ lease.expiresAt.nanoseconds

namespace GeneratorSettings

variable {settings : GeneratorSettings} {history : List Event} {state : State} {call : Call}
  {request : TokenRequest} {number : Nat}

/-- The rules of a cache that fetches from the token generator. -/
def cacheRules (settings : GeneratorSettings) : Rules :=
  .ofFetcher settings.fetcher usualMargin

theorem Ready.lifetime_pos (h : settings.Ready) (request : TokenRequest) :
    0 < (settings.lifetime request).nanoseconds := by
  unfold lifetime
  cases httl : request.ttl? with
  | none => exact h.defaultTtl
  | some span =>
    obtain ⟨text, n, -, hread, hnanos⟩ := TokenRequest.exists_of_ttl? httl
    have hpos := Text.positiveSeconds?_pos hread
    simp only [Option.getD_some, nanosPerSecond] at hnanos ⊢
    omega

/-- A fetch from the token generator has a result. -/
theorem outcome_ne_broken (request : TokenRequest) (now : Instant) (network : Http.Network) :
    (settings.fetcher.call request now network).1.outcome ≠ .broken := by
  show FetchEnd.ofResult (settings.fetch request network).1 ≠ .broken
  cases (settings.fetch request network).1 <;> nofun

/-! ## Any look-ups -/

/-- The clock was read at usual instants only, and every fetch has ended as one from the token
generator can. -/
structure Serves (settings : GeneratorSettings) (history : List Event) : Prop where
  instants : ∀ event ∈ history, ∀ now, event.reading? = some now → now.IsUsual
  outcomes : ∀ number outcome, .answered number outcome ∈ history →
    ∃ request now network, outcome = (settings.fetcher.call request now network).1.outcome

theorem Serves.before {later : List Event} (h : settings.Serves (history ++ later)) :
    settings.Serves history where
  instants := fun event hevent => h.instants event (List.mem_append_left _ hevent)
  outcomes := fun number outcome hanswered =>
    h.outcomes number outcome (List.mem_append_left _ hanswered)

/-- A look-up was answered with a token whose lifetime leads out of the calendar. -/
def Overruns (settings : GeneratorSettings) (history : List Event) (number : Nat) : Prop :=
  ∃ request askedAt token, .asked number request askedAt ∈ history ∧
    .answered number (.token token) ∈ history ∧
    askedAt.add? (settings.lifetime request) = none

theorem not_overruns_of_unanswered (h : ∀ outcome, .answered number outcome ∉ history) :
    ¬settings.Overruns history number := by
  rintro ⟨-, -, token, -, hanswered, -⟩
  exact h _ hanswered

/-- Only by its question and the answer to it does a look-up come to overrun. -/
theorem overruns_append_iff {event : Event}
    (hasked : ∀ request askedAt, event ≠ .asked number request askedAt)
    (hanswered : ∀ outcome, event ≠ .answered number outcome) :
    settings.Overruns (history ++ [event]) number ↔ settings.Overruns history number := by
  have hold : ∀ other ∈ history ++ [event], other ≠ event → other ∈ history := by
    intro other hother hne
    exact (List.mem_append.mp hother).resolve_right fun hnew => hne (List.mem_singleton.mp hnew)
  constructor
  -- The event is neither a question nor an answer, so both of these were there before.
  · rintro ⟨request, askedAt, token, hask, hanswer, hsum⟩
    exact ⟨request, askedAt, token, hold _ hask (hasked _ _).symm,
      hold _ hanswer (hanswered _).symm, hsum⟩
  · rintro ⟨request, askedAt, token, hask, hanswer, hsum⟩
    exact ⟨request, askedAt, token, List.mem_append_left _ hask,
      List.mem_append_left _ hanswer, hsum⟩

/-- The margin before the expiry of a lease in the store never leads out of the calendar. -/
theorem Ready.freshLease?_ne_none (hready : settings.Ready)
    (h : Reaches settings.cacheRules history state) (hserves : settings.Serves history)
    (request : TokenRequest) (now : Instant) :
    state.freshLease? request.key settings.cacheRules.margin now ≠ none := by
  have hmargin : 0 ≤ settings.cacheRules.margin.nanoseconds :=
    usualMargin.nanoseconds_clamped_nonneg
  intro hnone
  obtain ⟨lease, hlease, hlt⟩ := (State.freshLease?_eq_none_iff hmargin).mp hnone
  -- The lease was asked for at a usual instant, and expires later than that.
  obtain ⟨asker, hissued⟩ := h.issued_of_fetch? hlease
  have husual := hserves.instants _ hissued.asked _ rfl
  have hrule : settings.cacheRules.lifetime request = .fixed (settings.lifetime request) := rfl
  simp only [Issued, hrule] at hissued
  have hnonneg := husual.nonneg_of_add? (hready.lifetime_pos request) hissued.2
  have hle := (Instant.exists_sub?_iff hmargin).mp (Instant.exists_sub?_usualMargin hnonneg)
  exact absurd hlt (Int.not_lt.mpr hle)

/-- A look-up that has not yet been answered is not told to have been. -/
theorem unanswered (h : Reaches settings.cacheRules history state) (hcall : call ∈ state.calls)
    (hposition : call.stage.position ≤ 3) : ∀ outcome, .answered call.number outcome ∉ history := by
  intro outcome hanswered
  have hlt : 3 < call.stage.position := h.position_lt call hcall _ hanswered rfl 3 rfl
  omega

/-- A look-up overruns with its answer if that is a token, and the lifetime since its question
leads out of the calendar. -/
theorem overruns_answered_iff {gate : Nat} {askedAt : Instant} {outcome : FetchEnd}
    (h : Reaches settings.cacheRules history state)
    (hcall : ⟨number, request, .fetching gate askedAt⟩ ∈ state.calls) :
    settings.Overruns (history ++ [.answered number outcome]) number ↔
      (∃ token, outcome = .token token) ∧ askedAt.add? (settings.lifetime request) = none := by
  have hasked : .asked number request askedAt ∈ history := h.fetched _ hcall
  have hnone := unanswered h hcall (Nat.le_refl _)
  constructor
  · rintro ⟨other, otherAt, token, hother, hanswered, hsum⟩
    rcases List.mem_append.mp hanswered with hold | hnew
    · exact absurd hold (hnone _)
    · obtain rfl := (Event.answered.inj (List.mem_singleton.mp hnew)).2
      rcases List.mem_append.mp hother with hold | hnew
      · -- It has asked only once.
        cases h.eq_of_position hasked hold rfl rfl rfl rfl
        exact ⟨⟨token, rfl⟩, hsum⟩
      · cases List.mem_singleton.mp hnew
  · rintro ⟨⟨token, rfl⟩, hsum⟩
    exact ⟨request, askedAt, token, List.mem_append_left _ hasked,
      List.mem_append_right _ List.mem_cons_self, hsum⟩

/-- After every history those look-ups are breaking off that have overrun. -/
theorem Ready.isBroken_iff (hready : settings.Ready)
    (h : Reaches settings.cacheRules history state) :
    ∀ call ∈ state.calls, settings.Serves history →
      (call.stage.IsBroken ↔ settings.Overruns history call.number) := by
  refine h.forall_calls
    (motive := fun history call => settings.Serves history →
      -- What is broken and what has overrun change together, by one step at a time.
      (call.stage.IsBroken ↔ settings.Overruns history call.number))
    ?lookUp ?invalidate ?keep ?step
  case lookUp | invalidate =>
    -- A call that has just begun has not been answered.
    intro past state hpast request _
    refine iff_of_false (by rintro ⟨⟩) (not_overruns_of_unanswered fun outcome hanswered => ?_)
    rcases List.mem_append.mp hanswered with hold | hnew
    · exact absurd (hpast.number_lt _ hold _ rfl) (Nat.lt_irrefl _)
    · cases List.mem_singleton.mp hnew
  case keep =>
    intro past state event state' _ _ call _ hne ih hserves
    rw [overruns_append_iff, ih hserves.before]
    · rintro request askedAt rfl
      exact hne rfl
    · rintro outcome rfl
      exact hne rfl
  case step =>
    intro past state number request stage progress next hpast hcall ih hstep hnext hserves
    have hpast_iff := ih hserves.before
    cases hstep <;> cases hnext
    -- The margin before a lease in the store does not lead out of the calendar, so the look has an
    -- answer.
    case checkBroken hfresh =>
      exact absurd hfresh (hready.freshLease?_ne_none hpast hserves.before request _)
    case ask now =>
      refine iff_of_false (by rintro ⟨⟩) (not_overruns_of_unanswered fun outcome hanswered => ?_)
      rcases List.mem_append.mp hanswered with hold | hnew
      · exact unanswered hpast hcall (Nat.le_succ _) outcome hold
      · cases List.mem_singleton.mp hnew
    -- The token generator always comes to a result.
    case answerBroken =>
      obtain ⟨given, now, network, houtcome⟩ :=
        hserves.outcomes number .broken (List.mem_append_right _ List.mem_cons_self)
      exact absurd houtcome.symm (outcome_ne_broken given now network)
    case answerFailed failure =>
      refine iff_of_false (by rintro ⟨⟩) ?_
      rw [Call.fail, overruns_answered_iff hpast hcall]
      rintro ⟨⟨token, hfailed⟩, -⟩
      cases hfailed
    -- The token is there, and the sum of the instant and the lifetime is not.
    case answerOverflow token ttl hsum hrule =>
      obtain rfl : settings.lifetime request = ttl := LifetimeRule.fixed.inj hrule
      exact iff_of_true rfl ((overruns_answered_iff hpast hcall).mpr ⟨⟨token, rfl⟩, hsum⟩)
    case answerFixed expiresAt token ttl hsum hrule =>
      obtain rfl : settings.lifetime request = ttl := LifetimeRule.fixed.inj hrule
      refine iff_of_false (by rintro ⟨⟩) ?_
      rw [overruns_answered_iff hpast hcall, hsum]
      rintro ⟨-, hnone⟩
      cases hnone
    case answerClaim hrule => cases hrule
    -- The other steps neither ask nor are answered, and none of them breaks off.
    all_goals
      refine Iff.trans ?_ (hpast_iff.trans (overruns_append_iff ?_ ?_).symm)
      · first | exact Iff.rfl | exact iff_of_false (by rintro ⟨⟩) (by rintro ⟨⟩)
      · intro request askedAt heq
        cases heq
      · intro outcome heq
        cases heq

/-- A look-up ends by breaking off if it was on its way out because of that. -/
theorem Ready.broken_iff_of_ended (hready : settings.Ready) {ending : Ending} {state' : State}
    (hpast : Reaches settings.cacheRules history state) (hserves : settings.Serves history)
    (h : Happens settings.cacheRules state (.ended number ending) state') :
    ∃ call ∈ state.calls, call.number = number ∧ (ending = .broken ↔ call.stage.IsBroken) := by
  generalize hevent : Event.ended number ending = event at h
  cases h with
  -- The other actions are no end of a call.
  | lookUp request | invalidate request | peek request => cases hevent
  | @goOn call progress hcall hstep =>
    obtain ⟨number, request, stage⟩ := call
    refine ⟨_, hcall, ?_⟩
    cases hstep <;> cases hevent
    -- A call does not break off while it looks, for its question has an answer.
    case goOn.lookBroken.refl hfresh =>
      exact absurd hfresh (hready.freshLease?_ne_none hpast hserves request _)
    case goOn.partBroken.refl => exact ⟨rfl, iff_of_true rfl rfl⟩
    all_goals exact ⟨rfl, iff_of_false nofun nofun⟩

/-- A look-up ends by breaking off if and only if it has overrun. -/
theorem Ready.broken_iff_overruns (hready : settings.Ready) {later : List Event} {ending : Ending}
    (h : Reaches settings.cacheRules (history ++ .ended number ending :: later) state)
    (hserves : settings.Serves history) :
    ending = .broken ↔ settings.Overruns history number := by
  obtain ⟨before, _, hbefore, hhappens⟩ := h.split
  obtain ⟨call, hcall, rfl, hending⟩ := hready.broken_iff_of_ended hbefore hserves hhappens
  exact hending.trans (hready.isBroken_iff hbefore call hcall hserves)

/-! ## Look-ups one after the other -/

/-- A session of the token generator whose clock has always shown a usual instant. -/
inductive Serving (settings : GeneratorSettings) : Session Http.Network → Prop where
  | start (network : Http.Network) {now : Instant} (husual : now.IsUsual) :
    Serving settings (.start settings.fetcher network usualMargin (.manual now))
  | obey {session : Session Http.Network} (h : Serving settings session) (command : Command)
      (husual : (session.obey command).2.clock.now.IsUsual) :
    Serving settings (session.obey command).2

/-- There is no fresh lease for a request, so it is fetched; the token generator sends a token, and
the lifetime from now on leads out of the calendar. -/
structure WillOverrun (settings : GeneratorSettings) (session : Session Http.Network)
    (request : TokenRequest) : Prop where
  missed : session.state.freshLease? (settings.canonical request).key settings.cacheRules.margin
    session.clock.now = some none
  fetched : ∃ token, (settings.fetch (settings.canonical request) session.source).1 = .ok token
  sum : session.clock.now.add? (settings.lifetime (settings.canonical request)) = none

/-- How a look-up ends that fetches from the token generator. -/
def endingOf (settings : GeneratorSettings) (ledger : Ledger Http.Network)
    (request : TokenRequest) : Ending :=
  (LifetimeRule.fixed (settings.lifetime request)).ending ledger.now ledger.now
    (.ofResult (settings.fetch request ledger.source).1)

/-- A fetch from the token generator takes no time. -/
theorem fetch_ledger (ledger : Ledger Http.Network) (request : TokenRequest) :
    (ledger.fetch settings.fetcher request).1 = (settings.endingOf ledger request).reply ∧
      (ledger.fetch settings.fetcher request).2.entries =
        ledger.entries.after request (settings.endingOf ledger request) := by
  have hlatency : ledger.now.add?
      (settings.fetcher.call request ledger.now ledger.source).1.latency = some ledger.now :=
    ledger.now.add?_zero
  simp only [Ledger.fetch, hlatency]
  exact ⟨rfl, rfl⟩

/-- A look-up that fetches fails, or gets a token whose lifetime leads out of the calendar, or one
that expires at some instant. -/
theorem endingOf_cases (settings : GeneratorSettings) (ledger : Ledger Http.Network)
    (request : TokenRequest) :
    (∃ failure, (settings.fetch request ledger.source).1 = .error failure ∧
      settings.endingOf ledger request = .result (.error failure)) ∨
    ((∃ token, (settings.fetch request ledger.source).1 = .ok token) ∧
      ledger.now.add? (settings.lifetime request) = none ∧
      settings.endingOf ledger request = .broken) ∨
    ∃ token expiresAt, ledger.now.add? (settings.lifetime request) = some expiresAt ∧
      settings.endingOf ledger request = .result (.ok ⟨token, ledger.now, expiresAt⟩) := by
  unfold endingOf
  -- What the fetch gives and whether the sum exists decide; there is no other case.
  cases (settings.fetch request ledger.source).1 with
  | error failure => exact .inl ⟨failure, rfl, rfl⟩
  | ok token =>
    cases hsum : ledger.now.add? (settings.lifetime request) with
    | none =>
      refine .inr (.inl ⟨⟨token, rfl⟩, rfl, ?_⟩)
      simp only [FetchEnd.ofResult, LifetimeRule.ending, hsum]
    | some expiresAt =>
      refine .inr (.inr ⟨token, expiresAt, rfl, ?_⟩)
      simp only [FetchEnd.ofResult, LifetimeRule.ending, hsum]

/-- A look-up that fetches breaks off if it gets a token whose lifetime leads out of the calendar,
and has a result if not. -/
theorem reply_fetch_ledger (ledger : Ledger Http.Network) (request : TokenRequest) :
    ((∃ token, (settings.fetch request ledger.source).1 = .ok token) ∧
        ledger.now.add? (settings.lifetime request) = none →
      (ledger.fetch settings.fetcher request).1 = .broken) ∧
    (¬((∃ token, (settings.fetch request ledger.source).1 = .ok token) ∧
        ledger.now.add? (settings.lifetime request) = none) →
      ∃ result, (ledger.fetch settings.fetcher request).1 = .ended result) := by
  rw [(fetch_ledger ledger request).1]
  rcases settings.endingOf_cases ledger request with
    ⟨failure, hfailed, hending⟩ | ⟨htoken, hsum, hending⟩ | ⟨token, expiresAt, hsum, hending⟩
  · rw [hending, hfailed]
    refine ⟨?_, fun _ => ⟨.error failure, rfl⟩⟩
    rintro ⟨⟨token, hok⟩, -⟩
    cases hok
  · rw [hending]
    exact ⟨fun _ => rfl, fun hnot => absurd ⟨htoken, hsum⟩ hnot⟩
  · rw [hending, hsum]
    refine ⟨?_, fun _ => ⟨_, rfl⟩⟩
    rintro ⟨-, hnone⟩
    cases hnone

/-- A look-up that fetches at a usual instant enters no lease that expires before 1970. -/
theorem Ready.lasting_fetch (hready : settings.Ready) {ledger : Ledger Http.Network}
    (husual : ledger.now.IsUsual) (hlasting : ledger.entries.Lasting) (request : TokenRequest) :
    (ledger.fetch settings.fetcher request).2.entries.Lasting := by
  rw [(fetch_ledger ledger request).2]
  rcases settings.endingOf_cases ledger request with
    ⟨failure, -, hending⟩ | ⟨-, -, hending⟩ | ⟨token, expiresAt, hsum, hending⟩
  · rw [hending]
    exact hlasting
  · rw [hending]
    exact hlasting
  · rw [hending]
    intro other lease hlease
    -- Only the lease that is fetched is new. It was asked for at a usual instant, and expires after
    -- that.
    by_cases hother : other = request
    · rw [hother, Entries.after, Finmap.lookup_insert] at hlease
      cases hlease
      exact husual.nonneg_of_add? (hready.lifetime_pos request) hsum
    · rw [Entries.after, Finmap.lookup_insert_of_ne _ hother] at hlease
      exact hlasting other lease hlease

/-- A look-up either leaves what is entered or fetches. -/
theorem Ready.lasting_get (hready : settings.Ready) {ledger : Ledger Http.Network} {margin : Span}
    (husual : ledger.now.IsUsual) (hlasting : ledger.entries.Lasting) (request : TokenRequest) :
    (ledger.get settings.fetcher margin request).2.entries.Lasting := by
  have hfetched := hready.lasting_fetch husual hlasting (settings.fetcher.canonical request)
  unfold Ledger.get
  dsimp only
  -- Whether a look-up fetches or not, it enters no other lease.
  split
  next => exact hfetched
  next =>
    split
    next => exact hlasting
    next =>
      split
      · exact hfetched
      · exact hlasting

/-- No command enters a lease that expires before 1970. -/
theorem Ready.lasting_obey (hready : settings.Ready) {ledger : Ledger Http.Network} {margin : Span}
    (husual : ledger.now.IsUsual) (hlasting : ledger.entries.Lasting) (command : Command) :
    (ledger.obey settings.fetcher margin command).2.entries.Lasting := by
  cases command with
  | get request | token request => exact hready.lasting_get husual hlasting request
  | peek request | size | isEmpty | setClock now => exact hlasting
  | invalidate request =>
    -- What is taken away was lasting, and the rest stays.
    intro other lease hlease
    by_cases hother : other = settings.fetcher.canonical request
    · rw [Ledger.obey, hother, Finmap.lookup_erase] at hlease
      cases hlease
    · rw [Ledger.obey, Finmap.lookup_erase_ne hother] at hlease
      exact hlasting other lease hlease
  | advanceClock span =>
    unfold Ledger.obey
    dsimp only
    split <;> exact hlasting

/-- A session whose clock has always shown a usual instant is like a ledger in which no lease
expires before 1970. -/
theorem Ready.exists_ledger (hready : settings.Ready) {session : Session Http.Network}
    (h : settings.Serving session) :
    ∃ ledger, Mirrors settings.fetcher usualMargin ledger session ∧ ledger.now.IsUsual ∧
      ledger.entries.Lasting := by
  -- What the session does the ledger does, and it enters lasting leases only.
  induction h with
  | start network husual =>
    refine ⟨_, Mirrors.start settings.fetcher network usualMargin _, husual, ?_⟩
    intro request lease hlease
    rw [Ledger.start, Finmap.lookup_empty] at hlease
    cases hlease
  | obey h command husual ih =>
    obtain ⟨ledger, hmirrors, hnow, hlasting⟩ := ih
    have hafter := (hmirrors.obey command).2
    refine ⟨_, hafter, ?_, hready.lasting_obey hnow hlasting command⟩
    rwa [hafter.clock_eq] at husual

/-- A look-up by itself breaks off if it will overrun, and has a result if not. -/
theorem Ready.get_of_serving (hready : settings.Ready) {session : Session Http.Network}
    (h : settings.Serving session) (request : TokenRequest) :
    (settings.WillOverrun session request → (session.get request).1 = .broken) ∧
    (¬settings.WillOverrun session request →
      ∃ result, (session.get request).1 = .ended result) := by
  obtain ⟨ledger, hmirrors, -, hlasting⟩ := hready.exists_ledger h
  have hnow : session.clock.now = ledger.now := congrArg Clock.now hmirrors.clock_eq
  have hsource := hmirrors.source_eq
  have hmargin : session.rules.margin = settings.cacheRules.margin :=
    congrArg Rules.margin hmirrors.rules_eq
  have hcanonical : session.rules.canonical request = settings.canonical request :=
    congrArg (Rules.canonical · request) hmirrors.rules_eq
  have hfresh := hmirrors.freshLease? request
  rw [hcanonical, hmargin, ← State.freshLease?_of_store rfl] at hfresh
  have hfetch := settings.reply_fetch_ledger ledger (settings.canonical request)
  rw [(hmirrors.get request).1]
  -- If there is no fresh lease it fetches.
  have hmissed (hmiss : session.state.freshLease? (settings.canonical request).key
      settings.cacheRules.margin ledger.now = some none) :
      settings.WillOverrun session request ↔
        (∃ token, (settings.fetch (settings.canonical request) ledger.source).1 = .ok token) ∧
          ledger.now.add? (settings.lifetime (settings.canonical request)) = none := by
    constructor
    · rintro ⟨-, hfetched, hsum⟩
      exact ⟨hsource ▸ hfetched, hnow ▸ hsum⟩
    · rintro ⟨hfetched, hsum⟩
      exact ⟨hnow ▸ hmiss, hsource ▸ hfetched, hnow ▸ hsum⟩
  cases hlease : ledger.entries.lookup (settings.fetcher.canonical request) with
  | none =>
    rw [hlease] at hfresh
    rw [Ledger.get_of_absent hlease, hmissed hfresh]
    exact hfetch
  | some lease =>
    obtain ⟨limit, hlimit⟩ := Instant.exists_sub?_usualMargin (hlasting _ _ hlease)
    rw [hlease] at hfresh
    -- The lease counts only if the margin before its expiry has not begun.
    by_cases hstale : limit ≤ ledger.now
    · have hnot : ¬ledger.now < limit := Int.not_lt.mpr hstale
      simp only [Lease.isFreshAt?, hlimit, Option.map_some, hnot, decide_false] at hfresh
      rw [Ledger.get_of_stale hlease hlimit hstale, hmissed hfresh]
      exact hfetch
    · have hlt : ledger.now < limit := Int.not_le.mp hstale
      simp only [Lease.isFreshAt?, hlimit, Option.map_some, hlt, decide_true, if_true] at hfresh
      rw [Ledger.get_of_fresh hlease hlimit hstale]
      -- A look-up that finds a fresh lease does not fetch, so it will not overrun.
      refine ⟨fun hoverrun => ?_, fun _ => ⟨_, rfl⟩⟩
      have hmiss := hoverrun.missed
      rw [hnow, hfresh] at hmiss
      cases hmiss

/-- Whatever look-ups are under way, and whenever at usual instants they are: each of them that ends
breaks off if and only if it has overrun.  A look-up by itself does end, and has a result unless it
will overrun.  No lifetime overruns that is not longer than the last 999 years of the calendar. -/
theorem lookUp_broken_iff_overruns (haccepted : settings.Accepted) :
    (∀ history number ending later state,
      Reaches settings.cacheRules (history ++ .ended number ending :: later) state →
      settings.Serves history → (ending = .broken ↔ settings.Overruns history number)) ∧
    (∀ session, settings.Serving session → ∀ request,
      (settings.WillOverrun session request → (session.get request).1 = .broken) ∧
      (¬settings.WillOverrun session request →
        ∃ result, (session.get request).1 = .ended result)) ∧
    (∀ request (now : Instant), now.IsUsual →
      (settings.lifetime request).nanoseconds ≤
        (Calendar.startOfYear 10000 - Calendar.startOfYear 9001) * 86400 * nanosPerSecond →
      ∃ expiresAt, now.add? (settings.lifetime request) = some expiresAt) := by
  have hready := haccepted.ready
  refine ⟨fun history number ending later state => ?_, fun session => ?_, fun request now => ?_⟩
  · exact hready.broken_iff_overruns
  · exact hready.get_of_serving
  · exact fun husual => husual.exists_add? (hready.lifetime_pos request)

end GeneratorSettings

namespace Sample

/-- A request for a token that lives as long as can be asked for. -/
def longest : TokenRequest :=
  ⟨.platform, NameMap.empty.insert TokenRequest.ttlName "9223372036854775807"⟩

/-- The first of March in 2025, at noon. -/
def noon : Instant := ⟨1740830400000000000, by decide⟩

/-- A network that answers with a token. -/
def network : Http.Network := .replying .utf8 [.answer 200 none (Text.bytes "token")] []

/-- An empty cache of the token generator on that network. -/
def session : Session Http.Network :=
  .start settings.fetcher network usualMargin (.manual noon)

theorem noon_isUsual : noon.IsUsual := by decide

theorem fetch_longest :
    (settings.fetch (settings.canonical longest) network).1 = .ok ⟨"token"⟩ :=
  eq_ok_of_toOption (by decide +kernel)

/-- What happens in a look-up of that request until it ends. -/
def untilBroken : List Event :=
  let request := settings.canonical longest
  [.began 0 longest, .read 0 noon, .moved 0, .moved 0, .entered 0, .read 0 noon, .moved 0,
    .asked 0 request noon, .answered 0 (.token ⟨"token"⟩), .moved 0]

theorem reaches_broken :
    ∃ state, Reaches settings.cacheRules (untilBroken ++ [.ended 0 .broken]) state := by
  have hreaches : ∀ history state,
      run settings.cacheRules [] .initial
        [.lookUp longest, .read 0 noon, .proceed 0, .proceed 0, .proceed 0, .read 0 noon,
          .proceed 0, .read 0 noon, .answer 0 (.token ⟨"token"⟩), .proceed 0, .proceed 0] =
        some (history, state) →
      Reaches settings.cacheRules history state := fun _ _ => Reaches.start.run
  exact ⟨_, hreaches _ _ rfl⟩

theorem serves_untilBroken : settings.Serves untilBroken where
  instants := by
    intro event hevent now hnow
    suffices hnoon : now = noon from hnoon ▸ noon_isUsual
    simp only [untilBroken, List.mem_cons, List.not_mem_nil, or_false] at hevent
    -- The clock is read at noon and at no other time.
    rcases hevent with rfl | rfl | rfl | rfl | rfl | rfl | rfl | rfl | rfl | rfl <;> cases hnow <;>
      rfl
  outcomes := by
    intro number outcome hanswered
    simp only [untilBroken, List.mem_cons, List.not_mem_nil, or_false, reduceCtorEq, false_or]
      at hanswered
    obtain ⟨rfl, rfl⟩ := Event.answered.inj hanswered
    -- The one answer is what a fetch gives at noon.
    refine ⟨settings.canonical longest, noon, network, ?_⟩
    show _ = FetchEnd.ofResult (settings.fetch (settings.canonical longest) network).1
    rw [fetch_longest]
    rfl

/-- A look-up for the longest lifetime overruns, and one for the usual lifetime has a result. -/
theorem overruns_of_samples :
    settings.Overruns untilBroken 0 ∧
      ∃ result, (session.get ⟨.platform, .empty⟩).1 = .ended result := by
  obtain ⟨hbroken, hget, -⟩ := GeneratorSettings.lookUp_broken_iff_overruns settings_accepted
  obtain ⟨state, hreaches⟩ := reaches_broken
  refine ⟨(hbroken _ _ _ _ _ hreaches serves_untilBroken).mp rfl, ?_⟩
  refine (hget session (.start network noon_isUsual) _).2 fun hoverrun => ?_
  exact absurd hoverrun.sum (by decide)

/-- The token generator sends a token for the longest lifetime, and the look-up breaks off. -/
theorem longest_breaks_off :
    settings.Accepted ∧ noon.IsUsual ∧
      TokenRequest.ofPairs .platform [("ttl", "9223372036854775807")] = .ok longest ∧
      (settings.fetch (settings.canonical longest) network).1 = .ok ⟨"token"⟩ ∧
      (session.get longest).1 = .broken ∧ ¬∃ result, (session.get longest).1 = .ended result := by
  have hbroken : (session.get longest).1 = .broken :=
    (settings_accepted.ready.get_of_serving (.start network noon_isUsual) longest).1
      ⟨rfl, ⟨⟨"token"⟩, fetch_longest⟩, by decide⟩
  refine ⟨settings_accepted, noon_isUsual, by decide, fetch_longest, hbroken, ?_⟩
  rintro ⟨result, hended⟩
  cases hbroken.symm.trans hended

end Sample

end BearerCache
