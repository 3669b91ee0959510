import BearerCache.Proofs.Freshness
import BearerCache.Proofs.Lifetimes
import BearerCache.Proofs.Writes

/-! # How late a response may come

A history does not say how long a fetch takes.  Here each event stands with what the clock shows
when it happens; the clock never goes back, and whoever reads it reads what it shows.

A look-up that has not asked looked last at its lease when it read the clock for the last time, and
the lease was fresh then.  A look-up that has asked ends with a lease that counts from the asking.
If the token says when it expires, this is compared with the clock after the response has arrived.
If the lifetime is fixed nothing is compared, so a response that takes as long as the lifetime gives
a lease that has expired when it arrives.

## Key results

- `Clocked.le_of_sublist`: what is read later is not earlier
- `Way.foundLast`: a look-up that has not asked hands out what was fresh at its last reading
- `expired_iff_outlived`: exactly when a lease that is handed out has expired
-/

namespace BearerCache

/-- A fixed lifetime is over when at least as much time has passed since the issue. -/
theorem Instant.le_iff_le_spanTo {issuedAt expiresAt arrived : Instant} {ttl : Span}
    (h : issuedAt.add? ttl = some expiresAt) :
    expiresAt ≤ arrived ↔ ttl.nanoseconds ≤ (issuedAt.spanTo arrived).nanoseconds := by
  have hsum := Instant.ofNanoseconds?_nanoseconds h
  have hspan : (issuedAt.spanTo arrived).nanoseconds =
      arrived.nanoseconds - issuedAt.nanoseconds := rfl
  rw [Instant.le_def, hspan]
  omega

end BearerCache

namespace BearerCache.Cache

open scoped List

variable {rules : Rules} {state : State} {history events : List Event} {event : Event}
  {timed : List (Instant × Event)} {number : Nat} {request : TokenRequest} {lease : Lease}
  {now : Instant}

/-! ## Events and the clock -/

/-- Events that stand with what the clock shows: it never goes back, and readings are what it
shows. -/
structure Clocked (timed : List (Instant × Event)) : Prop where
  pairwise_le : timed.Pairwise fun a b => a.1 ≤ b.1
  eq_of_reading? : ∀ entry ∈ timed, ∀ reading, entry.2.reading? = some reading →
    reading = entry.1

/-- Of two events that follow each other the second does not stand with an earlier instant. -/
theorem Clocked.exists_le_of_sublist (h : Clocked timed) {first second : Event}
    (hevents : [first, second] <+ timed.map Prod.snd) :
    ∃ earlier later, (earlier, first) ∈ timed ∧ (later, second) ∈ timed ∧ earlier ≤ later := by
  obtain ⟨entries, hentries, hmap⟩ := List.sublist_map_iff.mp hevents
  obtain ⟨⟨earlier, _⟩, rest, rfl, rfl, hrest⟩ := List.map_eq_cons_iff.mp hmap.symm
  obtain ⟨⟨later, _⟩, tail, rfl, rfl, -⟩ := List.map_eq_cons_iff.mp hrest
  obtain ⟨hle, -⟩ := List.pairwise_cons.mp (h.pairwise_le.sublist hentries)
  exact ⟨earlier, later, hentries.subset List.mem_cons_self,
    hentries.subset (List.mem_cons_of_mem _ List.mem_cons_self), hle _ List.mem_cons_self⟩

/-- What is read later is not earlier. -/
theorem Clocked.le_of_sublist (h : Clocked timed) {first second : Event}
    (hevents : [first, second] <+ timed.map Prod.snd) {earlier later : Instant}
    (hfirst : first.reading? = some earlier) (hsecond : second.reading? = some later) :
    earlier ≤ later := by
  obtain ⟨shown, shownLater, hmem, hmemLater, hle⟩ := h.exists_le_of_sublist hevents
  rwa [h.eq_of_reading? _ hmem _ hfirst, h.eq_of_reading? _ hmemLater _ hsecond]

/-! ## The last reading of a look-up -/

/-- A call has read an instant, and has not read the clock since. -/
def LastRead (events : List Event) (number : Nat) (now : Instant) : Prop :=
  ∃ past later, events = past ++ .read number now :: later ∧
    ∀ other, .read number other ∉ later

theorem LastRead.append_singleton (h : LastRead events number now)
    (hevent : ∀ other, event ≠ .read number other) : LastRead (events ++ [event]) number now := by
  obtain ⟨past, later, rfl, hlater⟩ := h
  refine ⟨past, later ++ [event], by simp, fun other hmem => ?_⟩
  rcases List.mem_append.mp hmem with hold | hnew
  · exact hlater other hold
  · exact hevent other (List.mem_singleton.mp hnew).symm

/-- What has just been read is the last reading. -/
theorem LastRead.last : LastRead (events ++ [.read number now]) number now :=
  ⟨events, [], rfl, by simp⟩

theorem LastRead.mem (h : LastRead events number now) : .read number now ∈ events := by
  obtain ⟨past, later, rfl, -⟩ := h
  exact List.mem_append_right _ List.mem_cons_self

/-- Whatever else has been read was read before. -/
theorem LastRead.eq_or_sublist (h : LastRead events number now) {other : Instant}
    (hother : .read number other ∈ events) :
    other = now ∨ [.read number other, .read number now] <+ events := by
  -- The last reading divides the history, and any other reading lies before it.
  obtain ⟨past, later, rfl, hlater⟩ := h
  rcases List.mem_append.mp hother with hpast | hrest
  · refine .inr ?_
    exact (List.singleton_sublist.mpr hpast).append
      (List.singleton_sublist.mpr List.mem_cons_self)
  · rcases List.mem_cons.mp hrest with heq | hafter
    · cases heq
      exact .inl rfl
    · exact absurd hafter (hlater other)

/-- A look-up that ends with a lease has asked, or has found it fresh at its last reading. -/
def Ending.FoundLast (rules : Rules) (number : Nat) (events : List Event) : Ending → Prop
  | .result (.ok lease) =>
    HasAsked number events ∨
      ∃ now, LastRead events number now ∧ lease.isFreshAt? now rules.margin = some true
  | _ => True

/-- What is known at a stage of the last reading of a look-up, or of its asking. -/
def Stage.FoundLast (rules : Rules) (number : Nat) (events : List Event) : Stage → Prop
  | looking now | checking _ now => LastRead events number now
  | fetching _ _ | judging _ _ _ | storing _ _ => HasAsked number events
  | leaving _ ending | parting _ ending => ending.FoundLast rules number events
  | closing result => (Ending.result result).FoundLast rules number events
  | starting | arriving | queued _ | entering _ | asking _ | releasing | removing => True

theorem HasAsked.append_singleton (h : HasAsked number events) :
    HasAsked number (events ++ [event]) := by
  obtain ⟨request, askedAt, hasked⟩ := h
  exact ⟨request, askedAt, List.mem_append_left _ hasked⟩

theorem Ending.FoundLast.append_singleton {ending : Ending}
    (h : ending.FoundLast rules number events) (hevent : ∀ other, event ≠ .read number other) :
    ending.FoundLast rules number (events ++ [event]) := by
  unfold Ending.FoundLast at h ⊢
  split at h
  next lease =>
    rcases h with hasked | ⟨now, hread, hfresh⟩
    · exact .inl hasked.append_singleton
    · exact .inr ⟨now, hread.append_singleton hevent, hfresh⟩
  next => trivial

/-- A lease that a look-up finds is fresh at the instant at which it looks. -/
private theorem foundLast_of_freshLease? {key : EntryKey} (hread : LastRead events number now)
    (hfound : state.freshLease? key rules.margin now = some (some lease))
    (hevent : ∀ other, event ≠ .read number other) :
    (Ending.result (.ok lease)).FoundLast rules number (events ++ [event]) := by
  obtain ⟨-, hfresh⟩ := State.freshLease?_eq_some_some_iff.mp hfound
  exact .inr ⟨now, hread.append_singleton hevent, hfresh⟩

section

variable {stage : Stage} {progress : Progress}
  (h : CallStep rules state ⟨number, request, stage⟩ stage progress)
  (hwas : stage.FoundLast rules number events)

include h hwas

/-- A step of a look-up keeps what is known of its last reading. -/
theorem CallStep.foundLast {next : Stage} (hnext : progress.stage = some next) :
    next.FoundLast rules number (events ++ [progress.event]) := by
  cases h <;> cases hnext
  case readFirst now => exact LastRead.last
  case readAgain now => exact LastRead.last
  case checkHit hfresh => exact foundLast_of_freshLease? hwas hfresh fun _ => Event.noConfusion
  case ask now => exact ⟨request, now, List.mem_append_right _ List.mem_cons_self⟩
  case answerFixed | answerClaim | judgeLive => exact HasAsked.append_singleton hwas
  case save => exact .inl (HasAsked.append_singleton hwas)
  case leave | part => exact Ending.FoundLast.append_singleton hwas fun _ => Event.noConfusion
  all_goals exact trivial

/-- So does its last step. -/
theorem CallStep.foundLast_of_ended {ending : Ending}
    (hlast : progress.event = .ended number ending) :
    ending.FoundLast rules number (events ++ [progress.event]) := by
  cases h <;> cases hlast
  case lookHit hfresh => exact foundLast_of_freshLease? hwas hfresh fun _ => Event.noConfusion
  case close => exact Ending.FoundLast.append_singleton hwas fun _ => Event.noConfusion
  all_goals exact trivial

end

/-- On its way a look-up knows when it has read the clock for the last time. -/
theorem Way.foundLast {goal : Option Stage} (h : Way rules number request events goal) :
    (∀ stage, goal = some stage → stage.FoundLast rules number events) ∧
      ∀ ending, .ended number ending ∈ events → ending.FoundLast rules number events := by
  -- Along the way of the call, which has read the clock when it hands something out.
  induction h with
  | lookUp given | invalidate given =>
    refine ⟨?_, by simp⟩
    rintro _ ⟨⟩
    trivial
  | @step request events stage progress state hway hstep ih =>
    refine ⟨fun next hnext => hstep.foundLast (ih.1 _ rfl) hnext, fun ending hended => ?_⟩
    rcases List.mem_append.mp hended with hold | hnew
    · -- It is not told that a call is over before it is.
      exact absurd rfl (hway.not_isLast rfl hold)
    · exact hstep.foundLast_of_ended (ih.1 _ rfl) (List.mem_singleton.mp hnew).symm

/-! ## Leases that have been asked for -/

/-- A lease that a look-up has asked for and ends with is issued to it. -/
theorem Reaches.issued_of_asked (h : Reaches rules history state)
    (hbegan : .began number request ∈ history)
    (hended : .ended number (.result (.ok lease)) ∈ history) (hasked : HasAsked number history) :
    Issued rules history (rules.canonical request) lease number := by
  rcases h.shared.wrote_of_last hended rfl rfl hbegan rfl rfl with ⟨-, hwrites⟩ | ⟨hunasked, -⟩
  -- It has written one lease, so what was saved is what it has ended with.
  · have hsaved : .saved number (rules.canonical request).key lease ∈ history := by
      have hmem : .saved number (rules.canonical request).key lease ∈
          writes (eventsOf number history) := by simp [hwrites]
      exact (mem_eventsOf.mp (List.mem_filter.mp hmem).1).1
    obtain ⟨past, later, rfl⟩ := List.mem_iff_append.mp hsaved
    obtain ⟨other, hkey, hissued⟩ := h.issued_of_saved
    obtain rfl := TokenRequest.key_injective hkey
    exact hissued.append _
  · exact absurd (hasAsked_eventsOf.mpr hasked) hunasked

/-- When the response to a fetch arrived, and how late that was: nothing else has arrived for the
look-up, and the lease had expired by then if and only if its lifetime is a fixed one and no longer
than what the response took. -/
structure Arrives (rules : Rules) (timed : List (Instant × Event)) (number : Nat)
    (request : TokenRequest) (lease : Lease) (arrived : Instant) : Prop where
  answered : (arrived, .answered number (.token lease.token)) ∈ timed
  unique : ∀ other outcome, (other, .answered number outcome) ∈ timed → other = arrived
  issuedAt_le : lease.issuedAt ≤ arrived
  expired_iff : lease.expiresAt ≤ arrived ↔
    ∃ ttl, rules.lifetime request = .fixed ttl ∧
      ttl.nanoseconds ≤ (lease.issuedAt.spanTo arrived).nanoseconds

/-- The response to a fetch arrives after the asking, and before the clock is read again. -/
theorem Issued.arrives (h : Issued rules (timed.map Prod.snd) request lease number)
    (hreaches : Reaches rules (timed.map Prod.snd) state) (hclock : Clocked timed) :
    ∃ arrived, Arrives rules timed number request lease arrived := by
  -- The event of the asking comes before that of the answer, and so do their instants.
  obtain ⟨askedAt, arrived, hasked, hanswered, hle⟩ := hclock.exists_le_of_sublist h.sublist
  have hunique : ∀ other outcome, (other, .answered number outcome) ∈ timed →
      other = arrived := by
    intro other outcome hother
    have hsame := Event.eq_of_pairwise_follows hreaches.pairwise_follows hother hanswered
      rfl rfl rfl rfl
    exact congrArg Prod.fst hsame
  refine ⟨arrived, hanswered, hunique, ?_, ?_⟩
  · rwa [hclock.eq_of_reading? _ hasked lease.issuedAt rfl]
  · unfold Issued at h
    split at h
    next ttl hrule =>
      rw [Instant.le_iff_le_spanTo h.2]
      simp [hrule]
    next hrule =>
      -- The clock is read again after the response has arrived, and the token is live then.
      obtain ⟨now, hevents, -, hlive⟩ := h
      have hafter : [.answered number (.token lease.token), .read number now] <+
          timed.map Prod.snd := (List.sublist_cons_self _ _).trans hevents
      obtain ⟨shown, judged, hshown, hjudged, hbefore⟩ := hclock.exists_le_of_sublist hafter
      have hnow : now = judged := hclock.eq_of_reading? _ hjudged now rfl
      obtain rfl := hunique shown _ hshown
      simp only [hrule, reduceCtorEq, false_and, exists_false, iff_false]
      rw [← hnow, Instant.le_def] at hbefore
      rw [Instant.lt_def] at hlive
      rw [Instant.le_def]
      omega

/-! ## What is handed out -/

variable {σ : Type} {fetcher : Fetcher σ} {margin : Span}

/-- When a look-up ends with a lease, and the clock never goes back, then the lease has expired only
if the look-up has asked for it and its lifetime is a fixed one which was over when the response
arrived; and then it has expired.  A lease that says itself when it expires is live when the
response arrives, and one that the look-up has found is live at every reading of the look-up. -/
theorem expired_iff_outlived
    (h : Reaches (.ofFetcher fetcher margin) (timed.map Prod.snd) state) (hclock : Clocked timed)
    (hbegan : .began number request ∈ timed.map Prod.snd)
    (hended : .ended number (.result (.ok lease)) ∈ timed.map Prod.snd) :
    (HasAsked number (timed.map Prod.snd) → ∃ arrived,
      Arrives (.ofFetcher fetcher margin) timed number (fetcher.canonical request) lease arrived) ∧
    (¬HasAsked number (timed.map Prod.snd) →
      (∃ now, .read number now ∈ timed.map Prod.snd) ∧
        ∀ now, .read number now ∈ timed.map Prod.snd → now < lease.expiresAt) := by
  refine ⟨fun hasked => (h.issued_of_asked hbegan hended hasked).arrives h hclock,
    fun hunasked => ?_⟩
  -- What a call knows at its end it knows by its own way.
  obtain ⟨asked, hway⟩ := h.shared.way_of_last hended rfl rfl
  have hfound : (Ending.result (.ok lease)).FoundLast (.ofFetcher fetcher margin) number
      (eventsOf number (timed.map Prod.snd)) :=
    hway.foundLast.2 _ (mem_eventsOf.mpr ⟨hended, rfl⟩)
  rcases hfound with hasked | ⟨last, hlast, hfresh⟩
  · exact absurd (hasAsked_eventsOf.mp hasked) hunasked
  -- The last reading is the latest.
  have hlive := Lease.lt_expiresAt_of_isFreshAt? (Span.nanoseconds_clamped_nonneg margin) hfresh
  refine ⟨⟨last, (mem_eventsOf.mp hlast.mem).1⟩, fun now hread => ?_⟩
  rcases hlast.eq_or_sublist (mem_eventsOf.mpr ⟨hread, rfl⟩) with rfl | hbefore
  · exact hlive
  · have hle := hclock.le_of_sublist (hbefore.trans List.filter_sublist) rfl rfl
    rw [Instant.le_def] at hle
    rw [Instant.lt_def] at hlive ⊢
    omega

end BearerCache.Cache

namespace BearerCache.Cache.Sample

/-- A fetcher that goes by the rules of the sample and takes ten seconds for a fetch. -/
def slow : Fetcher Unit :=
  ⟨rules.canonical, rules.lifetime, fun _ _ kept =>
    (⟨0, ⟨10000000000, usualMargin.inRange⟩, .token first.token⟩, kept)⟩

/-- A look-up asks when the clock shows zero and is answered when it shows ten seconds. -/
def late : List (Instant × Event) :=
  [(zero, .began 0 request), (zero, .read 0 zero), (zero, .moved 0), (zero, .moved 0),
    (zero, .entered 0), (zero, .read 0 zero), (zero, .moved 0), (zero, .asked 0 request zero),
    (ten, .answered 0 (.token first.token)), (ten, .saved 0 request.key first), (ten, .moved 0),
    (ten, .moved 0), (ten, .ended 0 (.result (.ok first)))]

theorem late_clocked : Clocked late := by
  constructor
  · simp [late, Instant.le_def, zero, ten]
  · simp [late, Event.reading?]

theorem late_reaches : ∃ state, Reaches (.ofFetcher slow .zero) (late.map Prod.snd) state := by
  have hreaches : ∀ history state, run (.ofFetcher slow .zero) [] .initial
      [.lookUp request, .read 0 zero, .proceed 0, .proceed 0, .proceed 0, .read 0 zero, .proceed 0,
        .read 0 zero, .answer 0 (.token first.token), .proceed 0, .proceed 0, .proceed 0,
        .proceed 0] = some (history, state) → Reaches (.ofFetcher slow .zero) history state :=
    fun _ _ => Reaches.start.run
  exact ⟨_, hreaches _ _ rfl⟩

/-- The lease of the late response has expired when the response arrives, and it is handed out. -/
theorem late_lease_expired :
    ∃ state, Reaches (.ofFetcher slow .zero) (late.map Prod.snd) state ∧ Clocked late ∧
      .ended 0 (.result (.ok first)) ∈ late.map Prod.snd ∧
      (ten, .answered 0 (.token first.token)) ∈ late ∧ first.expiresAt ≤ ten := by
  obtain ⟨state, hreaches⟩ := late_reaches
  exact ⟨state, hreaches, late_clocked, by simp [late], by simp [late], by decide⟩

/-- Of the late response everything is known. -/
theorem late_response_arrives :
    ∃ arrived, Arrives (.ofFetcher slow .zero) late 0 (slow.canonical request) first arrived := by
  obtain ⟨state, hreaches⟩ := late_reaches
  have hbegan : .began 0 request ∈ late.map Prod.snd := by simp [late]
  have hended : .ended 0 (.result (.ok first)) ∈ late.map Prod.snd := by simp [late]
  obtain ⟨harrives, -⟩ := expired_iff_outlived hreaches late_clocked hbegan hended
  exact harrives ⟨request, zero, by simp [late]⟩

end BearerCache.Cache.Sample
