import BearerCache.Proofs.SharedLease
import BearerCache.Proofs.Writes

/-! # What waiting look-ups get from a fetch

Look-ups that wait at the gate of a key while one of them fetches do not get the outcome of the
fetch.  They get through one by one, and look for a fresh lease.  So they share the fetch as long as
the lease that it leaves is fresh when they look; a fetch that fails is shared by nobody, and the
next look-up that gets through starts one of its own.

## Key results

- `Reaches.not_entered`: nobody who waits gets through before the lease is saved
- `Reaches.isOwn`: a look-up that has waited has fetched its result itself, or has found it fresh
- `Reaches.shares_fetch`: who shares a fetch, and what the others get
- `Sample.failed_fetch_unshared`: a fetch that fails is not shared
-/

namespace BearerCache.Cache

variable {rules : Rules} {before state : State} {past events : List Event} {number : Nat}
  {request : TokenRequest} {key : EntryKey} {stage : Stage} {progress : Progress}

/-! ## Until the lease is saved -/

/-- A look-up that has entered and has not saved is behind its gate. -/
theorem Stage.isBehind_of_position (hentered : 2 ≤ stage.position) (hstill : stage.position ≤ 4) :
    stage.isBehind := by
  cases stage <;> simp_all [Stage.position, Stage.isBehind]

/-- Until a look-up that fetches has saved its lease nobody who waits gets through. -/
theorem Reaches.not_entered (h : Reaches rules past before) {flying waiter last : Call}
    (hflying : flying ∈ before.calls) (hfetching : flying.stage.isFetching)
    (hwaiter : waiter ∈ before.calls) (hkey : waiter.key = flying.key)
    (hleads : Leads rules before events state) (hlast : last ∈ state.calls)
    (hnumber : last.number = flying.number) (hstill : last.stage.position ≤ 4) :
    .entered waiter.number ∉ events := by
  intro hentered
  -- The event at which the other one enters cuts the run in two.
  obtain ⟨first, rest, rfl⟩ := List.mem_iff_append.mp hentered
  obtain ⟨middle, hfirst, hrest⟩ := hleads.split
  obtain ⟨after, -, hhappens, -⟩ := hrest.cons
  have hreaches := h.leads hfirst
  -- When the other one enters, the look-up that fetches is between its fetching and its storing.
  have hbegun := Nat.lt_of_lt_of_le (h.numbered.number_lt flying hflying) hfirst.begun_le
  obtain ⟨stage, hmiddle, hposition⟩ := hrest.call_before hreaches hlast (hnumber ▸ hbegun)
  obtain ⟨hrequest, hposition'⟩ := hfirst.position_le h hflying hmiddle hnumber
  simp only at hposition'
  have hbehind : stage.isBehind := by
    have hthree : 3 ≤ flying.stage.position := by
      cases hstage : flying.stage <;> simp_all [Stage.isFetching, Stage.position]
    exact Stage.isBehind_of_position (by omega) (by omega)
  -- But whoever enters finds nobody behind the gate.
  have hbegun' := Nat.lt_of_lt_of_le (h.numbered.number_lt waiter hwaiter) hfirst.begun_le
  obtain ⟨enterer, henterer, hsame, progress, hstep, hevent, -⟩ :=
    hhappens.exists_callStep hbegun' rfl
  obtain ⟨hrequest', -⟩ := hfirst.position_le h hwaiter henterer hsame
  have hkeys : Call.key ⟨last.number, last.request, stage⟩ = enterer.key :=
    (congrArg TokenRequest.key hrequest).trans
      (hkey.symm.trans (congrArg TokenRequest.key hrequest').symm)
  obtain ⟨number, request, stage''⟩ := enterer
  cases hstep <;> cases hevent
  case enter gate hfree =>
    obtain ⟨gate', hgate'⟩ := Stage.gate?_of_isBehind hbehind
    obtain rfl := hreaches.gated.gate_unique hmiddle henterer hkeys hgate' rfl
    have hnobody := State.isTaken_eq_false_iff.mp hfree _ hmiddle hgate'
    cases hnobody.symm.trans hbehind

/-- A look-up that waits, and has not entered yet, still waits or has been given up. -/
theorem Reaches.waits (h : Reaches rules past before) {gate : Nat}
    (hwaiter : ⟨number, request, .queued gate⟩ ∈ before.calls)
    (hleads : Leads rules before events state) (hunentered : .entered number ∉ events)
    (lease : Lease) :
    ∃ stage?, IsAt state number request stage? ∧
      (∀ event ∈ events, event.number? = some number → event.Shares lease) ∧
      ∀ stage, stage? = some stage → stage = .queued gate ∨ stage = .parting gate .abandoned := by
  have hat : IsAt before number request (some (.queued gate)) := hwaiter
  refine hleads.follow h (·.Shares lease) (h.numbered.number_lt _ hwaiter) hat
    (motive := fun _ stage? => ∀ stage, stage? = some stage →
      stage = .queued gate ∨ stage = .parting gate .abandoned)
    (by simp) ?keep ?step (List.prefix_refl events)
  case keep => exact fun _ _ _ _ _ ih => ih
  case step =>
    intro events state stage progress hsofar _ _ hstep hwaits
    -- The look-up waits: either it is let in, which is excluded, or it is given up.
    rcases hwaits stage rfl with rfl | rfl
    · cases hstep with
      | enter hfree => exact absurd (hsofar.subset (by simp)) hunentered
      | abandonQueued => exact ⟨trivial, by rintro _ ⟨⟩; exact .inr rfl⟩
    · cases hstep
      exact ⟨trivial, by rintro _ ⟨⟩⟩

/-! ## Who fetches -/

/-- A look-up comes by its result by itself: it has asked for a token, or it has found a lease fresh
that was there before or has been saved since. -/
def Ending.IsOwn (rules : Rules) (past events : List Event) (number : Nat) (key : EntryKey) :
    Ending → Prop
  | result outcome => HasAsked number events ∨
    ∃ lease now, outcome = .ok lease ∧ .read number now ∈ events ∧
      lease.isFreshAt? now rules.margin = some true ∧
      (held past key = some lease ∨ ∃ saver, .saved saver key lease ∈ events)
  | broken | abandoned => True

/-- What a look-up that has waited has done by the time it comes to a stage. -/
def Stage.IsOwn (rules : Rules) (past events : List Event) (number : Nat) (key : EntryKey) :
    Stage → Prop
  | queued _ | entering _ | asking _ => True
  | checking _ now => .read number now ∈ events
  | fetching _ _ | judging _ _ _ | storing _ _ => HasAsked number events
  | leaving _ ending | parting _ ending => ending.IsOwn rules past events number key
  | closing outcome => (Ending.result outcome).IsOwn rules past events number key
  | starting | looking _ | arriving | releasing | removing => False

/-- A step of a look-up that has waited leads to where it should. -/
theorem CallStep.isOwn {total : List Event}
    (h : CallStep rules state ⟨number, request, stage⟩ stage progress)
    (hown : stage.IsOwn rules past total number request.key)
    (hstored : ∀ lease, state.store.fetch? request.key = some lease →
      held past request.key = some lease ∨ ∃ saver, .saved saver request.key lease ∈ total)
    (hevent : progress.event ∈ total) {next : Stage} (hnext : progress.stage = some next) :
    next.IsOwn rules past total number request.key := by
  cases h <;> cases hnext
  case readAgain => exact hevent
  case checkHit gate now lease hfresh =>
    obtain ⟨hfound, hisFresh⟩ := State.freshLease?_eq_some_some_iff.mp hfresh
    exact .inr ⟨lease, now, rfl, hown, hisFresh, hstored lease hfound⟩
  case ask now => exact ⟨request, now, hevent⟩
  -- Whoever has asked may say so, whatever comes of it.
  case answerFailed | judgeDead | save => exact .inl hown
  case answerFixed | answerClaim | judgeLive | leave | part => exact hown
  all_goals trivial

/-- The ending of a look-up that has waited is as it should be. -/
theorem CallStep.isOwn_of_ended {total : List Event}
    (h : CallStep rules state ⟨number, request, stage⟩ stage progress)
    (hown : stage.IsOwn rules past total number request.key) {ending : Ending}
    (hended : progress.event = .ended number ending) :
    ending.IsOwn rules past total number request.key := by
  cases h <;> cases hended
  case close => exact hown
  all_goals trivial

/-- A look-up that has waited comes by its result by itself. -/
theorem Reaches.isOwn (h : Reaches rules past before) {gate : Nat}
    (hwaiter : ⟨number, request, .queued gate⟩ ∈ before.calls)
    (hleads : Leads rules before events state) {ending : Ending}
    (hended : .ended number ending ∈ events) :
    ending.IsOwn rules past events number request.key := by
  -- What is said of the waiter at each stage is carried along the run.
  have hat : IsAt before number request (some (.queued gate)) := hwaiter
  have hfollow : ∃ stage?, IsAt state number request stage? ∧
      (∀ event ∈ events, event.number? = some number → ∀ ending, event = .ended number ending →
        ending.IsOwn rules past events number request.key) ∧
      ∀ stage, stage? = some stage → stage.IsOwn rules past events number request.key := by
    refine hleads.follow h _ (h.numbered.number_lt _ hwaiter) hat
      (motive := fun _ stage? => ∀ stage, stage? = some stage →
        stage.IsOwn rules past events number request.key)
      (by rintro _ ⟨⟩; trivial) ?keep ?step (List.prefix_refl events)
    case keep => exact fun _ _ _ _ _ ih => ih
    case step =>
      intro sofar state stage progress hsofar hreaches _ hstep ih
      have hown := ih stage rfl
      refine ⟨fun ending hended => hstep.isOwn_of_ended hown hended, fun next hnext =>
        hstep.isOwn hown (fun lease hfound => ?_) (hsofar.subset (by simp)) hnext⟩
      rw [hreaches.fetch?_store] at hfound
      refine (held_or_saved_of_held_append hfound).imp_right ?_
      rintro ⟨saver, hsaved⟩
      exact ⟨saver, hsofar.subset (List.mem_append_left _ hsaved)⟩
  obtain ⟨_, -, htold, -⟩ := hfollow
  exact htold _ hended rfl ending rfl

/-! ## The fetch and those who wait for it -/

/-- When the look-up that fetches saves its lease, whoever has waited and is in time shares it. -/
theorem Reaches.sharing_of_saved (h : Reaches rules past before) {flying : Call} {gate : Nat}
    {first rest : List Event} {lease : Lease} {limit : Instant} (hflying : flying ∈ before.calls)
    (hfetching : flying.stage.isFetching) (hwaiter : ⟨number, request, .queued gate⟩ ∈ before.calls)
    (hkey : request.key = flying.key)
    (hleads : Leads rules before (first ++ .saved flying.number flying.key lease :: rest) state)
    (hkept : ∀ remover found, .removed remover flying.key found ∉ rest)
    (hlimit : lease.expiresAt.sub? rules.margin = some limit) (hintime : InTime limit number rest) :
    ∃ stage?, IsAt state number request stage? ∧
      (∀ event ∈ first ++ .saved flying.number flying.key lease :: rest,
        event.number? = some number → event.Shares lease) ∧
      ∀ stage, stage? = some stage →
        Sharing (past ++ first ++ [.saved flying.number flying.key lease]) rest number flying.key
          lease limit stage := by
  obtain ⟨middle, hfirst, hsaving⟩ := hleads.split
  obtain ⟨saved, hone, hhappens, hrest⟩ := hsaving.cons
  obtain ⟨request', gate', hstoring, -⟩ := hhappens.saved
  -- Until the lease is saved nobody who waits gets through.
  have hunentered : .entered number ∉ first :=
    h.not_entered hflying hfetching hwaiter hkey hfirst hstoring rfl (Nat.le_refl 4)
  obtain ⟨stage?, hat, htoldFirst, hwaits⟩ := h.waits hwaiter hfirst hunentered lease
  -- The save itself leaves those who wait where they are.
  have hne : flying.number ≠ number := by
    intro hnumber
    rw [h.numbered.eq_of_number flying hflying _ hwaiter hnumber] at hfetching
    cases hfetching
  have hbegun := Nat.lt_of_lt_of_le (h.numbered.number_lt _ hwaiter) hfirst.begun_le
  have hatSaved : IsAt saved number request stage? :=
    hhappens.isAt_of_ne hbegun (fun heq => hne (Option.some.inj heq)) hat
  -- From then on whoever has waited shares the lease.
  obtain ⟨last?, hatLast, htoldRest, hsharing⟩ := ((h.leads hfirst).leads hone).sharing
    (Nat.lt_of_lt_of_le hbegun hone.begun_le) hatSaved hkey
    (fun stage hstage => ⟨gate, hwaits stage hstage⟩) hlimit hrest hkept hintime
  refine ⟨last?, hatLast, fun event hevent hnumber => ?_, hsharing⟩
  rcases List.mem_append.mp hevent with hmem | hmem
  · exact htoldFirst event hmem hnumber
  · rcases List.mem_cons.mp hmem with rfl | hmem
    · exact absurd (Option.some.inj hnumber) hne
    · exact htoldRest event hmem hnumber

/-- A look-up fetches and others of its key wait, and nobody invalidates.  If the look-up saves its
lease, then each of the others for which this is fresh when it reads the clock shares it: it asks for
no token, it ends with the lease unless it is given up, and it can come to this end, if it has not,
whenever the clock finds the lease fresh.  And whatever becomes of the fetch, each of the others that
ends with a result has asked for a token itself, or has ended with a lease that it has found fresh.
-/
theorem Reaches.shares_fetch (h : Reaches rules past before) {flying waiter : Call}
    (hflying : flying ∈ before.calls) (hfetching : flying.stage.isFetching)
    (hwaiter : waiter ∈ before.calls) {gate : Nat} (hqueued : waiter.stage = .queued gate)
    (hkey : waiter.key = flying.key) (hleads : Leads rules before events state)
    (hkept : ∀ remover found, .removed remover flying.key found ∉ events) :
    (∀ first lease limit rest,
      events = first ++ .saved flying.number flying.key lease :: rest →
      lease.expiresAt.sub? rules.margin = some limit → InTime limit waiter.number rest →
      ¬HasAsked waiter.number events ∧
      (∀ ending, .ended waiter.number ending ∈ events →
        ending = .result (.ok lease) ∨ ending = .abandoned) ∧
      ((∃ ending, .ended waiter.number ending ∈ events) ∨
        (∃ gate, ⟨waiter.number, waiter.request, .parting gate .abandoned⟩ ∈ state.calls) ∨
        ∀ now, now < limit → CanEnd rules now waiter.number (.result (.ok lease)) state)) ∧
    (∀ result, .ended waiter.number (.result result) ∈ events →
      HasAsked waiter.number events ∨
        ∃ lease now, result = .ok lease ∧ .read waiter.number now ∈ events ∧
          lease.isFreshAt? now rules.margin = some true ∧
          (held past flying.key = some lease ∨ ∃ saver, .saved saver flying.key lease ∈ events)) := by
  obtain ⟨number, request, stage⟩ := waiter
  obtain rfl : stage = .queued gate := hqueued
  constructor
  -- The record is saved and kept, so the waiter finds it when it is let in.
  · rintro first lease limit rest rfl hlimit hintime
    have hkeptRest : ∀ remover found, .removed remover flying.key found ∉ rest :=
      fun remover found hmem => hkept remover found (by simp [hmem])
    obtain ⟨stage?, hat, htold, hsharing⟩ := h.sharing_of_saved hflying hfetching hwaiter hkey
      hleads hkeptRest hlimit hintime
    have hreaches := h.leads hleads
    refine ⟨?_, ?_, ?_⟩
    · rintro ⟨asked, askedAt, hasked⟩
      exact htold _ hasked rfl
    · intro ending hended
      have hshares : ending.Shares lease := htold _ hended rfl
      cases ending with
      | result outcome => exact .inl (congrArg Ending.result hshares)
      | abandoned => exact .inr rfl
      | broken => exact hshares.elim
    -- It has ended, has been given up, or can still come to its end by itself.
    · rcases hleads.isAt_or_ended h hwaiter ⟨nofun, nofun⟩ with ⟨next, hnext⟩ | hended
      · cases stage? with
        | none => exact (hat _ hnext rfl).elim
        | some stage =>
          by_cases hgiven : ∃ gate, stage = .parting gate .abandoned
          · obtain ⟨gate, rfl⟩ := hgiven
            exact .inr (.inl ⟨gate, hat⟩)
          · refine .inr (.inr fun now hnow => (hsharing stage rfl).canEnd ?_ hat hkey
              (fun gate heq => hgiven ⟨gate, heq⟩) hlimit hkeptRest hintime hnow)
            simpa using hreaches
      · exact .inl hended
  -- Whatever the fetch has come to, a result that is not of an own fetch is a fresh record of the
  -- store.
  · intro result hended
    have hown : (Ending.result result).IsOwn rules past events number request.key :=
      h.isOwn hwaiter hleads hended
    rw [← hkey]
    exact hown

end BearerCache.Cache

namespace BearerCache.Cache.Sample

/-- The first look-up fetches, and the second one waits. -/
def waiting : State :=
  ⟨.empty, NameMap.empty.insert request.key.text 0, 1,
    [⟨0, request, .fetching 0 zero⟩, ⟨1, request, .queued 0⟩], 2⟩

theorem waiting_reaches : Reaches rules untilFirst.dropLast waiting :=
  Reaches.start.run (rfl : run rules [] .initial (actions.take 12) = some (_, waiting))

/-- What happens when the fetch is shared. -/
def shared : List Event :=
  [.answered 0 (.token first.token), .saved 0 request.key first, .moved 0, .entered 1,
    .read 1 zero, .moved 1, .moved 1, .moved 1, .ended 1 (.result (.ok first))]

/-- The second look-up ends with the lease that the first has fetched, and does not ask. -/
theorem waiting_shares :
    -- The actions lead along the run, which is found by computing them.
    ¬HasAsked 1 shared ∧ ∀ ending, .ended 1 ending ∈ shared →
      ending = .result (.ok first) ∨ ending = .abandoned := by
  have hleads : ∀ state, run rules [] waiting
      [.answer 0 (.token first.token), .proceed 0, .proceed 0, .proceed 1, .read 1 zero, .proceed 1,
        .proceed 1, .proceed 1, .proceed 1] = some (shared, state) →
      Leads rules waiting shared state := fun _ => Leads.refl.run
  have hintime : InTime five 1 [.moved 0, .entered 1, .read 1 zero, .moved 1, .moved 1, .moved 1,
      .ended 1 (.result (.ok first))] := by
    intro earlier reader now later hsplit _
    have hread : .read reader now ∈ earlier ++ .read reader now :: later := by simp
    obtain ⟨-, rfl⟩ : reader = 1 ∧ now = zero := by simpa [← hsplit] using hread
    decide
  have hflying : ⟨0, request, .fetching 0 zero⟩ ∈ waiting.calls := by simp [waiting]
  have hwaiter : ⟨1, request, .queued 0⟩ ∈ waiting.calls := by simp [waiting]
  obtain ⟨hshares, -⟩ := waiting_reaches.shares_fetch hflying rfl hwaiter rfl rfl (hleads _ rfl)
    (by simp [shared])
  obtain ⟨hunasked, hends, -⟩ := hshares [_] first five _ rfl (by decide) hintime
  exact ⟨hunasked, hends⟩

/-- What the server says to the first look-up. -/
def refusal : Failure := .refused .platform 503 "x"

/-- What happens when the fetch fails. -/
def failed : List Event :=
  [.answered 0 (.failed refusal), .moved 0, .moved 0, .ended 0 (.result (.error refusal)),
    .entered 1, .read 1 zero, .moved 1, .asked 1 request zero, .answered 1 (.token first.token),
    .saved 1 request.key first, .moved 1, .moved 1, .ended 1 (.result (.ok first))]

/-- A fetch that fails is not shared: the second look-up, which has waited for it, starts a fetch of
its own, and ends with another result. -/
theorem failed_fetch_unshared :
    ∃ past state, Reaches rules past waiting ∧ Leads rules waiting failed state ∧
      (∀ remover found, .removed remover request.key found ∉ failed) ∧
      .ended 0 (.result (.error refusal)) ∈ failed ∧ HasAsked 1 failed ∧
      .ended 1 (.result (.ok first)) ∈ failed := by
  -- The fetch fails, and the waiter, which finds nothing, asks itself.
  have hleads : ∀ state, run rules [] waiting
      [.answer 0 (.failed refusal), .proceed 0, .proceed 0, .proceed 0, .proceed 1, .read 1 zero,
        .proceed 1, .read 1 zero, .answer 1 (.token first.token), .proceed 1, .proceed 1,
        .proceed 1, .proceed 1] = some (failed, state) →
      Leads rules waiting failed state := fun _ => Leads.refl.run
  refine ⟨_, _, waiting_reaches, hleads _ rfl, by simp [failed], by simp [failed], ?_,
    by simp [failed]⟩
  exact ⟨request, zero, by simp [failed]⟩

end BearerCache.Cache.Sample
