import BearerCache.Proofs.Contents
import BearerCache.Proofs.EntryKeys
import BearerCache.Proofs.Gates

/-! # One fetch at a time for each key

While a look-up is behind the gate of its key no other look-up of the key saves anything: it would
have to be behind the gate as well.  `Call.Undisturbed` says this of every call that is behind a
gate, counted from the moment from which the rest of its way depends on it: from its entering
until it asks, and from its asking until it has saved.

So between the start of a fetch and the save of its lease there is no other save under the key,
and leases are saved in the order in which their fetches were started.  All this is the work of the
gates, so it holds whatever is in the store and whoever else writes to it.

Where nobody else does, more is known of a look-up that is about to ask: what is held under its key
is stale (`Reaches.stale_of_asking`).

## Key results

- `ReachesShared.undisturbed`: the invariant
- `ReachesShared.asked_of_saved`: what is saved was asked for, and nothing was saved in between
- `ReachesShared.single_flight`: one fetch at a time, one gate for all, and saves in order
-/

namespace BearerCache.Cache

open scoped List

variable {rules : Rules} {state : State} {history past : List Event} {event : Event}
  {call : Call} {key : EntryKey} {lease : Lease} {number : Nat} {now : Instant}

/-- Nothing is saved under a key. -/
def Unsaved (key : EntryKey) (events : List Event) : Prop :=
  ∀ number lease, .saved number key lease ∉ events

/-- Nothing has been saved under a key since an event. -/
def UnsavedSince (history : List Event) (event : Event) (key : EntryKey) : Prop :=
  ∃ past later, history = past ++ event :: later ∧ Unsaved key later

/-- A look-up has entered and read the clock, and nothing has been saved under the key since it
entered. -/
def Looked (history : List Event) (number : Nat) (key : EntryKey) (now : Instant) : Prop :=
  ∃ past later, history = past ++ .entered number :: later ∧ Unsaved key later ∧
    .read number now ∈ later

/-- What a call that is behind its gate can count on. -/
def Call.Undisturbed (history : List Event) (call : Call) : Prop :=
  match call.stage with
  | .entering _ => UnsavedSince history (.entered call.number) call.key
  | .checking _ now => Looked history call.number call.key now
  | .asking _ => ∃ now, Looked history call.number call.key now
  | .fetching _ askedAt | .judging _ askedAt _ =>
    UnsavedSince history (.asked call.number call.request askedAt) call.key
  | .storing _ lease =>
    UnsavedSince history (.asked call.number call.request lease.issuedAt) call.key
  | _ => True

/-! ## Events that save nothing under a key -/

theorem Unsaved.append_singleton (h : Unsaved key past)
    (hevent : ∀ number lease, event ≠ .saved number key lease) : Unsaved key (past ++ [event]) := by
  intro number lease hmem
  rcases List.mem_append.mp hmem with hold | hnew
  · exact h number lease hold
  · exact hevent number lease (List.mem_singleton.mp hnew).symm

/-- Nothing has been saved since what has just happened. -/
theorem UnsavedSince.last : UnsavedSince (past ++ [event]) event key :=
  ⟨past, [], rfl, by simp [Unsaved]⟩

theorem UnsavedSince.append_singleton {start : Event} (h : UnsavedSince history start key)
    (hevent : ∀ number lease, event ≠ .saved number key lease) :
    UnsavedSince (history ++ [event]) start key := by
  obtain ⟨past, later, rfl, hlater⟩ := h
  exact ⟨past, later ++ [event], by simp, hlater.append_singleton hevent⟩

theorem Looked.append_singleton (h : Looked history number key now)
    (hevent : ∀ number lease, event ≠ .saved number key lease) :
    Looked (history ++ [event]) number key now := by
  obtain ⟨past, later, rfl, hlater, hread⟩ := h
  exact ⟨past, later ++ [event], by simp, hlater.append_singleton hevent,
    List.mem_append_left _ hread⟩

/-- A look-up that has entered looks when it reads the clock. -/
theorem UnsavedSince.looked (h : UnsavedSince history (.entered number) key) (now : Instant) :
    Looked (history ++ [.read number now]) number key now := by
  obtain ⟨past, later, rfl, hlater⟩ := h
  exact ⟨past, later ++ [.read number now], by simp,
    hlater.append_singleton (fun _ _ => Event.noConfusion), by simp⟩

/-- What is held after an event that saves nothing was held before it. -/
theorem held_of_held_append_singleton (hevent : ∀ number lease, event ≠ .saved number key lease)
    (h : held (past ++ [event]) key = some lease) : held past key = some lease := by
  rw [held_append_singleton] at h
  cases hwrite : event.write? key with
  | none => rwa [hwrite, Option.getD_none] at h
  | some written =>
    rw [hwrite, Option.getD_some] at h
    obtain ⟨saver, hsaver⟩ := Event.write?_eq_some_some_iff.mp (h ▸ hwrite)
    exact absurd hsaver (hevent saver lease)

/-! ## The invariant -/

/-- What is known of a call stays true when nothing is saved under its key. -/
theorem Call.Undisturbed.append_singleton (h : call.Undisturbed history)
    (hevent : ∀ number lease, event ≠ .saved number call.key lease) :
    call.Undisturbed (history ++ [event]) := by
  obtain ⟨number, request, stage⟩ := call
  -- Stages behind the gate know that nothing was saved; the others know nothing.
  cases stage with
  | entering gate | fetching gate askedAt | judging gate askedAt token | storing gate lease =>
    exact UnsavedSince.append_singleton h hevent
  | checking gate now => exact Looked.append_singleton h hevent
  | asking gate =>
    obtain ⟨now, hlooked⟩ := h
    exact ⟨now, hlooked.append_singleton hevent⟩
  | starting | looking _ | arriving | queued _ | leaving _ _ | parting _ _ | closing _
  | releasing | removing => exact trivial

/-- A call behind its gate is the only one that can save under its key. -/
theorem Gated.number_eq_of_saved (h : Gated state) {state' : State}
    (hhappens : Happens rules state (.saved number call.key lease) state')
    (hcall : call ∈ state.calls) (hbehind : call.stage.isBehind) : number = call.number := by
  obtain ⟨request, gate, hsaver, hkey⟩ := hhappens.saved
  rw [← h.eq_of_isBehind hsaver hcall hkey rfl hbehind]

/-- What is known of a call that is behind its gate, or known without a gate, is kept by the steps
of others. -/
private theorem Gated.keep {motive : List Event → Call → Prop} (h : Gated state) {state' : State}
    (hhappens : Happens rules state event state') (hcall : call ∈ state.calls)
    (hne : event.number? ≠ some call.number)
    (hunsaved : (∀ number lease, event ≠ .saved number call.key lease) →
      motive past call → motive (past ++ [event]) call)
    (houtside : ¬call.stage.isBehind → motive (past ++ [event]) call)
    (hmotive : motive past call) : motive (past ++ [event]) call := by
  by_cases hbehind : call.stage.isBehind
  · -- Whoever saved under its key would be behind its gate, and so be the call itself.
    refine hunsaved (fun number lease hsaved => hne ?_) hmotive
    subst hsaved
    rw [Event.number?, h.number_eq_of_saved hhappens hcall hbehind]
  · exact houtside hbehind

/-- After every history the calls behind gates have been undisturbed. -/
theorem ReachesShared.undisturbed (h : ReachesShared rules history state) :
    ∀ call ∈ state.calls, call.Undisturbed history := by
  refine h.forall_calls (motive := fun history call => call.Undisturbed history)
    ?lookUp ?invalidate ?keep ?step
  case lookUp | invalidate => exact fun _ _ => trivial
  case keep =>
    intro past state event state' hpast hhappens call hcall hne ih
    refine hpast.gated.keep hhappens hcall hne (fun hevent h => h.append_singleton hevent) ?_ ih
    -- Of a call that is not behind a gate nothing is known.
    intro houtside
    obtain ⟨number, request, stage⟩ := call
    cases stage with
    | entering _ | checking _ _ | asking _ | fetching _ _ | judging _ _ _ | storing _ _ =>
      exact absurd rfl houtside
    | starting | looking _ | arriving | queued _ | leaving _ _ | parting _ _ | closing _
    | releasing | removing => exact trivial
  case step =>
    intro past state number request stage progress next hpast hcall ih hstep hnext
    -- A step to a stage behind the gate either enters, or keeps what was known.
    cases hstep <;> cases hnext
    case enter => exact UnsavedSince.last
    case readAgain now => exact UnsavedSince.looked ih now
    case checkMiss gate now hfresh =>
      exact ⟨now, Looked.append_singleton ih fun _ _ => Event.noConfusion⟩
    case ask => exact UnsavedSince.last
    case answerFixed | answerClaim | judgeLive =>
      exact UnsavedSince.append_singleton ih fun _ _ => Event.noConfusion
    all_goals exact trivial

/-- What a call knows of the lease under its key when it is about to ask. -/
private def Call.FoundStale (rules : Rules) (history : List Event) (call : Call) : Prop :=
  match call.stage with
  | .asking _ =>
    ∃ now, Looked history call.number call.key now ∧
      ∀ lease, held history call.key = some lease →
        lease.isFreshAt? now rules.margin = some false
  | _ => True

/-- A look-up that is about to ask has read the clock behind its gate, and what is held under its
key is stale at that instant, if nobody else writes to the store. -/
theorem Reaches.stale_of_asking (h : Reaches rules history state) {gate : Nat}
    (hcall : call ∈ state.calls) (hstage : call.stage = .asking gate) :
    ∃ now, Looked history call.number call.key now ∧
      ∀ lease, held history call.key = some lease →
        lease.isFreshAt? now rules.margin = some false := by
  -- That a call has found the lease stale is kept as long as it is about to ask.
  have hall : ∀ call ∈ state.calls, call.FoundStale rules history := by
    refine h.forall_calls (motive := fun history call => call.FoundStale rules history)
      ?lookUp ?invalidate ?keep ?step
    case lookUp | invalidate => exact fun _ _ => trivial
    case keep =>
      intro past state event state' hpast hhappens call hcall hne ih
      refine hpast.gated.keep hhappens hcall hne ?_ ?_ ih
      · intro hevent hfound
        obtain ⟨number, request, stage⟩ := call
        cases stage with
        | asking gate =>
          obtain ⟨now, hlooked, hstale⟩ := hfound
          refine ⟨now, hlooked.append_singleton hevent, fun lease hheld => hstale lease ?_⟩
          exact held_of_held_append_singleton hevent hheld
        | _ => trivial
      · intro houtside
        obtain ⟨number, request, stage⟩ := call
        cases stage with
        | asking gate => exact absurd rfl houtside
        | _ => trivial
    case step =>
      intro past state number request stage progress next hpast hcall ih hstep hnext
      cases hstep <;> cases hnext
      case checkMiss gate now hfresh =>
        have hlooked := hpast.shared.undisturbed _ hcall
        refine ⟨now, Looked.append_singleton hlooked fun _ _ => Event.noConfusion, ?_⟩
        intro lease hheld
        -- It has just looked at what is held.
        rw [held_append_singleton] at hheld
        exact State.isFreshAt?_of_freshLease?_eq_some_none hfresh
          ((hpast.fetch?_store _).trans hheld)
      all_goals exact trivial
  have hfound := hall call hcall
  simp only [Call.FoundStale, hstage] at hfound
  exact hfound

/-! ## The order of saves -/

private theorem cons_sublist_append_cons {events before rest : List Event}
    (h : events <+ rest) : event :: events <+ before ++ event :: rest :=
  (h.cons_cons event).trans (List.sublist_append_right _ _)

/-- A lease that is saved was asked for by the look-up that saves it, and nothing has been saved
under its key in between. -/
theorem ReachesShared.asked_of_saved {later : List Event}
    (h : ReachesShared rules (past ++ .saved number key lease :: later) state) :
    ∃ request, request.key = key ∧
      UnsavedSince past (.asked number request lease.issuedAt) key := by
  obtain ⟨before, _, hbefore, hhappens⟩ := h.split
  obtain ⟨request, gate, hcall, rfl⟩ := hhappens.saved
  exact ⟨request, rfl, hbefore.undisturbed _ hcall⟩

/-- Of two leases that are saved under a key, the second was asked for after the first was
saved. -/
theorem ReachesShared.asked_between_saves (h : ReachesShared rules history state) {m n : Nat}
    {first second : Lease} (hsaves : [.saved m key first, .saved n key second] <+ history) :
    ∃ request, request.key = key ∧
      [.asked m request first.issuedAt, .saved m key first,
        .asked n request second.issuedAt, .saved n key second] <+ history := by
  obtain ⟨head, tail, rfl, hfirst, hsecond⟩ := List.cons_sublist_iff.mp hsaves
  obtain ⟨middle, rest, rfl⟩ := List.mem_iff_append.mp (List.singleton_sublist.mp hsecond)
  rw [← List.append_assoc] at h ⊢
  -- The asking of the second save is the last one before it with no save between.
  obtain ⟨request, hkey, past, later, hpast, hlater⟩ := h.asked_of_saved
  -- The first save comes before the second asking, as there is none after it.
  have hbefore : .saved m key first ∈ past := by
    have hmem : .saved m key first ∈ head ++ middle := List.mem_append_left _ hfirst
    rw [hpast] at hmem
    rcases List.mem_append.mp hmem with hpast | hrest
    · exact hpast
    · rcases List.mem_cons.mp hrest with heq | hafter
      · cases heq
      · exact absurd hafter (hlater m first)
  -- The first save has an asking of its own before it.
  obtain ⟨before, between, rfl⟩ := List.mem_iff_append.mp hbefore
  rw [hpast] at h ⊢
  simp only [List.append_assoc, List.cons_append] at h ⊢
  obtain ⟨request', hkey', earlier, waiting, rfl, -⟩ := h.asked_of_saved
  obtain rfl := TokenRequest.key_injective (hkey'.trans hkey.symm)
  refine ⟨request', hkey', ?_⟩
  rw [List.append_assoc]
  exact cons_sublist_append_cons <| cons_sublist_append_cons <| cons_sublist_append_cons <|
    cons_sublist_append_cons <| List.nil_sublist _

/-- At any moment at most one fetch for a key is under way, all look-ups of a key that hold a
gate hold the same one, and leases are saved under a key in the order in which their fetches
were started: the fetch of the second is not started before the first is saved.  What is in the
store, at first or because others write to it, makes no difference. -/
theorem ReachesShared.single_flight (h : ReachesShared rules history state) :
    (∀ a ∈ state.calls, ∀ b ∈ state.calls, a.key = b.key →
      a.stage.isFetching → b.stage.isFetching → a = b) ∧
    (∀ a ∈ state.calls, ∀ b ∈ state.calls, a.key = b.key →
      ∀ g g', a.stage.gate? = some g → b.stage.gate? = some g' → g = g') ∧
    (∀ key m n first second, [.saved m key first, .saved n key second] <+ history →
      ∃ request, request.key = key ∧
        [.asked m request first.issuedAt, .saved m key first,
          .asked n request second.issuedAt, .saved n key second] <+ history) := by
  refine ⟨?_, ?_, ?_⟩
  -- Fetching is done behind the gate, where there is one call at a time.
  · intro a ha b hb hkey hfetchA hfetchB
    exact h.gated.eq_of_isBehind ha hb hkey (Stage.isBehind_of_isFetching hfetchA)
      (Stage.isBehind_of_isFetching hfetchB)
  · intro a ha b hb hkey g g' hg hg'
    exact h.gated.gate_unique ha hb hkey hg hg'
  · intro key m n first second hsaves
    exact h.asked_between_saves hsaves

end BearerCache.Cache

namespace BearerCache.Cache.Sample

open scoped List

/-- The second look-up asks after the first has saved its lease. -/
theorem asked_in_order :
    ∃ asked, asked.key = request.key ∧
      [.asked 0 asked zero, .saved 0 request.key first, .asked 1 asked five,
        .saved 1 request.key second] <+ history ++ [.ended 2 (.result (.ok second))] := by
  obtain ⟨state, hreaches⟩ := reaches
  have hfirst : .saved 0 request.key first ∈ untilFirst ++ [.saved 0 request.key first] := by simp
  have hsecond : .saved 1 request.key second ∈
      untilAsked ++ .asked 1 request five :: untilLooked ++
        [.ended 2 (.result (.ok second))] := by simp [untilLooked]
  refine hreaches.shared.single_flight.2.2 request.key 0 1 first second
    (List.cons_sublist_iff.mpr ⟨_, _, ?_, hfirst, List.singleton_sublist.mpr hsecond⟩)
  simp [history]

end BearerCache.Cache.Sample
