import BearerCache.Proofs.Continuations
import BearerCache.Proofs.Provenance
import BearerCache.Proofs.SingleFlight

/-! # What an invalidation achieves

An invalidation takes away the lease that is in the store.  It does not reach a fetch that is
under way: when that ends its lease is saved, and look-ups find it.  This is the only way round:
a lease that is handed out to a look-up that began after a removal was fetched after the removal,
or else its fetch was under way when it happened.

Nobody waits for anybody here.  An invalidation is over after three steps of its own, whoever
fetches, and a fetch goes on whatever is removed.  So every fetch that is under way and brings a
lease gets round an invalidation that is called now.

## Key results

- `Reaches.outlasts_of_ended`: what a look-up hands out that began after a removal
- `Reaches.exists_getsRound`: a fetch that is under way can get round an invalidation
- `Reaches.invalidation_lost_iff`: on which fetches an invalidation is lost
-/

namespace BearerCache.Cache

open scoped List

variable {rules : Rules} {state : State} {history past later : List Event}
  {event removal : Event} {call : Call} {request given : TokenRequest} {lease : Lease}
  {number asker remover : Nat} {found : Option Lease} {now : Instant}

/-- A removal does not concern a lease: the fetch of the lease started after it, or was under way
when it happened. -/
def Outlasts (rules : Rules) (history : List Event) (removal : Event) (request : TokenRequest)
    (lease : Lease) : Prop :=
  ∃ asker, Issued rules history request lease asker ∧
    ([removal, .asked asker request lease.issuedAt] <+ history ∨
      [.asked asker request lease.issuedAt, removal, .saved asker request.key lease] <+ history)

theorem Outlasts.append (h : Outlasts rules history removal request lease) (later : List Event) :
    Outlasts rules (history ++ later) removal request lease := by
  obtain ⟨asker, hissued, hevents⟩ := h
  exact ⟨asker, hissued.append later, hevents.imp (·.trans (List.sublist_append_left _ _))
    (·.trans (List.sublist_append_left _ _))⟩

/-- Two events in order are in a longer list already before its last event, if the second of
them is not that event. -/
private theorem sublist_of_append_singleton {a b : Event} (h : [a, b] <+ past ++ [event])
    (hne : b ≠ event) : [a, b] <+ past := by
  obtain ⟨init, last, hsplit, hinit, hlast⟩ := List.sublist_append_iff.mp h
  rcases List.eq_nil_or_concat last with rfl | ⟨rest, final, rfl⟩
  · rw [List.append_nil] at hsplit
    exact hsplit ▸ hinit
  · -- Then the second of the two events is the last of the list.
    have hfinal : final = event := by simpa using hlast.subset (by simp : final ∈ rest.concat final)
    have hends : [a] ++ [b] = init ++ rest ++ [final] := by
      rw [List.concat_eq_append] at hsplit
      rw [List.append_assoc]
      exact hsplit
    exact absurd (List.append_singleton_inj.mp hends).2 (hfinal ▸ hne)

/-- What is held after a removal outlasts it. -/
theorem Reaches.outlasts_of_held (h : Reaches rules history state)
    (hremoved : .removed remover request.key found ∈ history)
    (hheld : held history request.key = some lease) :
    Outlasts rules history (.removed remover request.key found) request lease := by
  -- What is held was saved, what was saved was issued, and it was asked for before.
  obtain ⟨past, saver, after, rfl, hafter⟩ := exists_saved_of_held hheld
  obtain ⟨issued, hissuedKey, hissued⟩ := h.issued_of_saved
  obtain ⟨asked, haskedKey, before, rest, rfl, -⟩ := h.shared.asked_of_saved
  obtain rfl := TokenRequest.key_injective hissuedKey
  obtain rfl := TokenRequest.key_injective haskedKey
  have hremoval : .removed remover asked.key found ∈ before ∨
      .removed remover asked.key found ∈ rest := by
    simp only [List.mem_append, List.mem_cons, reduceCtorEq, false_or] at hremoved
    rcases hremoved with hpast | hlater
    · exact hpast
    · -- Nothing has been written since the lease was saved.
      have hunwritten := hafter _ hlater
      simp [Event.write?] at hunwritten
  refine ⟨saver, hissued.append _, ?_⟩
  -- The removal came before the asking, or between the asking and the save.
  rcases hremoval with hbefore | hrest
  · left
    rw [List.append_assoc]
    exact (List.singleton_sublist.mpr hbefore).append (by simp)
  · right
    rw [List.append_assoc]
    refine List.Sublist.trans ?_ (List.sublist_append_right before _)
    refine List.Sublist.cons_cons _ ?_
    exact (List.singleton_sublist.mpr hrest).append (by simp)

/-! ## What a look-up hands out -/

/-- No removal under the key of a look-up that happened before it began concerns a lease. -/
def Spared (rules : Rules) (history : List Event) (number : Nat) (request : TokenRequest)
    (lease : Lease) : Prop :=
  ∀ remover found given,
    [.removed remover request.key found, .began number given] <+ history →
    Outlasts rules history (.removed remover request.key found) request lease

theorem Spared.append_singleton (h : Spared rules history number request lease)
    (hevent : ∀ given, event ≠ .began number given) :
    Spared rules (history ++ [event]) number request lease := by
  intro remover found given horder
  have hbefore := sublist_of_append_singleton horder (hevent given).symm
  exact (h remover found given hbefore).append _

/-- What a look-up finds, all removals before it have spared. -/
theorem Reaches.spared_of_freshLease? (h : Reaches rules history state)
    (hfound : state.freshLease? call.key rules.margin now = some (some lease)) :
    Spared rules history call.number call.request lease := by
  have hstored := (State.freshLease?_eq_some_some_iff.mp hfound).1
  rw [h.fetch?_store] at hstored
  intro remover found given horder
  exact h.outlasts_of_held (horder.subset (by simp)) hstored

/-- What a look-up has asked for itself, all removals before it have spared. -/
theorem Reaches.spared_of_storing {gate : Nat} (h : Reaches rules history state)
    (hcall : call ∈ state.calls) (hstage : call.stage = .storing gate lease) :
    Spared rules history call.number call.request lease := by
  have hfetched := h.fetched call hcall
  simp only [Call.Fetched, hstage] at hfetched
  intro remover found given horder
  refine ⟨call.number, hfetched, .inl ?_⟩
  obtain ⟨head, tail, rfl, hremoved, hbegan⟩ := List.cons_sublist_iff.mp horder
  refine List.cons_sublist_iff.mpr ⟨head, tail, rfl, hremoved, ?_⟩
  -- The fetch began its look-up after the removal, so it asked after it.
  rw [List.singleton_sublist] at hbegan ⊢
  rcases List.mem_append.mp hfetched.asked with hhead | htail
  · -- A look-up does not ask before it begins.
    have hfollows := (List.pairwise_append.mp h.pairwise_follows).2.2 _ hhead _ hbegan
    exact absurd (hfollows call.number 2 0 rfl rfl rfl rfl) (by decide)
  · exact htail

/-- What a look-up hands out that began after a removal under its key was fetched after the
removal, or its fetch was under way when it happened. -/
theorem Reaches.outlasts_of_ended
    (h : Reaches rules (history ++ .ended number (.result (.ok lease)) :: later) state)
    (horder : [.removed remover (rules.canonical request).key found, .began number request]
      <+ history) :
    Outlasts rules history (.removed remover (rules.canonical request).key found)
      (rules.canonical request) lease := by
  have hbegan : .began number request ∈ history := horder.subset (by simp)
  have hspared : Spared rules history number (rules.canonical request) lease :=
    h.of_ended (motive := Spared rules) (fun h _ _ => h.spared_of_freshLease?) spared_of_storing
      (fun hevent hspared => hspared.append_singleton hevent) hbegan
  exact hspared remover found request horder

/-! ## Orders of events -/

/-- Of two different events one comes before the other. -/
private theorem pair_sublist_or {first second : Event} (hfirst : first ∈ history)
    (hsecond : second ∈ history) (hne : first ≠ second) :
    [first, second] <+ history ∨ [second, first] <+ history := by
  obtain ⟨head, tail, rfl⟩ := List.mem_iff_append.mp hfirst
  rcases List.mem_append.mp hsecond with hhead | hrest
  · exact .inr ((List.singleton_sublist.mpr hhead).append (by simp))
  · have htail : second ∈ tail := (List.mem_cons.mp hrest).resolve_left hne.symm
    refine .inl (List.Sublist.trans ?_ (List.sublist_append_right head _))
    exact (List.singleton_sublist.mpr htail).cons_cons first

/-- Events up to one that does not come twice and events from it on are in one order. -/
private theorem sublist_join (init : List Event) {rest : List Event}
    (hinit : init ++ [event] <+ history) (hrest : event :: rest <+ history)
    (honce : ¬[event, event] <+ history) : init ++ event :: rest <+ history := by
  -- Both sublists are cut at the event; it comes once, so the cuts are in the same place.
  obtain ⟨head, tail, rfl, hhead, htail⟩ := List.append_sublist_iff.mp hinit
  obtain ⟨front, back, hsplit, hfront, hback⟩ := List.sublist_append_iff.mp hrest
  cases front with
  | nil =>
    rw [List.nil_append] at hsplit
    exact hhead.append (hsplit ▸ hback)
  | cons first front =>
    -- Then it would come on both sides of the cut.
    obtain ⟨rfl, -⟩ := List.cons.inj hsplit
    have hfirst : [event] <+ head := List.singleton_sublist.mpr (hfront.subset List.mem_cons_self)
    exact absurd (hfirst.append htail) honce

/-- The fetch of a lease gets round an invalidation: it was started before the invalidation was
called, and the lease was saved after that was over. -/
def GetsRound (history : List Event) (remover : Nat) (given : TokenRequest) (asker : Nat)
    (request : TokenRequest) (lease : Lease) : Prop :=
  ∃ found, [.asked asker request lease.issuedAt, .invalidating remover given,
    .removed remover request.key found, .saved asker request.key lease] <+ history

/-- If the removal of an invalidation does not concern a lease, then the fetch of the lease was
started after the invalidation was called, unless it gets round it. -/
theorem Reaches.asked_after_iff_not_getsRound (h : Reaches rules history state)
    (hinvalidation : [.invalidating remover given, .removed remover request.key found] <+ history)
    (hasked : .asked asker request lease.issuedAt ∈ history)
    (hevents : [.removed remover request.key found, .asked asker request lease.issuedAt]
        <+ history ∨
      [.asked asker request lease.issuedAt, .removed remover request.key found,
        .saved asker request.key lease] <+ history) :
    [.invalidating remover given, .asked asker request lease.issuedAt] <+ history ↔
      ¬GetsRound history remover given asker request lease := by
  have hcalledOnce : ¬[Event.invalidating remover given, .invalidating remover given] <+ history :=
    h.not_twice rfl rfl
  have hremovedOnce : ¬[Event.removed remover request.key found,
      .removed remover request.key found] <+ history := h.not_twice rfl rfl
  have haskedOnce : ¬[Event.asked asker request lease.issuedAt,
      .asked asker request lease.issuedAt] <+ history := h.not_twice rfl rfl
  constructor
  · rintro hafter ⟨_, hround⟩
    -- The invalidation would be called before the asking, and after it again.
    have hbefore : [.asked asker request lease.issuedAt, .invalidating remover given] <+ history :=
      List.Sublist.trans (by simp) hround
    have hboth := sublist_join [.invalidating remover given] hafter hbefore haskedOnce
    exact hcalledOnce (List.Sublist.trans (by simp) hboth)
  · intro hnot
    have hcalled : .invalidating remover given ∈ history := hinvalidation.subset (by simp)
    rcases pair_sublist_or hcalled hasked nofun with hafter | hbefore
    · exact hafter
    rcases hevents with hafter | hflying
    · have hall := sublist_join [.invalidating remover given] hinvalidation hafter hremovedOnce
      exact List.Sublist.trans (by simp) hall
    · -- It was under way from the call of the invalidation until its end.
      have hsaved : [.removed remover request.key found, .saved asker request.key lease]
          <+ history := List.Sublist.trans (by simp) hflying
      have hend := sublist_join [.invalidating remover given] hinvalidation hsaved hremovedOnce
      have hround := sublist_join [.asked asker request lease.issuedAt] hbefore hend hcalledOnce
      exact absurd ⟨found, hround⟩ hnot

/-! ## A fetch that is under way -/

/-- A lease is what a fetch for a request can bring. -/
def Brings (rules : Rules) (request : TokenRequest) (lease : Lease) : Prop :=
  match rules.lifetime request with
  | .fixed ttl => lease.issuedAt.add? ttl = some lease.expiresAt
  | .expiryClaim => ∃ now, Expiry.ofLiveToken lease.token.expose now = .ok lease.expiresAt

/-- An invalidation can run from its start to its end at any time, whoever else is under way. -/
theorem Reaches.exists_removed (h : Reaches rules past state) (request : TokenRequest) :
    ∃ found last, Leads rules state
      [.invalidating state.begun request, .moved state.begun,
        .removed state.begun (rules.canonical request).key found] last := by
  have hbegin : Leads rules state [.invalidating state.begun request]
      -- The call begins, releases the gate and then removes; nothing else has to happen between.
      (state.begin (rules.canonical request) .releasing) :=
    Leads.refl.next (rfl : step rules state (.invalidate request) = _)
  have hreleasing : ⟨state.begun, rules.canonical request, .releasing⟩ ∈
      (state.begin (rules.canonical request) .releasing).calls :=
    State.mem_calls_begin.mpr (.inr rfl)
  have hrelease := (h.leads hbegin).leads_proceed hreleasing rfl
  have hremove := ((h.leads hbegin).leads hrelease).leads_proceed
    (State.mem_calls_advance.mpr (.inr ⟨_, rfl, rfl⟩)) rfl
  exact ⟨_, _, (hbegin.trans hrelease).trans hremove⟩

/-- A fetch that is under way can end with a lease, which is about to be stored then. -/
private theorem Reaches.exists_storing {gate : Nat} (h : Reaches rules past state)
    (hcall : ⟨asker, request, .fetching gate lease.issuedAt⟩ ∈ state.calls)
    (hbrings : Brings rules request lease) :
    ∃ events last, Leads rules state events last ∧
      ⟨asker, request, .storing gate lease⟩ ∈ last.calls := by
  -- The record is made of the reply at once, or after one more reading of the clock.
  unfold Brings at hbrings
  split at hbrings
  next ttl hrule =>
    have hanswer : Call.answer rules ⟨asker, request, .fetching gate lease.issuedAt⟩
        (.token lease.token) = some ⟨some (.storing gate lease), .nothing,
          .answered asker (.token lease.token), []⟩ := by
      simp [Call.answer, hrule, hbrings]
    exact ⟨_, _, h.leads_answer hcall hanswer, State.mem_calls_advance.mpr (.inr ⟨_, rfl, rfl⟩)⟩
  next hrule =>
    obtain ⟨now, hlive⟩ := hbrings
    have hanswer : Call.answer rules ⟨asker, request, .fetching gate lease.issuedAt⟩
        (.token lease.token) = some ⟨some (.judging gate lease.issuedAt lease.token), .nothing,
          .answered asker (.token lease.token), []⟩ := by
      simp [Call.answer, hrule]
    have hread : Call.read ⟨asker, request, .judging gate lease.issuedAt lease.token⟩ now =
        some ⟨some (.storing gate lease), .nothing, .read asker now, []⟩ := by
      simp [Call.read, hlive]
    have hanswered := h.leads_answer hcall hanswer
    have hjudged := (h.leads hanswered).leads_read
      (State.mem_calls_advance.mpr (.inr ⟨_, rfl, rfl⟩)) hread
    exact ⟨_, _, hanswered.trans hjudged, State.mem_calls_advance.mpr (.inr ⟨_, rfl, rfl⟩)⟩

/-- A fetch that is under way can bring a lease that is saved then. -/
private theorem Reaches.exists_saved {gate : Nat} (h : Reaches rules past state)
    (hcall : ⟨asker, request, .fetching gate lease.issuedAt⟩ ∈ state.calls)
    (hbrings : Brings rules request lease) :
    ∃ events last, Leads rules state (events ++ [.saved asker request.key lease]) last ∧
      last.store.fetch? request.key = some lease := by
  obtain ⟨events, answered, hanswer, hstoring⟩ := h.exists_storing hcall hbrings
  have hsave := (h.leads hanswer).leads_proceed hstoring rfl
  refine ⟨events, _, hanswer.trans hsave, ?_⟩
  rw [(h.leads (hanswer.trans hsave)).fetch?_store, ← List.append_assoc, held_append_singleton]
  simp [Event.write?, Call.key]

/-- A look-up that looks at a lease that is fresh ends with it. -/
private theorem Call.proceed_looking (hstored : state.store.fetch? request.key = some lease)
    (hfresh : lease.isFreshAt? now rules.margin = some true) :
    Call.proceed rules state ⟨number, request, .looking now⟩ =
      some ⟨none, .nothing, .ended number (.result (.ok lease)),
        outcomeLog .hit request none⟩ := by
  have hfound : state.freshLease? request.key rules.margin now = some (some lease) :=
    State.freshLease?_eq_some_some_iff.mpr ⟨hstored, hfresh⟩
  simp [Call.proceed, Call.key, hfound]

/-- A look-up that begins while a lease is in the store, and finds it fresh, ends with it. -/
private theorem Reaches.exists_handedOut (h : Reaches rules past state)
    (hstored : state.store.fetch? (rules.canonical request).key = some lease)
    (hfresh : lease.isFreshAt? now rules.margin = some true) :
    ∃ looker last, Leads rules state
      ([.began looker request, .read looker now] ++ [.ended looker (.result (.ok lease))])
      last := by
  -- The look-up begins, reads the clock and finds the lease, which is fresh by then.
  have hbegin : Leads rules state [.began state.begun request]
      (state.begin (rules.canonical request) .starting) :=
    Leads.refl.next (rfl : step rules state (.lookUp request) = _)
  have hread : Leads rules _ [.read state.begun now]
      ((state.begin (rules.canonical request) .starting).advance
        ⟨state.begun, rules.canonical request, .starting⟩
        ⟨some (.looking now), .nothing, .read state.begun now, []⟩) :=
    (h.leads hbegin).leads_read (State.mem_calls_begin.mpr (.inr rfl)) rfl
  have hended := ((h.leads hbegin).leads hread).leads_proceed
    (State.mem_calls_advance.mpr (.inr ⟨_, rfl, rfl⟩)) (Call.proceed_looking hstored hfresh)
  exact ⟨_, _, (hbegin.trans hread).trans hended⟩

/-- A fetch that is under way can get round an invalidation: this runs from its start to its end, the
fetch ends, its lease is saved, and a look-up that begins then ends with it. -/
theorem Reaches.exists_getsRound {gate : Nat} (h : Reaches rules history state)
    (hcall : ⟨asker, rules.canonical request, .fetching gate lease.issuedAt⟩ ∈ state.calls)
    (hbrings : Brings rules (rules.canonical request) lease)
    (hfresh : lease.isFreshAt? now rules.margin = some true) :
    ∃ remover looker found events last,
      Leads rules state (events ++ [.ended looker (.result (.ok lease))]) last ∧
      [.invalidating remover request, .removed remover (rules.canonical request).key found,
        .began looker request] <+ events ∧
      GetsRound (history ++ events) remover request asker (rules.canonical request) lease := by
  obtain ⟨found, removed, hremoval⟩ := h.exists_removed request
  -- The look-up that fetches is still where it was.
  have hbegun : asker < state.begun := h.numbered.number_lt _ hcall
  have hat : IsAt state asker (rules.canonical request)
      (some (.fetching gate lease.issuedAt)) := hcall
  have hflying := hremoval.isAt_of_ne hbegun hat (by simp [Event.number?, Nat.ne_of_gt hbegun])
  obtain ⟨answering, stored, hsave, hstored⟩ := (h.leads hremoval).exists_saved hflying hbrings
  obtain ⟨looker, last, hlook⟩ :=
    (h.leads (hremoval.trans hsave)).exists_handedOut hstored hfresh
  have hall := (hremoval.trans hsave).trans hlook
  rw [← List.append_assoc] at hall
  have hasked : [.asked asker (rules.canonical request) lease.issuedAt] <+ history :=
    List.singleton_sublist.mpr (h.fetched _ hcall)
  have hinvalidation : [Event.invalidating state.begun request,
      .removed state.begun (rules.canonical request).key found] <+
        [.invalidating state.begun request, .moved state.begun,
          .removed state.begun (rules.canonical request).key found] := by
    simp [List.sublist_cons_iff]
  have hbegan : [Event.began looker request] <+ [.began looker request, .read looker now] := by
    simp
  refine ⟨state.begun, looker, found, _, last, hall, ?_, found, ?_⟩
  · exact (hinvalidation.trans (List.sublist_append_left _ _)).append hbegan
  · refine hasked.append (List.Sublist.trans ?_ (List.sublist_append_left _ _))
    exact hinvalidation.append (List.sublist_append_right _ _)

/-- An invalidation is lost on the fetches that get round it, and on no others.  A lease that is
handed out to a look-up that began after the invalidation was over comes from a fetch that was
started after the invalidation was called, unless its fetch gets round the invalidation.  And every
fetch that is under way can get round an invalidation that is called now: all that it needs is to
bring a lease that is fresh when the clock is read. -/
theorem Reaches.invalidation_lost_iff (h : Reaches rules history state) :
    (∀ past later remover number given request found lease,
      history = past ++ .ended number (.result (.ok lease)) :: later →
      [.invalidating remover given, .removed remover (rules.canonical request).key found,
        .began number request] <+ past →
      ∃ asker, Issued rules past (rules.canonical request) lease asker ∧
        ([.invalidating remover given, .asked asker (rules.canonical request) lease.issuedAt]
            <+ past ↔
          ¬GetsRound past remover given asker (rules.canonical request) lease)) ∧
    (∀ asker request gate lease now,
      ⟨asker, rules.canonical request, .fetching gate lease.issuedAt⟩ ∈ state.calls →
      Brings rules (rules.canonical request) lease →
      lease.isFreshAt? now rules.margin = some true →
      ∃ remover looker found events last,
        Leads rules state (events ++ [.ended looker (.result (.ok lease))]) last ∧
        [.invalidating remover request, .removed remover (rules.canonical request).key found,
          .began looker request] <+ events ∧
        GetsRound (history ++ events) remover request asker (rules.canonical request) lease) := by
  constructor
  -- What the look-up hands out outlasts the removal, and the order of the two calls tells the cases
  -- apart.
  · rintro past later remover number given request found lease rfl horder
    have hafter : [.removed remover (rules.canonical request).key found, .began number request]
        <+ past := List.Sublist.trans (by simp) horder
    obtain ⟨asker, hissued, hevents⟩ := h.outlasts_of_ended hafter
    obtain ⟨before, hbefore⟩ := h.before
    have hinvalidation : [.invalidating remover given,
        .removed remover (rules.canonical request).key found] <+ past :=
      List.Sublist.trans (by simp) horder
    exact ⟨asker, hissued,
      hbefore.asked_after_iff_not_getsRound hinvalidation hissued.asked hevents⟩
  · intro asker request gate lease now hcall hbrings hfresh
    exact h.exists_getsRound hcall hbrings hfresh

end BearerCache.Cache

namespace BearerCache.Cache.Sample

open scoped List

/-- What happens until a look-up fetches. -/
def untilFetching : List Event :=
  [.began 0 request, .read 0 zero, .moved 0, .moved 0, .entered 0, .read 0 zero, .moved 0,
    .asked 0 request zero]

/-- A look-up fetches. -/
def fetching : State :=
  ⟨.empty, NameMap.empty.insert request.key.text 0, 1, [⟨0, request, .fetching 0 zero⟩], 1⟩

theorem fetching_reaches : Reaches rules untilFetching fetching :=
  Reaches.start.run (rfl : run rules [] .initial
    [.lookUp request, .read 0 zero, .proceed 0, .proceed 0, .proceed 0, .read 0 zero, .proceed 0,
      .read 0 zero] = some (_, fetching))

/-- While it does an invalidation runs from its start to its end.  Then the lease of the look-up is
saved, and another look-up begins. -/
def overtaking : List Event :=
  [.invalidating 1 request, .moved 1, .removed 1 request.key none,
    .answered 0 (.token first.token), .saved 0 request.key first, .began 2 request, .read 2 zero]

theorem overtaking_reaches :
    ∃ state, Reaches rules
      (untilFetching ++ overtaking ++ [.ended 2 (.result (.ok first))]) state := by
  have hreaches : ∀ history state,
      run rules untilFetching fetching
        [.invalidate request, .proceed 1, .proceed 1, .answer 0 (.token first.token), .proceed 0,
          .lookUp request, .read 2 zero, .proceed 2] = some (history, state) →
      Reaches rules history state := fun _ _ => fetching_reaches.run
  exact ⟨_, hreaches _ _ rfl⟩

/-- Nobody asks after the invalidation was called. -/
private theorem not_asked_after (asker : Nat) (askedAt : Instant) :
    ¬[.invalidating 1 request, .asked asker request askedAt] <+ untilFetching ++ overtaking := by
  intro hafter
  have hpairs : (untilFetching ++ overtaking).Pairwise fun a b =>
      a = .invalidating 1 request → b ≠ .asked asker request askedAt := by
    simp [untilFetching, overtaking]
  have hpair := List.pairwise_pair.mp (hpairs.sublist hafter)
  exact hpair rfl rfl

/-- The lease that is handed out then comes from the fetch of the first look-up, and that got round
the invalidation. -/
theorem first_getsRound :
    (∃ asker, Issued rules (untilFetching ++ overtaking) request first asker ∧
      GetsRound (untilFetching ++ overtaking) 1 request asker request first) ∧
    ∃ remover looker found events last,
      Leads rules fetching (events ++ [.ended looker (.result (.ok first))]) last ∧
      [.invalidating remover request, .removed remover request.key found, .began looker request]
        <+ events ∧
      GetsRound (untilFetching ++ events) remover request 0 request first := by
  constructor
  -- The run is one of the machine, so what the theorem says of it excludes the other order.
  · obtain ⟨state, hreaches⟩ := overtaking_reaches
    have horder : [.invalidating 1 request, .removed 1 request.key none, .began 2 request] <+
        overtaking :=
      .cons_cons _ (.cons _ (.cons_cons _ (.cons _ (.cons _ (.cons_cons _ (.cons _ .slnil))))))
    obtain ⟨asker, hissued, hiff⟩ := hreaches.invalidation_lost_iff.1 (untilFetching ++ overtaking)
      [] 1 2 request request none first rfl (horder.trans (List.sublist_append_right _ _))
    exact ⟨asker, hissued, not_not.mp fun hnot => not_asked_after _ _ (hiff.mpr hnot)⟩
  · have hcall : ⟨0, request, .fetching 0 first.issuedAt⟩ ∈ fetching.calls :=
      List.mem_singleton.mpr rfl
    have hbrings : Brings rules request first := by
      show zero.add? _ = some five
      decide
    exact fetching_reaches.invalidation_lost_iff.2 0 request 0 first zero hcall hbrings (by decide)

/-- A look-up that begins after an invalidation is over can be handed a lease whose fetch was started
before the invalidation was called; no fetch was started after that. -/
theorem invalidation_overtaken :
    ∃ history state,
      Reaches rules (history ++ [.ended 2 (.result (.ok first))]) state ∧
      [.asked 0 request first.issuedAt, .invalidating 1 request, .removed 1 request.key none,
        .saved 0 request.key first, .began 2 request] <+ history ∧
      ∀ asker askedAt, ¬[.invalidating 1 request, .asked asker request askedAt] <+ history := by
  obtain ⟨state, hreaches⟩ := overtaking_reaches
  -- The asking is in the first part of the run, everything else in the second.
  have hasked : [.asked 0 request first.issuedAt] <+ untilFetching :=
    List.singleton_sublist.mpr (by simp [untilFetching, first])
  have horder : [.invalidating 1 request, .removed 1 request.key none, .saved 0 request.key first,
      .began 2 request] <+ overtaking :=
    .cons_cons _ (.cons _ (.cons_cons _ (.cons _ (.cons_cons _ (.cons_cons _ (.cons _ .slnil))))))
  exact ⟨_, state, hreaches, hasked.append horder, not_asked_after⟩

end BearerCache.Cache.Sample
