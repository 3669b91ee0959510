import BearerCache.Proofs.Contents
import BearerCache.Proofs.EntryKeys
import BearerCache.Proofs.Outcomes

/-! # Where leases come from

`Issued` says how a lease came about: a look-up asked for a token at the instant of issue, was
answered with the token, and reckoned when it expires by the rule for its request.  Every lease
that is saved is issued for the request of the look-up that saves it, and since a key stands for
one request, every lease under the key of a request is issued for that request.

## Key results

- `Reaches.issued_of_saved`: what is saved is issued
- `Reaches.issued_of_fetch?`: what is in the store under a key is issued for its request
- `Reaches.issued_of_handsOut`: what is handed out is issued for the request it is handed out for
-/

namespace BearerCache.Cache

open scoped List

variable {rules : Rules} {state : State} {history later : List Event} {event : Event}
  {call : Call} {request : TokenRequest} {lease : Lease} {number : Nat}

/-- A lease is the outcome of a fetch for a request: it bears the token that the fetch ended with,
it is issued at the reading of the clock with which the fetch started, and expires when the rule
for the request says. -/
def Issued (rules : Rules) (history : List Event) (request : TokenRequest) (lease : Lease)
    (number : Nat) : Prop :=
  match rules.lifetime request with
  | .fixed ttl =>
    [.asked number request lease.issuedAt, .answered number (.token lease.token)] <+ history ∧
      lease.issuedAt.add? ttl = some lease.expiresAt
  | .expiryClaim =>
    ∃ now, [.asked number request lease.issuedAt, .answered number (.token lease.token),
        .read number now] <+ history ∧
      Expiry.ofToken lease.token.expose = .ok lease.expiresAt ∧ now < lease.expiresAt

/-- A call has read an instant at which a lease is fresh. -/
def FoundFresh (rules : Rules) (history : List Event) (number : Nat) (lease : Lease) : Prop :=
  ∃ now limit, .read number now ∈ history ∧
    lease.expiresAt.sub? rules.margin = some limit ∧ now < limit

/-! ## What happened stays so -/

theorem Issued.append (h : Issued rules history request lease number) (later : List Event) :
    Issued rules (history ++ later) request lease number := by
  unfold Issued at h ⊢
  split at h
  next =>
    obtain ⟨hevents, hsum⟩ := h
    exact ⟨hevents.trans (List.sublist_append_left _ _), hsum⟩
  next =>
    obtain ⟨now, hevents, hclaim⟩ := h
    exact ⟨now, hevents.trans (List.sublist_append_left _ _), hclaim⟩

theorem FoundFresh.append (h : FoundFresh rules history number lease) (later : List Event) :
    FoundFresh rules (history ++ later) number lease := by
  obtain ⟨now, limit, hread, hfresh⟩ := h
  exact ⟨now, limit, List.mem_append_left _ hread, hfresh⟩

/-- Whoever a lease was issued to has asked, and was answered with its token. -/
theorem Issued.sublist (h : Issued rules history request lease number) :
    [.asked number request lease.issuedAt, .answered number (.token lease.token)] <+ history := by
  unfold Issued at h
  split at h
  next => exact h.1
  next =>
    obtain ⟨now, hevents, -⟩ := h
    exact List.Sublist.trans (by simp) hevents

theorem Issued.asked (h : Issued rules history request lease number) :
    .asked number request lease.issuedAt ∈ history :=
  h.sublist.subset (by simp)

theorem Issued.answered (h : Issued rules history request lease number) :
    .answered number (.token lease.token) ∈ history :=
  h.sublist.subset (by simp)

private theorem sublist_append_singleton {events : List Event} (h : events <+ history) :
    events ++ [event] <+ history ++ [event] :=
  h.append (.refl _)

variable {token : Secret} {askedAt expiresAt now : Instant}

/-- A lease with a fixed lifetime is issued when the fetch ends. -/
theorem Issued.of_fixed {ttl : Span} (hrule : rules.lifetime request = .fixed ttl)
    (hasked : .asked number request askedAt ∈ history)
    (hsum : askedAt.add? ttl = some expiresAt) :
    Issued rules (history ++ [.answered number (.token token)]) request
      ⟨token, askedAt, expiresAt⟩ number := by
  simp only [Issued, hrule]
  exact ⟨sublist_append_singleton (List.singleton_sublist.mpr hasked), hsum⟩

/-- A lease whose token says when it expires is issued when the clock has been read again. -/
theorem Issued.of_claim (hrule : rules.lifetime request = .expiryClaim)
    (hevents : [.asked number request askedAt, .answered number (.token token)] <+ history)
    (hlive : Expiry.ofLiveToken token.expose now = .ok expiresAt) :
    Issued rules (history ++ [.read number now]) request ⟨token, askedAt, expiresAt⟩ number := by
  obtain ⟨hclaim, hlt⟩ := Expiry.ofLiveToken_eq_ok_iff.mp hlive
  simp only [Issued, hrule]
  exact ⟨now, sublist_append_singleton hevents, hclaim, hlt⟩

/-! ## What is saved -/

/-- What a look-up that fetches has done so far. -/
def Call.Fetched (rules : Rules) (history : List Event) (call : Call) : Prop :=
  match call.stage with
  | .fetching _ askedAt => .asked call.number call.request askedAt ∈ history
  | .judging _ askedAt token =>
    rules.lifetime call.request = .expiryClaim ∧
      [.asked call.number call.request askedAt, .answered call.number (.token token)] <+ history
  | .storing _ lease => Issued rules history call.request lease call.number
  | _ => True

theorem Call.Fetched.append (h : call.Fetched rules history) (later : List Event) :
    call.Fetched rules (history ++ later) := by
  obtain ⟨number, request, stage⟩ := call
  cases stage with
  | fetching gate askedAt => exact List.mem_append_left _ h
  | judging gate askedAt token => exact ⟨h.1, h.2.trans (List.sublist_append_left _ _)⟩
  | storing gate lease => exact Issued.append h later
  | starting | looking _ | arriving | queued _ | entering _ | checking _ _ | asking _
  | leaving _ _ | parting _ _ | closing _ | releasing | removing => exact trivial

/-- After every history the look-ups that fetch have done what their stages say. -/
theorem Reaches.fetched (h : Reaches rules history state) :
    ∀ call ∈ state.calls, call.Fetched rules history := by
  refine h.forall_calls (motive := fun history call => call.Fetched rules history)
    ?lookUp ?invalidate ?keep ?step
  case lookUp | invalidate => exact fun _ _ => trivial
  case keep => exact fun _ _ _ _ _ ih => ih.append _
  case step =>
    intro past state number request stage progress next hpast hcall ih hstep hnext
    -- Each stage knows as much of the fetch as the step before it has found out.
    cases hstep <;> cases hnext
    case ask now => exact List.mem_append_right _ List.mem_cons_self
    case answerFixed hsum hrule => exact Issued.of_fixed hrule ih hsum
    case answerClaim hrule =>
      exact ⟨hrule, sublist_append_singleton (List.singleton_sublist.mpr ih)⟩
    case judgeLive now hlive => exact Issued.of_claim ih.1 ih.2 hlive
    all_goals exact trivial

/-- A lease that is saved is issued to the look-up that saves it. -/
theorem Reaches.issued_of_saved {key : EntryKey}
    (h : Reaches rules (history ++ .saved number key lease :: later) state) :
    ∃ request, request.key = key ∧ Issued rules history request lease number := by
  obtain ⟨before, _, hbefore, hhappens⟩ := h.split
  obtain ⟨request, gate, hcall, hkey⟩ := hhappens.saved
  exact ⟨request, hkey, hbefore.fetched _ hcall⟩

/-- A lease in the store under the key of a request is issued for that request. -/
theorem Reaches.issued_of_fetch? (h : Reaches rules history state)
    (hfound : state.store.fetch? request.key = some lease) :
    ∃ number, Issued rules history request lease number := by
  rw [h.fetch?_store] at hfound
  obtain ⟨past, number, after, rfl, -⟩ := exists_saved_of_held hfound
  obtain ⟨saved, hkey, hissued⟩ := h.issued_of_saved
  -- The key tells for which request it was saved.
  obtain rfl := TokenRequest.key_injective hkey
  exact ⟨number, hissued.append _⟩

/-! ## What is handed out -/

/-- What a look-up may hand out: a lease that is issued for its request and, if the look-up has
not asked itself, one that it found fresh. -/
def Granted (rules : Rules) (history : List Event) (number : Nat) (request : TokenRequest)
    (lease : Lease) : Prop :=
  (∃ asker, Issued rules history request lease asker) ∧
    ((∀ other askedAt, .asked number other askedAt ∉ history) →
      FoundFresh rules history number lease)

theorem Granted.append (h : Granted rules history number request lease) (later : List Event) :
    Granted rules (history ++ later) number request lease := by
  obtain ⟨⟨asker, hissued⟩, hfresh⟩ := h
  refine ⟨⟨asker, hissued.append later⟩, fun hunasked => (hfresh ?_).append later⟩
  exact fun other askedAt hmem => hunasked other askedAt (List.mem_append_left _ hmem)

/-- A lease that a look-up finds fresh may be handed out. -/
theorem Reaches.granted_of_freshLease? {now : Instant} (h : Reaches rules history state)
    (hcall : call ∈ state.calls) (hlook : call.stage.looksAt? = some now)
    (hfound : state.freshLease? call.key rules.margin now = some (some lease)) :
    Granted rules history call.number call.request lease := by
  obtain ⟨hstored, hfresh⟩ := State.freshLease?_eq_some_some_iff.mp hfound
  obtain ⟨limit, hlimit, hlt⟩ := Lease.isFreshAt?_eq_some_true_iff.mp hfresh
  have hread := h.read_of_looksAt call hcall now hlook
  exact ⟨h.issued_of_fetch? hstored, fun _ => ⟨now, limit, hread, hlimit, hlt⟩⟩

/-- A lease that a look-up has asked for and is about to save may be handed out. -/
theorem Reaches.granted_of_storing {gate : Nat} (h : Reaches rules history state)
    (hcall : call ∈ state.calls) (hstage : call.stage = .storing gate lease) :
    Granted rules history call.number call.request lease := by
  have hfetched := h.fetched call hcall
  simp only [Call.Fetched, hstage] at hfetched
  exact ⟨⟨_, hfetched⟩, fun hunasked => absurd hfetched.asked (hunasked _ _)⟩

/-- A look-up hands out only what it may. -/
theorem Reaches.granted_of_ended
    (h : Reaches rules (history ++ .ended number (.result (.ok lease)) :: later) state)
    (hbegan : .began number request ∈ history) :
    Granted rules history number (rules.canonical request) lease :=
  h.of_ended (motive := Granted rules) granted_of_freshLease? granted_of_storing
    (fun _ hgranted => hgranted.append _) hbegan

/-- What is seen of a request is what the store has for it. -/
theorem Reaches.issued_of_peeked
    (h : Reaches rules (history ++ .peeked request (some lease) :: later) state) :
    ∃ asker, Issued rules history (rules.canonical request) lease asker := by
  obtain ⟨before, _, hbefore, hhappens⟩ := h.split
  exact hbefore.issued_of_fetch? hhappens.peeked.symm

/-- What a lease is handed out for: a look-up that began with a request ends with it, or the
lease of the request is looked at. -/
inductive HandsOut (history : List Event) : Event → TokenRequest → Lease → Prop where
  | lookUp {number : Nat} {request : TokenRequest} {lease : Lease}
      (hbegan : .began number request ∈ history) :
    HandsOut history (.ended number (.result (.ok lease))) request lease
  | peek {request : TokenRequest} {lease : Lease} :
    HandsOut history (.peeked request (some lease)) request lease

/-- Every lease that is handed out is the outcome of a fetch for the canonical form of the request
that it is handed out for, and of no other.  If a look-up hands it out that has not asked itself,
the look-up has read an instant at which the lease is fresh. -/
theorem Reaches.issued_of_handsOut (h : Reaches rules (history ++ event :: later) state)
    (hout : HandsOut history event request lease) :
    (∃ asker, Issued rules history (rules.canonical request) lease asker ∧
      (∀ other askedAt, .asked asker other askedAt ∈ history →
        other = rules.canonical request ∧ askedAt = lease.issuedAt) ∧
      ∀ outcome, .answered asker outcome ∈ history → outcome = .token lease.token) ∧
    ∀ number, event.number? = some number →
      (∀ other askedAt, .asked number other askedAt ∉ history) →
      FoundFresh rules history number lease := by
  have hissued : ∃ asker, Issued rules history (rules.canonical request) lease asker := by
    -- By the way in which it is handed out: as the result of a look-up, or in answer to a peek.
    cases hout with
    | lookUp hbegan => exact (h.granted_of_ended hbegan).1
    | peek => exact h.issued_of_peeked
  obtain ⟨before, hbefore⟩ := h.before
  constructor
  · -- The look-up that it was issued to has asked once, and was answered once.
    obtain ⟨asker, hissued⟩ := hissued
    refine ⟨asker, hissued, ?_, ?_⟩
    · intro other askedAt hasked
      cases hbefore.eq_of_position hissued.asked hasked rfl rfl rfl rfl
      exact ⟨rfl, rfl⟩
    · intro outcome hanswered
      cases hbefore.eq_of_position hissued.answered hanswered rfl rfl rfl rfl
      rfl
  -- A look-up that has not asked has found the record itself; a peek has no number.
  · intro number hnumber hunasked
    cases hout with
    | lookUp hbegan =>
      obtain rfl := Option.some.inj hnumber
      exact (h.granted_of_ended hbegan).2 hunasked
    | peek => cases hnumber

end BearerCache.Cache

namespace BearerCache.Cache.Sample

/-- The third look-up hands out the second lease: it was issued for its request, and found fresh. -/
theorem issued_second :
    (∃ asker, Issued rules history (rules.canonical request) second asker) ∧
      FoundFresh rules history 2 second := by
  obtain ⟨state, hreaches⟩ := reaches
  have hbegan : .began 2 request ∈ history := by simp [history, untilLooked]
  have hunasked : ∀ other askedAt, .asked 2 other askedAt ∉ history := by
    simp [history, untilFirst, untilAsked, untilLooked]
  obtain ⟨⟨asker, hissued, -⟩, hfresh⟩ := hreaches.issued_of_handsOut (.lookUp hbegan)
  exact ⟨⟨asker, hissued⟩, hfresh 2 rfl hunasked⟩

end BearerCache.Cache.Sample
