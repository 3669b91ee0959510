import BearerCache.Proofs.Continuations
import BearerCache.Proofs.GateUse
import BearerCache.Proofs.Refetching

/-! # Sharing a lease

When a look-up saves a lease others may be waiting at the gate.  They get through one by one, and as
long as the lease is fresh and nobody removes it each of them finds it: whoever is behind the gate
then comes out by itself, and asks for nothing.

A look-up that shares a lease is at one of a few stages (`Stage.Shares`), and no step leads out of
them while the lease is there and is fresh when the look-up reads the clock.  Nor does it wait for
ever: either it can go on, or the one behind the gate can.

## Key results

- `CallStep.shares`: a look-up that shares a lease goes on sharing it
- `Reaches.passes_of_fresh`: nobody behind the gate asks while the lease is fresh
- `Reaches.sharing`: a look-up that waited when the lease was saved shares it
- `Sharing.canEnd`: and it can come to its end
-/

namespace BearerCache.Cache

variable {rules : Rules} {state state' : State} {past events : List Event} {event : Event}
  {call : Call} {number : Nat} {request : TokenRequest} {key : EntryKey} {lease : Lease}
  {limit now : Instant} {stage : Stage} {progress : Progress}

/-! ## Readings of the clock -/

/-- Until a call has read the clock, and when it does, the readings are before a limit. -/
def InTime (limit : Instant) (number : Nat) (events : List Event) : Prop :=
  ∀ earlier reader now later, events = earlier ++ .read reader now :: later →
    (∀ instant, .read number instant ∉ earlier) → now < limit

/-- As long as a call has not read the clock all readings are before the limit. -/
theorem InTime.lt_of_unread (h : InTime limit number events)
    (hunread : ∀ instant, .read number instant ∉ events) {reader : Nat}
    (hread : .read reader now ∈ events) : now < limit := by
  obtain ⟨earlier, later, rfl⟩ := List.mem_iff_append.mp hread
  exact h earlier reader now later rfl fun instant hmem =>
    hunread instant (List.mem_append_left _ hmem)

theorem InTime.of_prefix {total : List Event} (h : InTime limit number total)
    (hsofar : events <+: total) : InTime limit number events := by
  obtain ⟨rest, rfl⟩ := hsofar
  rintro earlier reader now later rfl hunread
  exact h earlier reader now (later ++ rest) (by simp) hunread

/-- A lease that is in the store is found fresh at every instant before the limit. -/
theorem State.freshLease?_of_lt {margin : Span} (hstored : state.store.fetch? key = some lease)
    (hlimit : lease.expiresAt.sub? margin = some limit) (hlt : now < limit) :
    state.freshLease? key margin now = some (some lease) :=
  State.freshLease?_eq_some_some_iff.mpr
    ⟨hstored, Lease.isFreshAt?_eq_some_true_iff.mpr ⟨limit, hlimit, hlt⟩⟩

/-! ## Sharing a lease -/

/-- A look-up ends with a lease, or it was given up. -/
def Ending.Shares (lease : Lease) : Ending → Prop
  | result outcome => outcome = .ok lease
  | abandoned => True
  | broken => False

/-- A look-up at a stage will end with a lease, if it finds it when it looks, or it was given up
while it waited. -/
def Stage.Shares (lease : Lease) (limit : Instant) : Stage → Prop
  | queued _ | entering _ => True
  | checking _ now => now < limit
  | leaving _ ending => ending = .result (.ok lease)
  | parting _ ending => ending.Shares lease
  | closing outcome => outcome = .ok lease
  | starting | looking _ | arriving | asking _ | fetching _ _ | judging _ _ _ | storing _ _
  | releasing | removing => False

/-- An event of a look-up that shares a lease: it neither asks nor writes, and ends with it. -/
def Event.Shares (lease : Lease) : Event → Prop
  | asked _ _ _ | saved _ _ _ | removed _ _ _ => False
  | ended _ ending => ending.Shares lease
  | began _ _ | read _ _ | entered _ | answered _ _ | invalidating _ _ | peeked _ _ | moved _ => True

/-- Whether a look-up at the gate or behind it is still to read the clock. -/
def Stage.isUnread : Stage → Bool
  | queued _ | entering _ => true
  | _ => false

/-- Whether a look-up at the gate or behind it is still to look. -/
def Stage.isUnlooked : Stage → Bool
  | queued _ | entering _ | checking _ _ => true
  | _ => false

theorem Event.Shares.write?_eq_none (h : event.Shares lease) : event.write? key = none := by
  cases event <;> first | rfl | cases h

/-- A look-up that shares a lease goes on sharing it, if the lease is there when the look-up looks,
and fresh at the instant that the look-up reads. -/
theorem CallStep.shares (h : CallStep rules state call stage progress)
    (hshares : stage.Shares lease limit)
    (hlimit : lease.expiresAt.sub? rules.margin = some limit)
    (hstored : stage.isUnlooked → state.store.fetch? call.key = some lease)
    (hread : ∀ now, stage.isUnread → progress.event = .read call.number now → now < limit)
    {next : Stage} (hnext : progress.stage = some next) : next.Shares lease limit := by
  -- The stages that have not looked have the lease before them; those behind the look carry it.
  cases h <;> cases hnext
  case enter | abandonQueued => trivial
  case readAgain now => exact hread now rfl rfl
  -- When it looks the lease is there, and is fresh at what the look-up has read.
  case checkBroken hfresh | checkMiss hfresh =>
    cases hfresh.symm.trans (State.freshLease?_of_lt (hstored rfl) hlimit hshares)
  case checkHit hfresh =>
    cases hfresh.symm.trans (State.freshLease?_of_lt (hstored rfl) hlimit hshares)
    rfl
  case leave =>
    subst hshares
    rfl
  case part => exact hshares
  all_goals exact hshares.elim

/-- What a look-up that shares a lease does is neither to ask nor to write. -/
theorem CallStep.shares_event (h : CallStep rules state call stage progress)
    (hshares : stage.Shares lease limit) : progress.event.Shares lease := by
  cases h
  case close => exact hshares
  all_goals trivial

/-- A look-up that shares a lease and is still to read the clock, or to look, was so before. -/
theorem CallStep.unread_of_shares (h : CallStep rules state call stage progress)
    (hshares : stage.Shares lease limit) {next : Stage} (hnext : progress.stage = some next) :
    (next.isUnread → stage.isUnread ∧ ∀ now, progress.event ≠ .read call.number now) ∧
      (next.isUnlooked → stage.isUnlooked) := by
  cases h <;> cases hnext <;>
    simp_all [Stage.Shares, Stage.isUnread, Stage.isUnlooked, Progress.quiet]

/-! ## Behind the gate while the lease is fresh -/

/-- A look-up behind its gate will come out by itself. -/
def Stage.Passes (limit : Instant) : Stage → Prop
  | entering _ | leaving _ _ => True
  | checking _ now => now < limit
  | _ => False

/-- While a lease that has been saved is there, and all readings of the clock since find it fresh,
whoever is behind the gate comes out by itself and saves no other lease. -/
theorem Reaches.passes_of_fresh {saver : Nat}
    (h : Reaches rules (past ++ .saved saver key lease :: events) state)
    (hlimit : lease.expiresAt.sub? rules.margin = some limit)
    (hkept : ∀ remover found, .removed remover key found ∉ events)
    (hfresh : ∀ reader now, .read reader now ∈ events → now < limit)
    (hheld : held (past ++ .saved saver key lease :: events) key = some lease)
    (hcall : call ∈ state.calls) (hkey : call.key = key) (hbehind : call.stage.isBehind) :
    call.stage.Passes limit := by
  subst hkey
  have hundisturbed := h.shared.undisturbed call hcall
  have hunasked : ∀ askedAt, .asked call.number call.request askedAt ∉ events := by
    intro askedAt hasked
    refine h.unasked_of_fresh hkept ?_ _ _ _ hasked rfl
    intro reader now other hread hother
    exact Option.some.inj (hlimit.symm.trans hother) ▸ hfresh reader now hread
  -- What it has started since it entered, it has started since the lease was saved.
  have hsince : ∀ askedAt, ¬UnsavedSince (past ++ .saved saver call.key lease :: events)
      (.asked call.number call.request askedAt) call.key := by
    rintro askedAt ⟨earlier, later, hsplit, hlater⟩
    obtain ⟨between, rfl⟩ := eq_append_of_unsaved hsplit hlater Event.noConfusion
    exact hunasked askedAt (by simp)
  have hlooked : ∀ now, Looked (past ++ .saved saver call.key lease :: events) call.number
      call.key now → now < limit := by
    intro now hlook
    exact hfresh call.number now (hlook.sublist_of_saved.subset (by simp))
  -- Stage by stage of whoever is behind the gate: it has looked in time, or has asked since.
  cases hstage : call.stage with
  | entering gate | leaving gate ending => trivial
  | checking gate now =>
    simp only [Call.Undisturbed, hstage] at hundisturbed
    exact hlooked now hundisturbed
  | asking gate =>
    -- It has found the lease stale, at an instant at which it is fresh.
    obtain ⟨now, hlook, hstale⟩ := h.stale_of_asking hcall hstage
    obtain ⟨other, hother, hle⟩ := Lease.isFreshAt?_eq_some_false_iff.mp (hstale lease hheld)
    obtain rfl := Option.some.inj (hlimit.symm.trans hother)
    exact absurd (hlooked now hlook) (Int.not_lt.mpr hle)
  | fetching gate askedAt | judging gate askedAt token =>
    simp only [Call.Undisturbed, hstage] at hundisturbed
    exact absurd hundisturbed (hsince askedAt)
  | storing gate stored =>
    simp only [Call.Undisturbed, hstage] at hundisturbed
    exact absurd hundisturbed (hsince stored.issuedAt)
  | _ =>
    rw [hstage] at hbehind
    cases hbehind

/-! ## After the lease is saved -/

/-- A look-up that waited when a lease was saved shares it: as long as it has not looked the lease
is there, and as long as it has not read the clock it has not read it. -/
structure Sharing (past events : List Event) (number : Nat) (key : EntryKey) (lease : Lease)
    (limit : Instant) (stage : Stage) : Prop where
  shares : stage.Shares lease limit
  unread : stage.isUnread → ∀ instant, .read number instant ∉ events
  held : stage.isUnlooked → held (past ++ events) key = some lease

/-- While a look-up shares a lease nobody else writes under its key. -/
private theorem Sharing.write?_eq_none {saver : Nat}
    (h : Sharing (past ++ [.saved saver key lease]) events number key lease limit stage)
    (hreaches : Reaches rules (past ++ [.saved saver key lease] ++ events) state)
    (hcall : ⟨number, request, stage⟩ ∈ state.calls) (hkey : request.key = key)
    (hlimit : lease.expiresAt.sub? rules.margin = some limit)
    (hkept : ∀ remover found, .removed remover key found ∉ events ++ [event])
    (hintime : InTime limit number events) (hunlooked : stage.isUnlooked)
    (hhappens : Happens rules state event state') : event.write? key = none := by
  -- A write would be a removal, which is excluded, or a save of someone behind the gate.
  cases hwrite : event.write? key with
  | none => rfl
  | some written =>
    cases written with
    | none =>
      obtain ⟨remover, found, rfl⟩ := Event.write?_eq_some_none_iff.mp hwrite
      exact absurd (by simp) (hkept remover found)
    | some other =>
      obtain ⟨writer, rfl⟩ := Event.write?_eq_some_some_iff.mp hwrite
      obtain ⟨request', gate, hwriter, hkey'⟩ := hhappens.saved
      by_cases hunread : stage.isUnread
      · -- Whoever is behind the gate saves no other lease.
        have hfresh : ∀ reader now, .read reader now ∈ events → now < limit :=
          fun reader now => hintime.lt_of_unread (h.unread hunread)
        have hheld := h.held hunlooked
        rw [List.append_assoc] at hreaches hheld
        refine (hreaches.passes_of_fresh hlimit (fun remover found hmem => ?_) hfresh hheld hwriter
          hkey' rfl).elim
        exact hkept remover found (List.mem_append_left _ hmem)
      · -- The look-up is behind the gate itself.
        obtain ⟨gate', now, rfl⟩ : ∃ gate' now, stage = .checking gate' now := by
          cases stage <;> simp_all [Stage.isUnread, Stage.isUnlooked]
        cases hreaches.gated.eq_of_isBehind hwriter hcall (hkey'.trans hkey.symm) rfl rfl

/-- A look-up that waited when a lease was saved, or was given up by then, shares the lease if all
readings of the clock find it fresh until the look-up has read it. -/
theorem Reaches.sharing {saver : Nat} {saved : State} {stage? : Option Stage}
    (h : Reaches rules (past ++ [.saved saver key lease]) saved) (hbegun : number < saved.begun)
    (hat : IsAt saved number request stage?) (hkey : request.key = key)
    (hwaits : ∀ stage, stage? = some stage →
      ∃ gate, stage = .queued gate ∨ stage = .parting gate .abandoned)
    (hlimit : lease.expiresAt.sub? rules.margin = some limit)
    (hleads : Leads rules saved events state)
    (hkept : ∀ remover found, .removed remover key found ∉ events)
    (hintime : InTime limit number events) :
    ∃ stage?, IsAt state number request stage? ∧
      (∀ event ∈ events, event.number? = some number → event.Shares lease) ∧
      ∀ stage, stage? = some stage →
        Sharing (past ++ [.saved saver key lease]) events number key lease limit stage := by
  subst hkey
  -- The look-up is followed through the run; the invariant is `Sharing`, with the lease still held
  -- as long as it has not looked.
  refine hleads.follow h (·.Shares lease) hbegun hat
    (motive := fun events stage? => ∀ stage, stage? = some stage →
      Sharing (past ++ [.saved saver request.key lease]) events number request.key lease limit
        stage)
    ?start ?keep ?step (List.prefix_refl events)
  -- At first it waits, and the lease has just been saved.
  case start =>
    intro stage hstage
    have hheld : held (past ++ [.saved saver request.key lease] ++ []) request.key =
        some lease := by
      rw [List.append_nil]
      exact held_of_saved (by simp)
    obtain ⟨gate, rfl | rfl⟩ := hwaits stage hstage
    · exact ⟨trivial, by simp, fun _ => hheld⟩
    · exact ⟨trivial, by simp, fun _ => hheld⟩
  -- Another call makes the event, which changes nothing for the one that waits.
  case keep =>
    rintro events state event state' stage? hsofar hreaches hstate hhappens hne hsharing stage rfl
    have hwas := hsharing stage rfl
    refine ⟨hwas.shares, fun hunread instant hread => ?_, fun hunlooked => ?_⟩
    · rcases List.mem_append.mp hread with hold | hnew
      · exact hwas.unread hunread instant hold
      · exact hne (List.mem_singleton.mp hnew ▸ rfl)
    · have hwrite := hwas.write?_eq_none hreaches hstate rfl hlimit
        (fun remover found hmem => hkept remover found (hsofar.subset hmem))
        (hintime.of_prefix ((List.prefix_append _ _).trans hsofar)) hunlooked hhappens
      rw [← List.append_assoc, held_append_singleton, hwrite]
      exact hwas.held hunlooked
  -- It makes the step itself, and reads the clock in time.
  case step =>
    intro events state stage progress hsofar hreaches hstate hstep hsharing
    have hwas := hsharing stage rfl
    have hread : ∀ now, stage.isUnread → progress.event = .read number now → now < limit := by
      intro now hunread hevent
      rw [hevent] at hsofar
      exact hintime.of_prefix hsofar events number now [] rfl (hwas.unread hunread)
    have hstored : stage.isUnlooked → state.store.fetch? request.key = some lease :=
      fun hunlooked => (hreaches.fetch?_store _).trans (hwas.held hunlooked)
    have hevent := hstep.shares_event hwas.shares
    refine ⟨hevent, fun next hstage => ?_⟩
    obtain ⟨hunread, hunlooked⟩ := hstep.unread_of_shares hwas.shares hstage
    refine ⟨hstep.shares hwas.shares hlimit hstored hread hstage, fun hstill instant hmem => ?_,
      fun hstill => ?_⟩
    · obtain ⟨hwasUnread, hother⟩ := hunread hstill
      rcases List.mem_append.mp hmem with hold | hnew
      · exact hwas.unread hwasUnread instant hold
      · exact hother instant (List.mem_singleton.mp hnew).symm
    · rw [← List.append_assoc, held_append_singleton, hevent.write?_eq_none]
      exact hwas.held (hunlooked hstill)

/-! ## Coming to an end -/

/-- A look-up that shares a lease and was not given up need not wait, unless it is at a gate that
someone is behind. -/
theorem Stage.Shares.exists_goOn (hshares : call.stage.Shares lease limit)
    (hstays : ∀ gate, call.stage ≠ .parting gate .abandoned)
    (hlimit : lease.expiresAt.sub? rules.margin = some limit)
    (hstored : call.stage.isUnlooked → state.store.fetch? call.key = some lease)
    (hfree : ∀ gate, call.stage = .queued gate → state.isTaken gate = false) (now : Instant) :
    ∃ progress, call.goOn? rules state now = some progress ∧
      (∀ instant, progress.event = .read call.number instant → instant = now) ∧
      (progress.stage = none → progress.event = .ended call.number (.result (.ok lease))) ∧
      ∀ next, progress.stage = some next → next.stepsLeft < call.stage.stepsLeft ∧
        ∀ gate, next ≠ .queued gate ∧ next ≠ .parting gate .abandoned := by
  obtain ⟨number, request, stage⟩ := call
  -- At each of these stages the next step is determined; only a queue has to be free.
  cases stage with
  | queued gate => simp [Call.goOn?, readsClock, Call.proceed, hfree gate rfl, stepsLeft]
  | entering gate => simp [Call.goOn?, readsClock, Call.read, stepsLeft]
  | checking gate looked =>
    have hfound := State.freshLease?_of_lt (hstored rfl) hlimit hshares
    simp only [Call.key] at hfound
    simp [Call.goOn?, readsClock, Call.proceed, Call.key, hfound, stepsLeft]
  | leaving gate ending =>
    obtain rfl : ending = .result (.ok lease) := hshares
    simp [Call.goOn?, readsClock, Call.proceed, Progress.quiet, stepsLeft]
  | parting gate ending =>
    cases ending with
    | result outcome =>
      simp [Call.goOn?, readsClock, Call.proceed, Progress.quiet, stepsLeft]
    | broken => exact hshares.elim
    | abandoned => exact absurd rfl (hstays gate)
  | closing outcome =>
    obtain rfl : outcome = .ok lease := hshares
    simp [Call.goOn?, readsClock, Call.proceed, stepsLeft]
  | _ => exact hshares.elim

/-- A look-up that shares a lease and was not given up can come to its end, unless it is at a gate
that someone is behind. -/
theorem Reaches.canEnd_of_shares {history : List Event} (h : Reaches rules history state)
    (hcall : call ∈ state.calls) (hshares : call.stage.Shares lease limit)
    (hstays : ∀ gate, call.stage ≠ .parting gate .abandoned)
    (hlimit : lease.expiresAt.sub? rules.margin = some limit)
    (hstored : call.stage.isUnlooked → state.store.fetch? call.key = some lease)
    (hfree : ∀ gate, call.stage = .queued gate → state.isTaken gate = false)
    (hnow : now < limit) : CanEnd rules now call.number (.result (.ok lease)) state := by
  -- By induction on the steps that are left.
  generalize hleft : call.stage.stepsLeft = left
  induction left using Nat.strongRecOn generalizing history state call with
  | ind left ih =>
    subst hleft
    obtain ⟨progress, hgoOn, hread, hover, hnext⟩ :=
      hshares.exists_goOn hstays hlimit hstored hfree now
    have hstep := callStep_of_goOn? hgoOn
    obtain ⟨action, log, hgoes, hact⟩ := h.numbered.exists_step hcall hgoOn
    cases hstage : progress.stage with
    | none => exact .over hgoes hact (hover hstage)
    | some next =>
      obtain ⟨hless, hthrough⟩ := hnext next hstage
      have hshares' := hstep.shares hshares hlimit hstored
        (fun instant _ hinstant => hread instant hinstant ▸ hnow) hstage
      have hstored' : next.isUnlooked →
          (state.advance call progress).store.fetch? call.key = some lease := by
        intro hunlooked
        rw [State.store_advance, hstep.fetch?_apply, (hstep.shares_event hshares).write?_eq_none]
        exact hstored ((hstep.unread_of_shares hshares hstage).2 hunlooked)
      have hcall' : { call with stage := next } ∈ (state.advance call progress).calls :=
        State.mem_calls_advance.mpr (.inr ⟨next, hstage, rfl⟩)
      have hrest := ih next.stepsLeft hless (h.next hact) hcall' hshares'
        (fun gate => (hthrough gate).2) hstored'
        (fun gate hgate => absurd hgate (hthrough gate).1) rfl
      exact .goOn hgoes hact hrest

/-- Whoever comes out by itself from behind a gate need not wait, and writes nothing. -/
theorem Stage.Passes.exists_goOn (hpasses : call.stage.Passes limit)
    (hlimit : lease.expiresAt.sub? rules.margin = some limit)
    (hstored : state.store.fetch? call.key = some lease) (hnow : now < limit) :
    ∃ progress next, call.goOn? rules state now = some progress ∧ progress.stage = some next ∧
      next.stepsLeft < call.stage.stepsLeft ∧
      (next.isBehind → next.Passes limit ∧ next.gate? = call.stage.gate?) ∧
      progress.event.write? call.key = none := by
  obtain ⟨number, request, stage⟩ := call
  -- Behind the gate likewise, since the lease it finds is fresh.
  cases stage with
  | entering gate =>
    simp [Call.goOn?, readsClock, Call.read, stepsLeft, Passes, gate?, hnow, Event.write?]
  | checking gate looked =>
    have hfound := State.freshLease?_of_lt hstored hlimit hpasses
    simp only [Call.key] at hfound
    simp [Call.goOn?, readsClock, Call.proceed, Call.key, hfound, stepsLeft, Passes, gate?,
      Event.write?]
  | leaving gate ending =>
    simp [Call.goOn?, readsClock, Call.proceed, Progress.quiet, stepsLeft, isBehind, Event.write?]
  | _ => exact hpasses.elim

/-- Look-ups that hold one gate are of one key. -/
theorem Reaches.key_eq_of_gate {history : List Event} (h : Reaches rules history state)
    {a b : Call} {gate : Nat} (ha : a ∈ state.calls) (hb : b ∈ state.calls)
    (hga : a.stage.gate? = some gate) (hgb : b.stage.gate? = some gate) : a.key = b.key :=
  congrArg EntryKey.mk (h.raised.eq_of_gate _ _ gate (h.gated.get?_gate a ha gate hga)
    (h.gated.get?_gate b hb gate hgb))

/-- When the look-up behind a gate has come out, nobody is behind it. -/
theorem Gated.isTaken_advance (h : Gated state) {holder : Call} {gate : Nat}
    (hholder : holder ∈ state.calls) (hgate : holder.stage.gate? = some gate)
    (hbehind : holder.stage.isBehind)
    (hout : ∀ next, progress.stage = some next → ¬next.isBehind) :
    (state.advance holder progress).isTaken gate = false := by
  refine State.isTaken_eq_false_iff.mpr fun other hother hheld => ?_
  refine Bool.eq_false_iff.mpr fun hotherBehind => ?_
  rcases State.mem_calls_advance.mp hother with ⟨hold, hne⟩ | ⟨next, hnext, rfl⟩
  · -- It was the only one.
    have hone := h.eq_of_gate other hold holder hholder (hheld.trans hgate.symm) hotherBehind
      hbehind
    exact hne (congrArg Call.number hone)
  · exact hout next hnext hotherBehind

/-- A look-up that waits can come to its end, if someone behind its gate comes out by itself and the
lease of the key is fresh. -/
theorem Reaches.canEnd_of_holder {history : List Event} (h : Reaches rules history state)
    {holder : Call} {gate : Nat} (hcall : call ∈ state.calls) (hqueued : call.stage = .queued gate)
    (hlimit : lease.expiresAt.sub? rules.margin = some limit)
    (hstored : state.store.fetch? call.key = some lease) (hnow : now < limit)
    (hholder : holder ∈ state.calls) (hgate : holder.stage.gate? = some gate)
    (hbehind : holder.stage.isBehind) (hpasses : holder.stage.Passes limit) :
    CanEnd rules now call.number (.result (.ok lease)) state := by
  -- By induction on the steps that are left to the one behind the gate.
  generalize hleft : holder.stage.stepsLeft = left
  induction left using Nat.strongRecOn generalizing history state holder with
  | ind left ih =>
    subst hleft
    have hkey : holder.key = call.key := h.key_eq_of_gate hholder hcall hgate (by rw [hqueued]; rfl)
    obtain ⟨progress, next, hgoOn, hstage, hless, hpasses', hwrite⟩ :=
      hpasses.exists_goOn hlimit (hkey ▸ hstored) hnow
    have hstep := callStep_of_goOn? hgoOn
    obtain ⟨action, log, hgoes, hact⟩ := h.numbered.exists_step hholder hgoOn
    have hne : call.number ≠ holder.number := by
      intro hnumber
      rw [← h.numbered.eq_of_number call hcall holder hholder hnumber, hqueued] at hbehind
      cases hbehind
    -- The one that waits still does, and the lease is still there.
    have hcall' : call ∈ (state.advance holder progress).calls :=
      State.mem_calls_advance.mpr (.inl ⟨hcall, hne⟩)
    have hstored' : (state.advance holder progress).store.fetch? call.key = some lease := by
      rw [State.store_advance, hstep.fetch?_apply, ← hkey, hwrite, hkey]
      exact hstored
    refine .goOn hgoes hact ?_
    by_cases hstill : next.isBehind
    · obtain ⟨hpassesNext, hgateNext⟩ := hpasses' hstill
      exact ih next.stepsLeft hless (h.next hact) hcall' hstored'
        (State.mem_calls_advance.mpr (.inr ⟨next, hstage, rfl⟩)) (hgateNext.trans hgate) hstill
        hpassesNext rfl
    · -- The gate is free now.
      have hfree := h.gated.isTaken_advance hholder hgate hbehind fun last hlast hlastBehind =>
        hstill (Option.some.inj (hstage.symm.trans hlast) ▸ hlastBehind)
      refine (h.next hact).canEnd_of_shares hcall' (by simp [hqueued, Stage.Shares])
        (by simp [hqueued]) hlimit (fun _ => hstored') (fun gate' hgate' => ?_) hnow
      obtain rfl : gate = gate' := by simpa [hqueued] using hgate'
      exact hfree

/-- A look-up that shares a lease and was not given up can come to its end with it, whenever the
clock finds it fresh. -/
theorem Sharing.canEnd {saver : Nat}
    (h : Sharing (past ++ [.saved saver key lease]) events number key lease limit stage)
    (hreaches : Reaches rules (past ++ [.saved saver key lease] ++ events) state)
    (hcall : ⟨number, request, stage⟩ ∈ state.calls) (hkey : request.key = key)
    (hstays : ∀ gate, stage ≠ .parting gate .abandoned)
    (hlimit : lease.expiresAt.sub? rules.margin = some limit)
    (hkept : ∀ remover found, .removed remover key found ∉ events)
    (hintime : InTime limit number events) (hnow : now < limit) :
    CanEnd rules now number (.result (.ok lease)) state := by
  subst hkey
  have hstored : stage.isUnlooked → state.store.fetch? request.key = some lease :=
    fun hunlooked => (hreaches.fetch?_store _).trans (h.held hunlooked)
  -- Someone may still be behind the gate, and has to leave it first.
  by_cases hwaits : ∃ gate, stage = .queued gate ∧ state.isTaken gate
  · obtain ⟨gate, rfl, htaken⟩ := hwaits
    obtain ⟨holder, hholder, htaken⟩ := List.any_eq_true.mp htaken
    obtain ⟨hgate, hbehind⟩ : holder.stage.gate? = some gate ∧ holder.stage.isBehind := by
      simpa using htaken
    have hholderKey : holder.key = request.key := hreaches.key_eq_of_gate hholder hcall hgate rfl
    have hfresh : ∀ reader now, .read reader now ∈ events → now < limit :=
      fun reader now => hintime.lt_of_unread (h.unread rfl)
    have hheld := h.held rfl
    have hreaches' := hreaches
    rw [List.append_assoc] at hreaches' hheld
    exact hreaches.canEnd_of_holder hcall rfl hlimit (hstored rfl) hnow hholder hgate hbehind
      (hreaches'.passes_of_fresh hlimit hkept hfresh hheld hholder hholderKey hbehind)
  -- The gate is free, so the look-up goes on to its end.
  · refine hreaches.canEnd_of_shares hcall h.shares hstays hlimit hstored ?_ hnow
    intro gate hqueued
    exact Bool.eq_false_iff.mpr fun htaken => hwaits ⟨gate, hqueued, htaken⟩

end BearerCache.Cache
