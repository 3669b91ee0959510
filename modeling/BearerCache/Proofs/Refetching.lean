import BearerCache.Proofs.SingleFlight

/-! # No fetch without need

A look-up asks for a token only after it has looked behind the gate of its key and found no fresh
lease.  Nothing is saved between the two, so the lease that was saved last is either the one that
it found to be stale, or gone by an invalidation.

## Key results

- `Reaches.removed_or_stale_of_asked`: why a look-up asks although a lease has been saved
- `Reaches.unasked_of_fresh`: while a lease is fresh and not invalidated, nobody asks
- `Reaches.no_redundant_fetch`: both
-/

namespace BearerCache.Cache

open scoped List

variable {rules : Rules} {state : State} {history past after : List Event} {key : EntryKey}
  {lease : Lease} {number : Nat}

/-- What nothing was saved after happened after the last save. -/
theorem eq_append_of_unsaved {start : Event} {before later : List Event}
    (h : past ++ .saved number key lease :: after = before ++ start :: later)
    (hlater : Unsaved key later) (hstart : start ≠ .saved number key lease) :
    ∃ between, after = between ++ start :: later := by
  -- One of the two splits is the longer one, unless they are cut at the same event.
  rcases List.append_eq_append_iff.mp h with ⟨between, rfl, hrest⟩ | ⟨between, rfl, hrest⟩
  · cases between with
    | nil => exact absurd (List.cons.inj hrest).1.symm hstart
    | cons event between =>
      exact ⟨between, (List.cons.inj hrest).2⟩
  · cases between with
    | nil => exact absurd (List.cons.inj hrest).1 hstart
    | cons event between =>
      -- Then the save would have come later.
      refine absurd ?_ (hlater number lease)
      rw [(List.cons.inj hrest).2]
      exact List.mem_append_right _ List.mem_cons_self

/-- A look-up looks after whatever has been saved under its key. -/
theorem Looked.sublist_of_saved {other : Nat} {now : Instant}
    (h : Looked (past ++ .saved other key lease :: after) number key now) :
    [.entered number, .read number now] <+ after := by
  obtain ⟨before, later, hsplit, hlater, hread⟩ := h
  obtain ⟨between, rfl⟩ := eq_append_of_unsaved hsplit hlater Event.noConfusion
  refine List.Sublist.trans ?_ (List.sublist_append_right between _)
  exact (List.singleton_sublist.mpr hread).cons_cons _

/-- When a look-up asks for a token under whose key a lease has been saved, then the lease that
was saved last has been removed by an invalidation, or the look-up has read, since it entered
the gate, an instant at which the lease is stale. -/
theorem Reaches.removed_or_stale_of_asked {saver : Nat} {request : TokenRequest}
    {askedAt : Instant} {rest : List Event}
    (h : Reaches rules (past ++ .saved saver request.key lease :: after ++
      .asked number request askedAt :: rest) state)
    (hlast : Unsaved request.key after) :
    (∃ remover, .removed remover request.key (some lease) ∈ after) ∨
      ∃ now limit, [.entered number, .read number now] <+ after ∧
        lease.expiresAt.sub? rules.margin = some limit ∧ limit ≤ now := by
  -- The asker was looking behind the gate when it decided, at what was held by then.
  obtain ⟨before, _, hbefore, hhappens⟩ := h.split
  obtain ⟨gate, hcall⟩ := hhappens.asked
  obtain ⟨now, hlooked, hstale⟩ := hbefore.stale_of_asking hcall rfl
  -- If the lease has not been removed, it is the one that the look-up found behind the gate.
  rcases hbefore.held_or_removed hlast with hheld | hremoved
  · obtain ⟨limit, hlimit, hle⟩ := Lease.isFreshAt?_eq_some_false_iff.mp (hstale lease hheld)
    exact .inr ⟨now, limit, hlooked.sublist_of_saved, hlimit, hle⟩
  · exact .inl hremoved

/-- After a lease has been saved nobody asks for another one, as long as it is not removed and
every reading of the clock finds it fresh. -/
theorem Reaches.unasked_of_fresh {saver : Nat}
    (h : Reaches rules (past ++ .saved saver key lease :: after) state)
    (hkept : ∀ remover found, .removed remover key found ∉ after)
    (hfresh : ∀ reader now limit, .read reader now ∈ after →
      lease.expiresAt.sub? rules.margin = some limit → now < limit) :
    ∀ asker request askedAt, .asked asker request askedAt ∈ after → request.key ≠ key := by
  -- The first who asks has nobody before it who could have saved another lease.
  induction after using List.reverseRecOn generalizing state with
  | nil => simp
  | append_singleton after event ih =>
    rw [← List.cons_append, ← List.append_assoc] at h
    obtain ⟨before, hbefore, _⟩ := h.last
    have hunasked := ih hbefore
      (fun remover found hmem => hkept remover found (List.mem_append_left _ hmem))
      (fun reader now limit hmem => hfresh reader now limit (List.mem_append_left _ hmem))
    intro asker request askedAt hasked hkey
    rcases List.mem_append.mp hasked with hold | hnew
    · exact hunasked asker request askedAt hold hkey
    obtain rfl := List.mem_singleton.mp hnew
    subst hkey
    -- Whoever saved another lease would have asked for it after the first was saved.
    have hlast : Unsaved request.key after := by
      intro other later hsaved
      obtain ⟨early, late, rfl⟩ := List.mem_iff_append.mp hsaved
      rw [← List.cons_append, ← List.append_assoc] at hbefore
      obtain ⟨request', hkey', start, rest, hsplit, hrest⟩ := hbefore.shared.asked_of_saved
      obtain ⟨between, rfl⟩ := eq_append_of_unsaved hsplit hrest Event.noConfusion
      exact hunasked other request' later.issuedAt (by simp) hkey'
    rcases h.removed_or_stale_of_asked hlast with
      ⟨remover, hremoved⟩ | ⟨now, limit, hread, hlimit, hle⟩
    · exact hkept remover _ (List.mem_append_left _ hremoved)
    · have hmem : .read asker now ∈ after := hread.subset (by simp)
      have hlt := hfresh asker now limit (List.mem_append_left _ hmem) hlimit
      exact Int.not_le.mpr hlt hle

/-- There is no fetch without need.  If a look-up asks for a token under whose key a lease has
been saved, the last of these has been removed, or the look-up has read behind its gate an
instant at which it is stale.  So nobody asks while the lease is there and all readings of the
clock find it fresh. -/
theorem Reaches.no_redundant_fetch (h : Reaches rules history state) :
    (∀ past after rest saver request lease asker askedAt,
      history = past ++ .saved saver request.key lease :: after ++
        .asked asker request askedAt :: rest →
      (∀ other later, .saved other request.key later ∉ after) →
      (∃ remover, .removed remover request.key (some lease) ∈ after) ∨
        ∃ now limit, [.entered asker, .read asker now] <+ after ∧
          lease.expiresAt.sub? rules.margin = some limit ∧ limit ≤ now) ∧
    (∀ past after saver key lease, history = past ++ .saved saver key lease :: after →
      (∀ remover found, .removed remover key found ∉ after) →
      (∀ reader now limit, .read reader now ∈ after →
        lease.expiresAt.sub? rules.margin = some limit → now < limit) →
      ∀ asker request askedAt, .asked asker request askedAt ∈ after → request.key ≠ key) := by
  constructor
  · rintro past after rest saver request lease asker askedAt rfl hlast
    exact h.removed_or_stale_of_asked hlast
  · rintro past after saver key lease rfl hkept hfresh
    exact h.unasked_of_fresh hkept hfresh

end BearerCache.Cache

namespace BearerCache.Cache.Sample

open scoped List

/-- The second look-up asks because it has read an instant at which the first lease is stale. -/
theorem first_removed_or_stale :
    (∃ remover, .removed remover request.key (some first) ∈ untilAsked) ∨
      ∃ now limit, [.entered 1, .read 1 now] <+ untilAsked ∧
        first.expiresAt.sub? rules.margin = some limit ∧ limit ≤ now := by
  obtain ⟨state, hreaches⟩ := reaches
  refine hreaches.no_redundant_fetch.1 untilFirst untilAsked _ 0 request first 1 five
    (List.append_assoc _ _ _) ?_
  simp [untilAsked]

end BearerCache.Cache.Sample
