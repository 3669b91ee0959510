import BearerCache.Proofs.SoleMember

/-! # Records of several members

A record is read part by part.  For the part of one member it is as if the record had no other: an
object is visited as one in which that member alone counts.  On the other side, if no member stands
twice and each has a value that is taken, then the whole object can be visited.

## Key results

- `Visited.part_eq_some_iff`: what is read of a single member
- `exists_visited`: the objects all of whose members can be visited
-/

namespace BearerCache.Json

variable {σ β : Type} {known : List (Member σ)} {name : String} {get : σ → Option β} {r : Reader β}
variable {items : List (String × List UInt8)} {state last : σ}

/-- A record keeps what is read of a member in a part of its own. -/
structure KeepsPart (known : List (Member σ)) (name : String) (get : σ → Option β) (r : Reader β) :
    Prop where
  /-- What the member does to its part. -/
  own : ∃ set, (∀ b? state, get (set b? state) = b?) ∧
    known.find? (·.name = name) = some (.of name get set r)
  /-- What other members do to it. -/
  other : ∀ m ∈ known, m.name ≠ name → ∀ bs change rest, m.put.run bs = .ok (change, rest) →
    ∀ state, get (change state) = get state

/-- Of a member that is known, the first value is put, and no other. -/
theorem recordVisit_of_find {m : Member σ} (h : known.find? (·.name = name) = some m) :
    recordVisit known name state =
      if m.isSet state then .error s!"duplicate field `{name}`"
      else .ok (m.put.map fun change => change state) := by
  rw [recordVisit, h]

/-- A member that is not known is passed over. -/
theorem recordVisit_of_find_none (h : known.find? (·.name = name) = none) :
    recordVisit known name state = .ok (Reader.skip.map fun _ => state) := by
  rw [recordVisit, h]

/-- For the part of a member, the other members do not count. -/
theorem Visited.part (h : Visited (recordVisit known) state items last)
    (hpart : KeepsPart known name get r) (hexact : r.IsExact)
    (hvalues : ∀ item ∈ items, IsValue item.2) :
    Visited (recordVisit [soleMember name r]) (get state) items (get last) := by
  obtain ⟨set, hset, hfind⟩ := hpart.own
  -- On the visits; only a member of this name touches the part.
  induction h with
  | nil => exact .nil
  | @cons state next last other v reader items hvisit htakes hrest ih =>
    obtain ⟨hvalue, hvalues⟩ := List.forall_mem_cons.mp hvalues
    have hrest := ih hvalues
    by_cases hname : other = name
    · subst hname
      rw [recordVisit_of_find hfind] at hvisit
      split at hvisit
      next => cases hvisit
      next hunset =>
        cases hvisit
        obtain ⟨change, hput, rfl⟩ := Reader.map_eq_ok htakes.run
        obtain ⟨b, hrun, rfl⟩ := Reader.map_eq_ok hput
        have hnone : get state = none := Option.not_isSome_iff_eq_none.mp hunset
        rw [hset] at hrest
        rw [hnone]
        exact .cons visit_soleMember ((((hexact.takes_iff hvalue).mpr hrun).map _).map _) hrest
    · have hsame : get next = get state := by
        cases hother : known.find? (·.name = other) with
        | none =>
          rw [recordVisit_of_find_none hother] at hvisit
          cases hvisit
          obtain ⟨-, -, rfl⟩ := Reader.map_eq_ok htakes.run
          rfl
        -- A member of another name, which leaves the part as it was.
        | some m =>
          rw [recordVisit_of_find hother] at hvisit
          split at hvisit
          next => cases hvisit
          next =>
            cases hvisit
            obtain ⟨change, hput, rfl⟩ := Reader.map_eq_ok htakes.run
            have hm : m.name = other := by simpa using List.find?_some hother
            exact hpart.other m (List.mem_of_find?_eq_some hother) (hm ▸ hname) v change [] hput _
      rw [hsame] at hrest
      exact .cons (visit_soleMember_of_ne hname) ((Reader.takes_skip hvalue).map _) hrest

/-- What is kept of a member in the end is what is taken of its value, if it stands there once. -/
theorem Visited.part_eq_some_iff (h : Visited (recordVisit known) state items last)
    (hpart : KeepsPart known name get r) (hexact : r.IsExact)
    (hvalues : ∀ item ∈ items, IsValue item.2) (hblank : get state = none) {b : β} :
    get last = some b ↔ ∃ v, items.filter (·.1 = name) = [(name, v)] ∧ r.Takes v b := by
  have hsole := h.part hpart hexact hvalues
  rw [hblank] at hsole
  -- The members of the name are none or one, and in the second case the part is what it was read
  -- as.
  rcases (visited_soleMember_iff hexact hvalues).mp hsole with
    ⟨hnone, hlast⟩ | ⟨v, b', hone, htakes, hlast⟩
  · simp [hnone, hlast]
  · rw [hlast, hone]
    constructor
    · intro hsome
      exact ⟨v, rfl, Option.some.inj hsome ▸ htakes⟩
    · rintro ⟨v', heq, htakes'⟩
      obtain rfl : v = v' := by simpa using heq
      cases htakes.run.symm.trans htakes'.run
      rfl

/-- Nothing is kept of a member that does not stand there. -/
theorem Visited.part_eq_none (h : Visited (recordVisit known) state items last)
    (hpart : KeepsPart known name get r) (hexact : r.IsExact)
    (hvalues : ∀ item ∈ items, IsValue item.2) (hblank : get state = none)
    (hnone : items.filter (·.1 = name) = []) : get last = none := by
  have hsole := h.part hpart hexact hvalues
  rw [hblank] at hsole
  rcases (visited_soleMember_iff hexact hvalues).mp hsole with ⟨-, hlast⟩ | ⟨v, -, hone, -⟩
  · exact hlast
  · rw [hnone] at hone
    cases hone

/-- A member that has not been read yet is visited, and what its reader refuses is refused. -/
theorem Visited.exists_visit (h : Visited (recordVisit known) state items last)
    (hpart : KeepsPart known name get r) (hexact : r.IsExact)
    (hvalues : ∀ item ∈ items, IsValue item.2) (hblank : get state = none)
    (hnone : items.filter (·.1 = name) = []) :
    ∃ reader, recordVisit known name last = .ok reader ∧
      ∀ bs fault, r.run bs = .error fault → reader.run bs = .error fault := by
  obtain ⟨set, -, hfind⟩ := hpart.own
  have hunset := h.part_eq_none hpart hexact hvalues hblank hnone
  -- The part is not set yet, so the member is not refused as one that comes twice.
  have hvisit : recordVisit known name last =
      .ok ((Member.of name get set r).put.map fun change => change last) := by
    rw [recordVisit_of_find hfind]
    exact if_neg (Option.not_isSome_iff_eq_none.mpr hunset)
  refine ⟨_, hvisit, fun bs fault hrun => ?_⟩
  simp only [Member.of, Reader.map, Reader.refine, hrun]

/-- An object can be visited if no known member stands there twice and the values of all of them are
taken. -/
theorem exists_visited (hvalues : ∀ item ∈ items, IsValue item.2)
    (htakes : ∀ m ∈ known, ∀ item ∈ items, item.1 = m.name → ∃ change, m.put.Takes item.2 change)
    (honce : ∀ m ∈ known, (items.filter (·.1 = m.name)).length ≤ 1)
    (hunset : ∀ m ∈ known, m.isSet state → items.filter (·.1 = m.name) = [])
    (hother : ∀ m ∈ known, ∀ n ∈ known, m.name ≠ n.name → ∀ bs change rest,
      m.put.run bs = .ok (change, rest) → ∀ state, n.isSet (change state) = n.isSet state) :
    ∃ last, Visited (recordVisit known) state items last := by
  -- On the items, with what is set so far free: no member that is set comes again.
  induction items generalizing state with
  | nil => exact ⟨state, .nil⟩
  | cons item items ih =>
    obtain ⟨name, v⟩ := item
    obtain ⟨hvalue, hvalues⟩ := List.forall_mem_cons.mp hvalues
    have htakes' : ∀ m ∈ known, ∀ item ∈ items, item.1 = m.name →
        ∃ change, m.put.Takes item.2 change := fun m hm item hitem =>
      htakes m hm item (List.mem_cons_of_mem _ hitem)
    have honce' : ∀ m ∈ known, (items.filter (·.1 = m.name)).length ≤ 1 := fun m hm =>
      Nat.le_trans (((List.sublist_cons_self _ items).filter _).length_le) (honce m hm)
    -- An unknown member sets nothing.
    cases hfind : known.find? (·.name = name) with
    | none =>
      have hunset' : ∀ m ∈ known, m.isSet state → items.filter (·.1 = m.name) = [] :=
        fun m hm hset => List.eq_nil_of_sublist_nil
          (hunset m hm hset ▸ (List.sublist_cons_self _ items).filter _)
      obtain ⟨last, hrest⟩ := ih hvalues htakes' honce' hunset'
      exact ⟨last, .cons (recordVisit_of_find_none hfind) ((Reader.takes_skip hvalue).map _) hrest⟩
    | some m =>
      have hm := List.mem_of_find?_eq_some hfind
      have hname : m.name = name := by simpa using List.find?_some hfind
      obtain ⟨change, hchange⟩ := htakes m hm _ List.mem_cons_self hname.symm
      have hfree : ¬m.isSet state := fun hset => by
        have hnil := hunset m hm hset
        rw [List.filter_cons_of_pos (by simp [hname])] at hnil
        cases hnil
      -- What stands behind the member has another name.
      have hunset' : ∀ n ∈ known, n.isSet (change state) → items.filter (·.1 = n.name) = [] := by
        intro n hn hset
        by_cases hsame : n.name = name
        · have hlength := honce n hn
          rw [List.filter_cons_of_pos (by simp [hsame])] at hlength
          exact List.length_eq_zero_iff.mp (by simpa using hlength)
        · have hne : m.name ≠ n.name := fun h => hsame (h.symm.trans hname)
          rw [hother m hm n hn hne v change [] hchange.run] at hset
          exact List.eq_nil_of_sublist_nil
            (hunset n hn hset ▸ (List.sublist_cons_self _ items).filter _)
      obtain ⟨last, hrest⟩ := ih hvalues htakes' honce' hunset'
      have hvisit : recordVisit known name state = .ok (m.put.map fun change => change state) := by
        rw [recordVisit_of_find hfind, if_neg hfree]
      exact ⟨last, .cons hvisit (hchange.map _) hrest⟩

end BearerCache.Json
