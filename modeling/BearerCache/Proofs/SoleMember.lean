import BearerCache.Proofs.ExactRecords

/-! # Records of one member

A record of one member is read from an object in which that member stands once at most, among
members of other names that are passed over, or from a list of one element.

## Key results

- `visited_soleMember_iff`: the members of an object that can be visited
- `parse_soleMember_eq_ok_iff`: what is read of a whole text
- `parseFront_soleMember_eq_ok_iff`: what is read of the front of a text
- `parse_soleMember_of_rejects`: a member whose value is refused
-/

namespace BearerCache.Json

variable {α β : Type} {r : Reader β} {a : α} {b : β} {b? : Option β} {name kind : String}
variable {items : List (String × List UInt8)} {v text : List UInt8}

/-! ## The member and its value -/

/-- The member of a record that has no other, kept as it is. -/
def soleMember (name : String) (r : Reader β) : Member (Option β) :=
  .of name id (fun b? _ => b?) r

/-- What a text has for the only member of a record: nothing if it is an object without the
member, and what is read of its value if it is an object with one such member, or a list with
one element. -/
inductive SoleValue (name : String) (r : Reader β) (text : List UInt8) : Option β → Prop where
  | absent {items : List (String × List UInt8)} (h : IsObject items text)
      (hnone : items.filter (·.1 = name) = []) : SoleValue name r text none
  | member {items : List (String × List UInt8)} {v : List UInt8} {b : β} (h : IsObject items text)
      (hone : items.filter (·.1 = name) = [(name, v)]) (htakes : r.Takes v b) :
      SoleValue name r text (some b)
  | element {v : List UInt8} {b : β} (h : IsList [v] text) (htakes : r.Takes v b) :
      SoleValue name r text (some b)

/-- What stands in an object as the only member of its name is a value. -/
theorem IsObject.isValue_of_filter (h : IsObject items text)
    (hone : items.filter (·.1 = name) = [(name, v)]) : IsValue v := by
  have hmem : (name, v) ∈ items.filter (·.1 = name) := by
    rw [hone]
    exact List.mem_cons_self
  exact h.isValue _ (List.mem_filter.mp hmem).1

/-! ## Visits -/

/-- Members of other names are passed over. -/
theorem visit_soleMember_of_ne {other : String} (hne : other ≠ name) :
    recordVisit [soleMember name r] other b? = .ok (Reader.skip.map fun _ => b?) := by
  have hfind : [soleMember name r].find? (·.name = other) = none := by
    simp [soleMember, Member.of, Ne.symm hne]
  rw [recordVisit, hfind]

/-- The member is read where it stands for the first time. -/
theorem visit_soleMember :
    recordVisit [soleMember name r] name none =
      .ok ((soleMember name r).put.map fun change => change none) := by
  have hfind : [soleMember name r].find? (·.name = name) = some (soleMember name r) := by
    simp [soleMember, Member.of]
  rw [recordVisit, hfind]
  rfl

/-- The member is refused where it stands for the second time. -/
theorem visit_soleMember_of_some :
    recordVisit [soleMember name r] name (some b) = .error s!"duplicate field `{name}`" := by
  have hfind : [soleMember name r].find? (·.name = name) = some (soleMember name r) := by
    simp [soleMember, Member.of]
  rw [recordVisit, hfind]
  rfl

/-- What has been read of the member stays. -/
theorem Visited.eq_of_soleMember (h : Visited (recordVisit [soleMember name r]) (some b) items b?) :
    items.filter (·.1 = name) = [] ∧ b? = some b := by
  -- Once the member is set it is refused, so no further item has its name.
  induction items with
  | nil =>
    cases h
    exact ⟨rfl, rfl⟩
  | cons item items ih =>
    cases h with | @cons _ _ _ other v reader _ hvisit htakes hrest =>
    by_cases hname : other = name
    · rw [hname, visit_soleMember_of_some] at hvisit
      cases hvisit
    · rw [visit_soleMember_of_ne hname] at hvisit
      cases hvisit
      obtain ⟨a, -, rfl⟩ := Reader.map_eq_ok htakes.run
      obtain ⟨hfilter, hlast⟩ := ih hrest
      exact ⟨by simpa [hname] using hfilter, hlast⟩

/-- Members of other names change nothing. -/
theorem Visited.of_forall_ne (hvalues : ∀ item ∈ items, IsValue item.2)
    (hne : items.filter (·.1 = name) = []) :
    Visited (recordVisit [soleMember name r]) b? items b? := by
  induction items with
  | nil => exact .nil
  | cons item items ih =>
    obtain ⟨hvalue, hvalues⟩ := List.forall_mem_cons.mp hvalues
    have hname : item.1 ≠ name := by
      intro hname
      simp [hname] at hne
    have hrest : items.filter (·.1 = name) = [] := by simpa [hname] using hne
    exact .cons (visit_soleMember_of_ne hname) ((Reader.takes_skip hvalue).map _) (ih hvalues hrest)

/-- All members are visited just when the one that counts stands there once at most. -/
theorem visited_soleMember_iff (hexact : r.IsExact) (hvalues : ∀ item ∈ items, IsValue item.2) :
    Visited (recordVisit [soleMember name r]) none items b? ↔
      items.filter (·.1 = name) = [] ∧ b? = none ∨
        ∃ v b, items.filter (·.1 = name) = [(name, v)] ∧ r.Takes v b ∧ b? = some b := by
  -- On the items: up to the first one of the name nothing is set.
  induction items with
  | nil =>
    constructor
    · intro h
      cases h
      exact .inl ⟨rfl, rfl⟩
    · rintro (⟨-, rfl⟩ | ⟨v, b, hfilter, -⟩)
      · exact .nil
      · cases hfilter
  | cons item items ih =>
    obtain ⟨other, v⟩ := item
    obtain ⟨hvalue, hvalues⟩ := List.forall_mem_cons.mp hvalues
    by_cases hname : other = name
    · subst hname
      simp only [List.filter_cons, decide_true, if_true, reduceCtorEq, false_and, false_or,
        List.cons.injEq, Prod.mk.injEq, true_and]
      constructor
      · intro h
        cases h with | cons hvisit htakes hrest =>
        rw [visit_soleMember] at hvisit
        cases hvisit
        obtain ⟨change, hput, rfl⟩ := Reader.map_eq_ok htakes.run
        obtain ⟨b, hrun, rfl⟩ := Reader.map_eq_ok hput
        obtain ⟨hfilter, hlast⟩ := hrest.eq_of_soleMember
        exact ⟨v, b, ⟨rfl, hfilter⟩, (hexact.takes_iff hvalue).mpr hrun, hlast⟩
      · rintro ⟨v', b, ⟨rfl, hfilter⟩, htakes, rfl⟩
        exact .cons visit_soleMember ((htakes.map _).map _) (.of_forall_ne hvalues hfilter)
    · simp only [List.filter_cons, hname, decide_false, Bool.false_eq_true, if_false]
      rw [← ih hvalues]
      constructor
      · intro h
        cases h with | cons hvisit htakes hrest =>
        rw [visit_soleMember_of_ne hname] at hvisit
        cases hvisit
        obtain ⟨a, -, rfl⟩ := Reader.map_eq_ok htakes.run
        exact hrest
      · intro h
        exact .cons (visit_soleMember_of_ne hname) ((Reader.takes_skip hvalue).map _) h

/-! ## Whole texts -/

/-- The only member of a record is read exactly if its value is. -/
theorem isExact_soleMember (hexact : r.IsExact) :
    ∀ member ∈ [soleMember name r], member.put.IsExact := by
  simpa [soleMember, Member.of] using hexact.map _

/-- The texts that are a record of one member. -/
theorem isRecord_soleMember_iff {conclude : Option β → Except String α} (hexact : r.IsExact) :
    IsRecord [soleMember name r] none conclude text a ↔
      ∃ b?, SoleValue name r text b? ∧ conclude b? = .ok a := by
  constructor
  · intro h
    -- An object has the member or not; a list has it as its only element.
    cases h with
    | object hobject hvisited hconclude =>
      rcases (visited_soleMember_iff hexact hobject.isValue).mp hvisited with
        ⟨hnone, rfl⟩ | ⟨v, b, hone, htakes, rfl⟩
      · exact ⟨none, .absent hobject hnone, hconclude⟩
      · exact ⟨some b, .member hobject hone htakes, hconclude⟩
    | list hlist hlisted hconclude =>
      cases hlisted with | @cons _ _ _ _ change v _ htakes hrest =>
      cases hrest
      obtain ⟨b, hrun, rfl⟩ := Reader.map_eq_ok htakes.run
      have hvalue := hlist.isValue v List.mem_cons_self
      exact ⟨some b, .element hlist ((hexact.takes_iff hvalue).mpr hrun), hconclude⟩
  · rintro ⟨b?, hsole, hconclude⟩
    cases hsole with
    | absent hobject hnone =>
      exact .object hobject (.of_forall_ne hobject.isValue hnone) hconclude
    | member hobject hone htakes =>
      refine .object hobject ?_ hconclude
      exact (visited_soleMember_iff hexact hobject.isValue).mpr (.inr ⟨_, _, hone, htakes, rfl⟩)
    | element hlist htakes =>
      exact .list hlist (.cons (htakes.map _) .nil) hconclude

/-- What is read of a whole text as a record of one member. -/
theorem parse_soleMember_eq_ok_iff {conclude : Option β → Except String α} (hexact : r.IsExact) :
    (Reader.record kind [soleMember name r] none conclude).parse text = .ok a ↔
      ∃ b?, SoleValue name r text b? ∧ conclude b? = .ok a := by
  rw [parse_record_eq_ok_iff (isExact_soleMember hexact), isRecord_soleMember_iff hexact]

/-- What is read of the front of a text as a record of one member. -/
theorem parseFront_soleMember_eq_ok_iff {conclude : Option β → Except String α}
    (hexact : r.IsExact) :
    (Reader.record kind [soleMember name r] none conclude).parseFront text = .ok a ↔
      ∃ front rest, text = front ++ rest ∧
        ∃ b?, SoleValue name r front b? ∧ conclude b? = .ok a := by
  simp only [parseFront_record_eq_ok_iff (isExact_soleMember hexact),
    isRecord_soleMember_iff hexact]

/-- An object whose member is refused is no record. -/
theorem parse_soleMember_of_rejects {conclude : Option β → Except String α}
    (h : IsObject items text) (hone : items.filter (·.1 = name) = [(name, v)])
    (hrejects : r.Rejects v) :
    ∃ fault, (Reader.record kind [soleMember name r] none conclude).parse text = .error fault := by
  obtain ⟨before, after, rfl, hbefore, -, -⟩ := List.filter_eq_cons_iff.mp hone
  have hvalues : ∀ item ∈ before, IsValue item.2 := fun item hitem =>
    h.isValue item (List.mem_append_left _ hitem)
  have hvisited : Visited (recordVisit [soleMember name r]) none before none :=
    .of_forall_ne hvalues (List.filter_eq_nil_iff.mpr hbefore)
  exact parse_record_of_rejects h hvisited visit_soleMember ((hrejects.map _).map _)

end BearerCache.Json
