/-! # Maps from names

A finite map whose keys are texts.  Its entries are kept in the order of the keys, by code
point, which is also the order of their UTF-8 bytes, so that two maps with the same contents
are equal and list their entries alike.

`get?` is the view of a map: `get?_insert` and `get?_erase` say what the operations do to it,
and `ext` that it determines the map. -/

namespace BearerCache

/-- A map from texts to `α`. -/
structure NameMap (α : Type) where
  entries : List (String × α)
  /-- The keys increase. -/
  sorted : entries.Pairwise fun a b => a.1 < b.1

namespace NameMap

variable {α : Type}

instance [DecidableEq α] : DecidableEq (NameMap α) := fun a b =>
  if h : a.entries = b.entries then
    isTrue (by cases a; cases b; cases h; rfl)
  else isFalse fun hab => h (hab ▸ rfl)

/-- The map without entries. -/
def empty : NameMap α := ⟨[], .nil⟩

instance : Inhabited (NameMap α) := ⟨empty⟩

/-- The value of a name. -/
def get? (m : NameMap α) (name : String) : Option α :=
  m.entries.lookup name

/-- Whether a name has a value. -/
def contains (m : NameMap α) (name : String) : Bool :=
  (m.get? name).isSome

/-- The names that have values, in order. -/
def names (m : NameMap α) : List String :=
  m.entries.map (·.1)

/-- The number of names that have values. -/
def size (m : NameMap α) : Nat :=
  m.entries.length

/-! ## Writing -/

/-- Puts a value into a list of entries with increasing keys. -/
def insertEntry (name : String) (a : α) : List (String × α) → List (String × α)
  | [] => [(name, a)]
  | entry :: rest =>
    if name < entry.1 then (name, a) :: entry :: rest
    else if name = entry.1 then (name, a) :: rest
    else entry :: insertEntry name a rest

theorem mem_insertEntry {name : String} {a : α} {x : String × α} {es : List (String × α)}
    (h : x ∈ insertEntry name a es) : x = (name, a) ∨ x ∈ es := by
  induction es with
  | nil => exact .inl (by simpa [insertEntry] using h)
  | cons entry rest ih =>
    unfold insertEntry at h
    split at h
    · exact (List.mem_cons.mp h).imp_right id
    split at h
    · exact (List.mem_cons.mp h).imp_right (List.mem_cons_of_mem _)
    · rcases List.mem_cons.mp h with rfl | hrest
      · exact .inr (List.mem_cons_self ..)
      · exact (ih hrest).imp_right (List.mem_cons_of_mem _)

theorem lt_of_not_lt_of_ne {a b : String} (h : ¬a < b) (hne : a ≠ b) : b < a := by
  rcases Std.lt_trichotomy (α := String) a b with hlt | heq | hgt
  · exact absurd hlt h
  · exact absurd heq hne
  · exact hgt

theorem sorted_insertEntry (name : String) (a : α) {es : List (String × α)}
    (h : es.Pairwise fun a b => a.1 < b.1) :
    (insertEntry name a es).Pairwise fun a b => a.1 < b.1 := by
  induction es with
  | nil => exact List.pairwise_singleton _ _
  | cons entry rest ih =>
    obtain ⟨hentry, hrest⟩ := List.pairwise_cons.mp h
    unfold insertEntry
    split
    next hlt =>
      refine List.pairwise_cons.mpr ⟨fun x hx => ?_, h⟩
      rcases List.mem_cons.mp hx with rfl | hx
      · exact hlt
      · exact String.lt_trans hlt (hentry x hx)
    next hlt =>
      split
      next heq =>
        exact List.pairwise_cons.mpr ⟨fun x hx => heq ▸ hentry x hx, hrest⟩
      next hne =>
        refine List.pairwise_cons.mpr ⟨fun x hx => ?_, ih hrest⟩
        rcases mem_insertEntry hx with rfl | hx
        · exact lt_of_not_lt_of_ne hlt hne
        · exact hentry x hx

/-- Gives a name a value, in place of the one it had. -/
def insert (m : NameMap α) (name : String) (a : α) : NameMap α :=
  ⟨insertEntry name a m.entries, sorted_insertEntry name a m.sorted⟩

/-- Takes the value of a name away. -/
def erase (m : NameMap α) (name : String) : NameMap α :=
  ⟨m.entries.filter (·.1 != name), m.sorted.filter _⟩

/-- The map of pairs; of several with one name the last one counts. -/
def ofList (pairs : List (String × α)) : NameMap α :=
  pairs.foldl (fun m p => m.insert p.1 p.2) empty

/-! ## What the operations do to the view -/

@[simp] theorem get?_empty (name : String) : (empty : NameMap α).get? name = none := rfl

theorem lookup_insertEntry (name other : String) (a : α) (es : List (String × α)) :
    (insertEntry name a es).lookup other = if other = name then some a else es.lookup other := by
  induction es with
  | nil =>
    by_cases h : other = name
    · simp [insertEntry, h]
    · simp [insertEntry, h, List.lookup_cons, beq_eq_false_iff_ne.mpr h]
  | cons entry rest ih =>
    obtain ⟨key, b⟩ := entry
    unfold insertEntry
    split
    · by_cases h : other = name
      · simp [h]
      · simp [h, List.lookup_cons, beq_eq_false_iff_ne.mpr h]
    split
    next heq =>
      simp only at heq
      subst heq
      by_cases h : other = name
      · simp [h]
      · simp [h, List.lookup_cons, beq_eq_false_iff_ne.mpr h]
    next hne =>
      simp only at hne
      rw [List.lookup_cons, List.lookup_cons, ih]
      by_cases h : other = key
      · subst h
        simp [Ne.symm hne]
      · simp [beq_eq_false_iff_ne.mpr h]

theorem get?_insert (m : NameMap α) (name other : String) (a : α) :
    (m.insert name a).get? other = if other = name then some a else m.get? other :=
  lookup_insertEntry name other a m.entries

theorem get?_erase (m : NameMap α) (name other : String) :
    (m.erase name).get? other = if other = name then none else m.get? other := by
  obtain ⟨es, _⟩ := m
  simp only [erase, get?]
  rename_i hsorted
  clear hsorted
  induction es with
  | nil => simp
  | cons entry rest ih =>
    obtain ⟨key, b⟩ := entry
    by_cases hk : key = name
    · subst hk
      rw [List.filter_cons_of_neg (by simp), ih, List.lookup_cons]
      by_cases h : other = key
      · simp [h]
      · simp [h, beq_eq_false_iff_ne.mpr h]
    · rw [List.filter_cons_of_pos (by simpa using hk), List.lookup_cons, List.lookup_cons, ih]
      by_cases h : other = key
      · subst h
        simp [hk]
      · simp [beq_eq_false_iff_ne.mpr h]

theorem mem_entries_iff {m : NameMap α} {name : String} {a : α} :
    (name, a) ∈ m.entries ↔ m.get? name = some a := by
  obtain ⟨es, hs⟩ := m
  unfold get?
  simp only
  induction es with
  | nil => simp
  | cons entry rest ih =>
    obtain ⟨key, b⟩ := entry
    obtain ⟨hentry, hrest⟩ := List.pairwise_cons.mp hs
    rw [List.mem_cons, List.lookup_cons, ih hrest]
    by_cases h : name = key
    · subst h
      have hnone : rest.lookup name = none := by
        rw [List.lookup_eq_none_iff]
        intro p hp
        simpa using String.ne_of_lt (hentry p hp)
      simp [hnone, eq_comm]
    · simp [h, beq_eq_false_iff_ne.mpr h]

/-- The names of a map are those that have a value. -/
theorem mem_names_iff {m : NameMap α} {name : String} :
    name ∈ m.names ↔ ∃ a, m.get? name = some a := by
  simp only [names, List.mem_map]
  constructor
  · rintro ⟨entry, hentry, rfl⟩
    exact ⟨entry.2, mem_entries_iff.mp hentry⟩
  · rintro ⟨a, ha⟩
    exact ⟨(name, a), mem_entries_iff.mpr ha, rfl⟩

/-- No name is listed twice. -/
theorem nodup_names (m : NameMap α) : m.names.Nodup := by
  have hincreasing : m.names.Pairwise (· < ·) := List.pairwise_map.mpr m.sorted
  exact hincreasing.imp fun hlt => String.ne_of_lt hlt

/-- Two maps with equal views are equal. -/
theorem ext {m n : NameMap α} (h : ∀ name, m.get? name = n.get? name) : m = n := by
  have hmem (x : String × α) : x ∈ m.entries ↔ x ∈ n.entries := by
    obtain ⟨name, a⟩ := x
    rw [mem_entries_iff, mem_entries_iff, h]
  obtain ⟨es, hes⟩ := m
  obtain ⟨fs, hfs⟩ := n
  simp only at hmem
  congr 1
  clear h
  induction es generalizing fs with
  | nil =>
    cases fs with
    | nil => rfl
    | cons f fs => simpa using hmem f
  | cons e es ih =>
    cases fs with
    | nil => simpa using hmem e
    | cons f fs =>
      obtain ⟨he, hes'⟩ := List.pairwise_cons.mp hes
      obtain ⟨hf, hfs'⟩ := List.pairwise_cons.mp hfs
      have hef : e = f := by
        rcases List.mem_cons.mp ((hmem e).mp (List.mem_cons_self ..)) with heq | hin
        · exact heq
        rcases List.mem_cons.mp ((hmem f).mpr (List.mem_cons_self ..)) with heq | hin'
        · exact heq.symm
        · exact absurd (String.lt_trans (he f hin') (hf e hin)) (String.lt_irrefl _)
      subst hef
      congr 1
      refine ih hes' fs hfs' fun x => ?_
      have hx := hmem x
      rw [List.mem_cons, List.mem_cons] at hx
      constructor
      · intro hin
        rcases hx.mp (.inr hin) with rfl | hin'
        · exact absurd (he x hin) (String.lt_irrefl _)
        · exact hin'
      · intro hin
        rcases hx.mpr (.inr hin) with rfl | hin'
        · exact absurd (hf x hin) (String.lt_irrefl _)
        · exact hin'

/-- Values of different names can be given in either order. -/
theorem insert_comm (m : NameMap α) {name other : String} (h : name ≠ other) (a b : α) :
    (m.insert name a).insert other b = (m.insert other b).insert name a := by
  refine ext fun given => ?_
  simp only [get?_insert]
  by_cases hname : given = name
  · simp [hname, h]
  · simp [hname]

end NameMap

end BearerCache
