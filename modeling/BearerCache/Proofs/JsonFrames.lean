import BearerCache.Proofs.ExactRecords

/-! # The frame of a value

The value of a member stands in a frame: what is before it in the object, and what is behind it.  In
the same frame another value can stand, and the object has the same members but for that value.  A
reader that gets as far as the value, and no further, fails on the object as it does on the value.

## Main definitions

- `Lead`: members at the front of an object
- `IsFrame`: what stands before and behind the value of a member

## Key results

- `IsFrame.isObject`, `IsObject.exists_frame`: objects and the frames of their values
- `parse_record_of_frame`: the fault of a value is the fault of the object around it
-/

namespace BearerCache.Json

variable {v rest : List UInt8}

/-- The members at the front of an object, up to where the next one starts. -/
inductive Lead : (first : Bool) → List (String × List UInt8) → List UInt8 → (next : Bool) → Prop
    where
  | nil {first : Bool} : Lead first [] [] first
  | item {first next : Bool} {name : String} {comma key w v inner : List UInt8}
      {items : List (String × List UInt8)} (hcomma : IsComma first comma) (hkey : Names name key)
      (hw : IsBlank w) (hv : IsValue v) (h : Lead false items inner next) :
      Lead first ((name, v) :: items) (comma ++ (key ++ (w ++ (v ++ inner)))) next

/-- What stands before and behind the value of a member, in an object that has other members before
it and after it. -/
inductive IsFrame (before : List (String × List UInt8)) (name : String)
    (after : List (String × List UInt8)) : List UInt8 → List UInt8 → Prop where
  | mk {next : Bool} {w lead comma key w' inner w'' : List UInt8} (hw : IsBlank w)
      (hlead : Lead true before lead next) (hcomma : IsComma next comma) (hkey : Names name key)
      (hw' : IsBlank w') (hafter : Items Names false after inner) (hw'' : IsBlank w'') :
      IsFrame before name after (w ++ 0x7B :: (lead ++ (comma ++ (key ++ w'))))
        (inner ++ 0x7D :: w'')

variable {first next : Bool} {before after items : List (String × List UInt8)} {name : String}
variable {front back lead inner : List UInt8}

/-- More members can follow. -/
theorem Lead.append_items (h : Lead first before lead next) (hmore : Items Names next items inner) :
    Items Names first (before ++ items) (lead ++ inner) := by
  induction h with
  | nil => exact hmore
  | item hcomma hkey hw hv _ ih =>
    simp only [List.append_assoc, List.cons_append]
    exact .item hcomma hkey hw hv (ih hmore)

theorem Lead.isValue (h : Lead first before lead next) : ∀ item ∈ before, IsValue item.2 := by
  induction h with
  | nil => simp
  | item _ _ _ hv _ ih => exact List.forall_mem_cons.mpr ⟨hv, ih⟩

/-- A value of a member is stopped by what stands behind it. -/
theorem Lead.stops (h : Lead false before lead next) (hrest : next = false → Stops rest) :
    Stops (lead ++ rest) := by
  cases h with
  | nil => exact hrest rfl
  | item hcomma =>
    rw [List.append_assoc]
    exact hcomma.stops _

/-- With any value in a frame, the whole is an object with the value for the member. -/
theorem IsFrame.isObject (h : IsFrame before name after front back) (hv : IsValue v) :
    IsObject (before ++ (name, v) :: after) (front ++ (v ++ back)) := by
  obtain ⟨hw, hlead, hcomma, hkey, hw', hafter, hw''⟩ := h
  have hitems := hlead.append_items (.item hcomma hkey hw' hv hafter)
  have hobject : IsObject (before ++ (name, v) :: after) _ := .mk hw hitems hw''
  simpa [Bracket.opening, Bracket.closing] using hobject

theorem IsFrame.isValue (h : IsFrame before name after front back) :
    ∀ item ∈ before, IsValue item.2 := by
  obtain ⟨-, hlead, -⟩ := h
  exact hlead.isValue

theorem IsFrame.stops (h : IsFrame before name after front back) : Stops back := by
  obtain ⟨-, -, -, -, -, hafter, -⟩ := h
  exact hafter.stops .object _

/-- Behind some items, a member starts with what is before its value. -/
theorem exists_lead (h : Items Names first (before ++ (name, v) :: after) inner) :
    ∃ next lead comma key w rest, inner = lead ++ (comma ++ (key ++ (w ++ (v ++ rest)))) ∧
      Lead first before lead next ∧ IsComma next comma ∧ Names name key ∧ IsBlank w ∧
      Items Names false after rest := by
  -- On the members before the one of that name.
  induction before generalizing first inner with
  | nil =>
    cases h with | item hcomma hkey hw hv h =>
    exact ⟨first, [], _, _, _, _, rfl, .nil, hcomma, hkey, hw, h⟩
  | cons item before ih =>
    cases h with | item hcomma hkey hw hv h =>
    obtain ⟨next, lead, comma', key', w', rest, rfl, hlead, hmore⟩ := ih h
    exact ⟨next, _, comma', key', w', rest, by simp, .item hcomma hkey hw hv hlead, hmore⟩

/-- Each value of an object stands in a frame. -/
theorem IsObject.exists_frame {text : List UInt8}
    (h : IsObject (before ++ (name, v) :: after) text) :
    ∃ front back, text = front ++ (v ++ back) ∧ IsFrame before name after front back := by
  obtain ⟨hw, hitems, hw''⟩ := h
  obtain ⟨next, lead, comma, key, w', rest, rfl, hlead, hcomma, hkey, hw', hafter⟩ :=
    exists_lead hitems
  exact ⟨_, _, by simp [Bracket.opening, Bracket.closing],
    .mk hw hlead hcomma hkey hw' hafter hw''⟩

section Faults

variable {σ α : Type} {visit : Visit σ} {known : List (Member σ)} {blank state last : σ}
variable {kind : String} {conclude : σ → Except String α} {reader : Reader σ}

/-- The members at the front are visited before what follows them. -/
theorem Lead.members (h : Lead first before lead next) (hvisited : Visited visit state before last)
    (hrest : next = false → Stops rest) :
    members visit first state (lead ++ rest) = members visit next last rest := by
  -- On the members of the front, each of which has been visited.
  induction h generalizing state with
  | nil =>
    cases hvisited
    rfl
  | @item _ _ _ _ _ w v inner _ hcomma hkey hw hv h ih =>
    cases hvisited with | cons hvisit htakes hvisited =>
    have hstops : Stops (inner ++ rest) := h.stops hrest
    simp only [List.append_assoc]
    rw [members_key hcomma hkey hvisit, htakes w _ hw hstops]
    exact ih hvisited hrest

/-- The fault of the value of a member is that of the record. -/
theorem parse_record_of_frame (hframe : IsFrame before name after front back)
    (hvisited : Visited (recordVisit known) blank before state)
    (hvisit : recordVisit known name state = .ok reader) {cause : Cause} {behind : List UInt8}
    (hfault : ∀ w, IsBlank w → reader.run (w ++ (v ++ back)) = .error (.here cause behind)) :
    (Reader.record kind known blank conclude).parse (front ++ (v ++ back)) =
      .error ((Fault.here cause behind).inside (.member name)) := by
  cases hframe with | @mk next w lead comma key w' inner w'' hw hlead hcomma hkey hw' hafter hw'' =>
  -- The front is read, then the name, and the value is refused wherever it stands.
  have hrest : next = false → Stops (comma ++ (key ++ (w' ++ (v ++ (inner ++ 0x7D :: w''))))) := by
    rintro rfl
    exact hcomma.stops _
  have hmembers := hlead.members hvisited hrest
  rw [members_key hcomma hkey hvisit, hfault w' hw'] at hmembers
  have hblanks := hw.blanks_opening .object
    (lead ++ (comma ++ (key ++ (w' ++ (v ++ (inner ++ 0x7D :: w''))))))
  rw [Bracket.opening] at hblanks
  have hrun : (Reader.record kind known blank conclude).run
      (w ++ 0x7B :: (lead ++ (comma ++ (key ++ (w' ++ (v ++ (inner ++ 0x7D :: w''))))))) =
      .error ((Fault.here cause behind).inside (.member name)) := by
    simp only [Reader.record, Reader.ofByte, hblanks, if_true, hmembers, enclosed]
    -- The fault has its place already.
    rfl
  simp only [List.append_assoc, List.cons_append]
  rw [Reader.parse, hrun]

end Faults

end BearerCache.Json
