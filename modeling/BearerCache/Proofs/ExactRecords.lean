import BearerCache.Proofs.ExactReaders

/-! # Records that are read from whole texts

A record is read from an object by the visit of its members, one after the other, and from a list
by the readers of its members in their order.  If the readers are exact, that is all: a text is
read as a record if and only if it is an object whose members can be visited, or a list of values
for all members.  A reader that stops behind the record takes any text with one at its front.

## Key results

- `members_of_items`, `items_of_members`: what is read of an object
- `elements_of_items`, `items_of_elements`: what is read of a list
- `parse_record_eq_ok_iff`: the texts that are a record
- `parseFront_record_eq_ok_iff`: the texts that have one at their front
-/

namespace BearerCache.Json

variable {σ : Type} {bs rest inner comma key w v : List UInt8} {first : Bool} {name : String}

/-! ## Names, colons and ends -/

/-- The closing brace ends the members. -/
theorem nextName_closing (hw : IsBlank w) (rest : List UInt8) :
    nextName first (w ++ 0x7D :: rest) = .ok (false, 0x7D :: rest) := by
  simp only [nextName, hw.blanks_append, blanks_cons (b := 0x7D) (by decide), if_true]

/-- The quote of a name is taken, and the comma before it. -/
theorem nextName_quote (hcomma : IsComma first comma) (hw : IsBlank w) (rest : List UInt8) :
    nextName first (comma ++ (w ++ 0x22 :: rest)) = .ok (true, rest) := by
  have hquote : blanks (w ++ 0x22 :: rest) = 0x22 :: rest := hw.blanks_eq_cons (by decide) rest
  -- Before the first member there is no comma; before any other there is one.
  cases hcomma with
  | none =>
    simp only [List.nil_append, nextName, hquote, if_true]
    rfl
  | comma hw' =>
    rw [List.append_assoc, List.singleton_append]
    simp only [nextName, hw'.blanks_append, blanks_cons (b := 0x2C) (by decide), hquote]
    rfl

theorem colon_append (hw : IsBlank w) (rest : List UInt8) :
    colon (w ++ 0x3A :: rest) = .ok rest := by
  simp only [colon, hw.blanks_append, blanks_cons (b := 0x3A) (by decide), if_true]

/-- The members end at a closing brace. -/
theorem exists_of_nextName_false (h : nextName first bs = .ok (false, rest)) :
    ∃ w tail, IsBlank w ∧ rest = 0x7D :: tail ∧ bs = w ++ rest := by
  obtain ⟨w, hw, hbs⟩ := exists_isBlank bs
  -- The closing brace is the only byte at which the reader says that no name follows.
  unfold nextName at h
  split at h
  next => cases h
  next b tail hblanks =>
    split at h
    next hb =>
      cases h
      exact ⟨w, tail, hw, congrArg (· :: tail) hb, hblanks ▸ hbs⟩
    repeat' split at h
    all_goals cases h

/-- Where there is a further name there is its quote, and a comma before it. -/
theorem exists_of_nextName_true (h : nextName first bs = .ok (true, rest)) :
    ∃ comma w, IsComma first comma ∧ IsBlank w ∧ bs = comma ++ (w ++ 0x22 :: rest) := by
  obtain ⟨w, hw, hbs⟩ := exists_isBlank bs
  unfold nextName at h
  split at h
  next => cases h
  -- The first name stands without a comma, each later one behind one.
  next b tail hblanks =>
    rw [hblanks] at hbs
    split at h
    next => cases h
    next =>
      split at h
      next hfirst =>
        subst hfirst
        split at h
        next hb =>
          cases h
          exact ⟨[], w, .none, hw, hb ▸ hbs⟩
        next => cases h
      next hfirst =>
        obtain rfl := Bool.eq_false_iff.mpr hfirst
        split at h
        next hb =>
          obtain ⟨w', hw', htail⟩ := exists_isBlank tail
          split at h
          next => cases h
          next c more hmore =>
            split at h
            next hc =>
              cases h
              refine ⟨w ++ [0x2C], w', .comma hw, hw', ?_⟩
              rw [hbs, hb, htail, hmore, hc]
              simp
            next => split at h <;> cases h
        next => cases h

theorem exists_of_colon (h : colon bs = .ok rest) : ∃ w, IsBlank w ∧ bs = w ++ 0x3A :: rest := by
  obtain ⟨w, hw, hbs⟩ := exists_isBlank bs
  unfold colon at h
  split at h
  next => cases h
  next b tail hblanks =>
    split at h
    next hb =>
      cases h
      exact ⟨w, hw, hb ▸ hblanks ▸ hbs⟩
    next => cases h

/-! ## Members -/

/-- The members of an object are visited one after the other, and each value is taken by the
reader that the visit has for it. -/
inductive Visited (visit : Visit σ) : σ → List (String × List UInt8) → σ → Prop where
  | nil {state : σ} : Visited visit state [] state
  | cons {state next last : σ} {name : String} {v : List UInt8} {reader : Reader σ}
      {members : List (String × List UInt8)} (hvisit : visit name state = .ok reader)
      (htakes : reader.Takes v next) (hrest : Visited visit next members last) :
      Visited visit state ((name, v) :: members) last

variable {visit : Visit σ} {state next last : σ} {items more : List (String × List UInt8)}

/-- Behind a value in a bracket its rest stops the value. -/
theorem Items.stops {κ : Type} {Keys : κ → List UInt8 → Prop} {items : List (κ × List UInt8)}
    (h : Items Keys false items inner) (bracket : Bracket) (rest : List UInt8) :
    Stops (inner ++ bracket.closing :: rest) := by
  cases h with
  | finish hw => exact .of_isBlank hw (.closing bracket rest)
  | item hcomma =>
    rw [List.append_assoc]
    exact hcomma.stops _

/-- The values in a bracket are values. -/
theorem Items.isValue {κ : Type} {Keys : κ → List UInt8 → Prop} {items : List (κ × List UInt8)}
    (h : Items Keys first items inner) : ∀ item ∈ items, IsValue item.2 := by
  induction h with
  | finish => simp
  | item _ _ _ hv _ ih => exact List.forall_mem_cons.mpr ⟨hv, ih⟩

/-- A member is visited by its name. -/
theorem members_key {reader : Reader σ} (hcomma : IsComma first comma) (hkey : Names name key)
    (hvisit : visit name state = .ok reader) (value : List UInt8) :
    members visit first state (comma ++ (key ++ value)) =
      match reader.run value with
      | .error fault => .error (fault.inside (.member name))
      | .ok (next, more) => members visit false next more := by
  obtain ⟨hw, hbody, hw'⟩ := hkey
  have hname := nextName_quote hcomma hw
  simp only [List.append_assoc, List.cons_append, List.nil_append]
  exact members_member (hname _) (stringText_of_spells hbody _) hvisit (colon_append hw' value)

/-- All members of an object are visited, up to the brace. -/
theorem members_of_items (hvisited : Visited visit state items last)
    (h : Items Names first items inner) (rest : List UInt8) :
    members visit first state (inner ++ 0x7D :: rest) = .ok (last, 0x7D :: rest) := by
  -- The induction is on the members that were visited, each of which takes one item of the text.
  induction hvisited generalizing first inner with
  | nil =>
    cases h with | finish hw =>
    exact members_end (nextName_closing hw rest)
  | cons hvisit htakes _ ih =>
    cases h with | @item _ _ _ _ w v inner _ hcomma hkey hw hv h =>
    have hstops : Stops (inner ++ 0x7D :: rest) := h.stops .object rest
    simp only [List.append_assoc]
    rw [members_key hcomma hkey hvisit, htakes w _ hw hstops]
    exact ih h

/-- The members are refused when the value of one of them is. -/
theorem members_of_rejects {reader : Reader σ} (hvisited : Visited visit state items next)
    (hvisit : visit name next = .ok reader) (hrejects : reader.Rejects v)
    (h : Items Names first (items ++ (name, v) :: more) inner) (rest : List UInt8) :
    ∃ fault, members visit first state (inner ++ 0x7D :: rest) = .error fault := by
  induction hvisited generalizing first inner with
  -- What stands before the refused member is read, as above; the run ends with its fault.
  | nil =>
    cases h with | @item _ _ _ _ w _ inner _ hcomma hkey hw hv h =>
    have hstops : Stops (inner ++ 0x7D :: rest) := h.stops .object rest
    obtain ⟨fault, hrun⟩ := hrejects w _ hw hstops
    simp only [List.append_assoc]
    rw [members_key hcomma hkey hvisit, hrun]
    exact ⟨_, rfl⟩
  | cons hvisit' htakes _ ih =>
    cases h with | @item _ _ _ _ w v inner _ hcomma hkey hw hv h =>
    have hstops : Stops (inner ++ 0x7D :: rest) := h.stops .object rest
    simp only [List.append_assoc]
    rw [members_key hcomma hkey hvisit', htakes w _ hw hstops]
    exact ih hvisit h

/-- What is read of an object are its members, if the readers are exact. -/
theorem items_of_members
    (hexact : ∀ name state reader, visit name state = .ok reader → reader.IsExact)
    (h : members visit first state bs = .ok (last, rest)) :
    ∃ items inner tail, Items Names first items inner ∧ Visited visit state items last ∧
      rest = 0x7D :: tail ∧ bs = inner ++ rest := by
  -- Along the recursion of `members`: all its cases but the closing brace and one more member are
  -- failures.
  fun_induction members visit first state bs with
  | case1 | case3 | case4 | case5 | case6 => cases h
  | case2 first state bs rest' hname =>
    cases h
    obtain ⟨w, tail, hw, htail, hbs⟩ := exists_of_nextName_false hname
    exact ⟨[], w, tail, .finish hw, .nil, htail, hbs⟩
  | case7 first state bs quoted hname name afterName htext reader hvisit value hcolon next more
      hrun ih =>
    obtain ⟨comma, w, hcomma, hw, rfl⟩ := exists_of_nextName_true hname
    obtain ⟨body, rfl, hbody⟩ := exists_of_stringText htext
    obtain ⟨w', hw', rfl⟩ := exists_of_colon hcolon
    -- The reader of the member is exact, so what it read stands in the text as a value.
    obtain ⟨w'', v, rfl, hw'', hv, htakes⟩ := hexact name state reader hvisit value next more hrun
    obtain ⟨items, inner, tail, hitems, hvisited, htail, rfl⟩ := ih h
    refine ⟨(name, v) :: items, _, tail, .item hcomma (.mk hw hbody hw') hw'' hv hitems,
      .cons hvisit htakes hvisited, htail, ?_⟩
    simp

/-! ## Elements -/

/-- The elements of a list are taken by one reader each, in order, and each changes what was read
before. -/
inductive Listed : List (Reader (σ → σ)) → σ → List (List UInt8) → σ → Prop where
  | nil {state : σ} : Listed [] state [] state
  | cons {item : Reader (σ → σ)} {items : List (Reader (σ → σ))} {state last : σ} {change : σ → σ}
      {v : List UInt8} {elements : List (List UInt8)} (htakes : item.Takes v change)
      (hrest : Listed items (change state) elements last) :
      Listed (item :: items) state (v :: elements) last

/-- The next element is behind a comma, and behind none if it is the first. -/
theorem nextElement_value (hcomma : IsComma first comma) (hw : IsBlank w) (hv : IsValue v)
    (rest : List UInt8) :
    nextElement first (comma ++ (w ++ (v ++ rest))) = .ok (true, v ++ rest) := by
  have hvalue := hv.blanks hw rest
  obtain ⟨b, tail, rfl, hb⟩ := hv.exists_cons
  rw [List.cons_append] at hvalue ⊢
  -- Before the first element there is no comma, before any other one there is.
  cases hcomma with
  | none =>
    simp only [List.nil_append, nextElement, hvalue, if_true]
    exact if_neg (hb.ne_closing .list)
  | comma hw' =>
    rw [List.append_assoc, List.singleton_append]
    simp only [nextElement, hw'.blanks_append, blanks_cons (b := 0x2C) (by decide), hvalue]
    exact if_neg (hb.ne_closing .list)

/-- Where there is a further element there is a comma before it, unless it is the first. -/
theorem exists_of_nextElement_true (h : nextElement first bs = .ok (true, rest)) :
    ∃ comma w, IsComma first comma ∧ IsBlank w ∧ bs = comma ++ (w ++ rest) := by
  obtain ⟨w, hw, hbs⟩ := exists_isBlank bs
  unfold nextElement at h
  split at h
  next => cases h
  -- As for names, except that any byte other than the closing bracket starts an element.
  next b tail hblanks =>
    rw [hblanks] at hbs
    split at h
    next => cases h
    next =>
      split at h
      next hfirst =>
        subst hfirst
        cases h
        exact ⟨[], w, .none, hw, hbs⟩
      next hfirst =>
        obtain rfl := Bool.eq_false_iff.mpr hfirst
        split at h
        next hb =>
          obtain ⟨w', hw', htail⟩ := exists_isBlank tail
          split at h
          next => cases h
          next c more hmore =>
            split at h
            next => cases h
            next =>
              cases h
              refine ⟨w ++ [0x2C], w', .comma hw, hw', ?_⟩
              rw [hbs, hb, htail, hmore]
              simp
        next => cases h

variable {readers : List (Reader (σ → σ))} {values : List (List UInt8)}

/-- All elements of a list are read, up to white space before the bracket. -/
theorem elements_of_items (short : Nat → String) (index : Nat)
    (hlisted : Listed readers state values last)
    (h : Items IsUnnamed (index == 0) (values.map ((), ·)) inner) (rest : List UInt8) :
    ∃ w, IsBlank w ∧ elements short readers index state (inner ++ 0x5D :: rest) =
      .ok (last, w ++ 0x5D :: rest) := by
  -- Each reader takes the next item; how the last one ended says where the blanks before the
  -- bracket begin.
  induction hlisted generalizing index inner with
  | nil =>
    cases h with | finish hw =>
    exact ⟨_, hw, rfl⟩
  | cons htakes _ ih =>
    cases h with | @item _ _ comma key w v inner _ hcomma hkey hw hv h =>
    cases hkey
    have hstops : Stops (inner ++ 0x5D :: rest) := h.stops .list rest
    have hread := htakes [] _ .nil hstops
    rw [List.nil_append] at hread
    obtain ⟨w', hw', hrest⟩ := ih (index + 1) h
    refine ⟨w', hw', ?_⟩
    simp only [List.append_assoc, List.nil_append, elements, nextElement_value hcomma hw hv, hread]
    exact hrest

/-- The byte that closes a bracket is taken. -/
theorem close_append (hw : IsBlank w) (bracket : Bracket) (rest : List UInt8) :
    close bracket (w ++ bracket.closing :: rest) = .ok rest := by
  simp only [close, hw.blanks_append, blanks_cons bracket.closing_spec.1, if_true]

theorem exists_of_close {bracket : Bracket} (h : close bracket bs = .ok rest) :
    ∃ w, IsBlank w ∧ bs = w ++ bracket.closing :: rest := by
  obtain ⟨w, hw, hbs⟩ := exists_isBlank bs
  unfold close at h
  split at h
  next => cases h
  next b tail hblanks =>
    split at h
    next hb =>
      cases h
      exact ⟨w, hw, hb ▸ hblanks ▸ hbs⟩
    repeat' split at h
    all_goals cases h

/-- What is read of a list are its elements, if the readers are exact and the bracket is closed
behind them. -/
theorem items_of_elements {short : Nat → String} {index : Nat} {behind : List UInt8}
    (hexact : ∀ reader ∈ readers, reader.IsExact)
    (h : elements short readers index state bs = .ok (last, behind))
    (hclose : close .list behind = .ok rest) :
    ∃ values inner, Items IsUnnamed (index == 0) (values.map ((), ·)) inner ∧
      Listed readers state values last ∧ bs = inner ++ 0x5D :: rest := by
  -- On the readers, as there is one element for each.
  induction readers generalizing index state bs with
  | nil =>
    cases h
    obtain ⟨w, hw, rfl⟩ := exists_of_close hclose
    exact ⟨[], w, .finish hw, .nil, rfl⟩
  | cons reader readers ih =>
    obtain ⟨hreader, hreaders⟩ := List.forall_mem_cons.mp hexact
    unfold elements at h
    split at h
    next => cases h
    next => cases h
    next tail hnext =>
      split at h
      next => cases h
      next change more hrun =>
        obtain ⟨comma, w, hcomma, hw, rfl⟩ := exists_of_nextElement_true hnext
        -- The blanks skipped before the element and those its reader skipped are one run of blanks.
        obtain ⟨w', v, rfl, hw', hv, htakes⟩ := hreader _ _ _ hrun
        obtain ⟨values, inner, hitems, hlisted, rfl⟩ := ih hreaders h
        have hitem : Items IsUnnamed (index == 0) ((v :: values).map ((), ·))
            (comma ++ ([] ++ (w ++ w' ++ (v ++ inner)))) :=
          .item hcomma rfl (hw.append hw') hv hitems
        exact ⟨v :: values, _, hitem, .cons htakes hlisted, by simp⟩

/-! ## Records -/

variable {α : Type} {conclude : σ → Except String α} {a : α}

/-- What is read in a bracket is concluded where the bracket closes. -/
theorem enclosed_eq_ok_iff {bracket : Bracket} {content : Scan σ} :
    enclosed bracket content conclude = .ok (a, rest) ↔
      ∃ state behind, content = .ok (state, behind) ∧ conclude state = .ok a ∧
        close bracket behind = .ok rest := by
  -- The content comes first, then the conclusion, then the closing bracket.
  constructor
  · intro h
    unfold enclosed at h
    split at h
    next => cases h
    next state behind =>
      split at h
      next => cases h
      next a' hconclude =>
        cases hclose : close bracket behind with
        | error => rw [hclose] at h; cases h
        | ok more =>
          rw [hclose] at h
          cases h
          exact ⟨state, behind, rfl, hconclude, hclose⟩
  · rintro ⟨state, behind, rfl, hconclude, hclose⟩
    simp only [enclosed, hconclude, hclose]
    rfl

variable {known : List (Member σ)} {kind : String} {blank : σ}

/-- The readers of the values of a record are exact if those of its members are. -/
theorem isExact_of_recordVisit (hexact : ∀ member ∈ known, member.put.IsExact) {reader : Reader σ}
    (h : recordVisit known name state = .ok reader) : reader.IsExact := by
  unfold recordVisit at h
  split at h
  -- An unknown member is skipped, and skipping is exact too.
  next =>
    cases h
    exact Reader.isExact_skip.map _
  next member hmember =>
    split at h
    next => cases h
    next =>
      cases h
      exact (hexact member (List.mem_of_find?_eq_some hmember)).map _

/-- A text that is a record: an object whose members can be visited, or a list of values for all
members. -/
inductive IsRecord (known : List (Member σ)) (blank : σ) (conclude : σ → Except String α)
    (text : List UInt8) (a : α) : Prop where
  | object {items : List (String × List UInt8)} {last : σ} (h : IsObject items text)
      (hvisited : Visited (recordVisit known) blank items last)
      (hconclude : conclude last = .ok a)
  | list {values : List (List UInt8)} {last : σ} (h : IsList values text)
      (hlisted : Listed (known.map (·.put)) blank values last)
      (hconclude : conclude last = .ok a)

/-- An object is read as a record when its members can be visited. -/
theorem run_record_object (hw : IsBlank w) (hitems : Items Names true items inner)
    (hvisited : Visited (recordVisit known) blank items last) (hconclude : conclude last = .ok a)
    (rest : List UInt8) :
    (Reader.record kind known blank conclude).run (w ++ 0x7B :: (inner ++ 0x7D :: rest)) =
      .ok (a, rest) := by
  have hblanks : blanks (w ++ 0x7B :: (inner ++ 0x7D :: rest)) = 0x7B :: (inner ++ 0x7D :: rest) :=
    hw.blanks_opening .object _
  have hmembers := members_of_items hvisited hitems rest
  simp only [Reader.record, Reader.ofByte, hblanks, if_true]
  exact enclosed_eq_ok_iff.mpr ⟨last, _, hmembers, hconclude, close_append .nil .object rest⟩

/-- A list is read as a record when it has a value for each member. -/
theorem run_record_list (hw : IsBlank w)
    (hitems : Items IsUnnamed true (values.map ((), ·)) inner)
    (hlisted : Listed (known.map (·.put)) blank values last) (hconclude : conclude last = .ok a)
    (rest : List UInt8) :
    (Reader.record kind known blank conclude).run (w ++ 0x5B :: (inner ++ 0x5D :: rest)) =
      .ok (a, rest) := by
  have hblanks : blanks (w ++ 0x5B :: (inner ++ 0x5D :: rest)) = 0x5B :: (inner ++ 0x5D :: rest) :=
    hw.blanks_opening .list _
  have hne : (0x5B : UInt8) ≠ 0x7B := by decide
  obtain ⟨w', hw', helements⟩ := elements_of_items
    (fun n => s!"invalid length {n}, expected {kind} with {elementCount known.length}") 0
    hlisted hitems rest
  simp only [Reader.record, Reader.ofByte, hblanks, if_neg hne, if_true]
  exact enclosed_eq_ok_iff.mpr ⟨last, _, helements, hconclude, close_append hw' .list rest⟩

/-- A record is read, whatever follows it, up to the white space behind it. -/
theorem IsRecord.run (kind : String) {text : List UInt8}
    (h : IsRecord known blank conclude text a) :
    ∃ w, IsBlank w ∧ ∀ rest,
      (Reader.record kind known blank conclude).run (text ++ rest) = .ok (a, w ++ rest) := by
  -- A record stands as an object of its members or as a list of their values.
  cases h with
  | object h hvisited hconclude =>
    cases h with | @mk w inner w' hw hitems hw' =>
    refine ⟨w', hw', fun rest => ?_⟩
    simpa [Bracket.opening, Bracket.closing] using
      run_record_object hw hitems hvisited hconclude (w' ++ rest)
  | list h hlisted hconclude =>
    cases h with | @mk w inner w' hw hitems hw' =>
    refine ⟨w', hw', fun rest => ?_⟩
    simpa [Bracket.opening, Bracket.closing] using
      run_record_list hw hitems hlisted hconclude (w' ++ rest)

/-- What is read as a record is one. -/
theorem exists_of_run_record (hexact : ∀ member ∈ known, member.put.IsExact)
    (h : (Reader.record kind known blank conclude).run bs = .ok (a, rest)) :
    ∃ text, bs = text ++ rest ∧ IsRecord known blank conclude text a := by
  obtain ⟨w, hw, hbs⟩ := exists_isBlank bs
  simp only [Reader.record, Reader.ofByte] at h
  split at h
  next b tail hblanks =>
    rw [hblanks] at hbs
    split at h
    -- It is an object.
    next hb =>
      obtain ⟨last, behind, hmembers, hconclude, hclose⟩ := enclosed_eq_ok_iff.mp h
      obtain ⟨items, inner, more, hitems, hvisited, rfl, rfl⟩ :=
        items_of_members (fun _ _ _ => isExact_of_recordVisit hexact) hmembers
      obtain rfl : more = rest := by
        cases (close_append .nil .object more).symm.trans hclose
        rfl
      refine ⟨_, ?_, .object (.mk hw hitems .nil) hvisited hconclude⟩
      rw [hbs, hb]
      simp [Bracket.opening, Bracket.closing]
    split at h
    -- It is a list, with the readers of the known members in their order.
    next hb =>
      obtain ⟨last, behind, helements, hconclude, hclose⟩ := enclosed_eq_ok_iff.mp h
      have hreaders : ∀ reader ∈ known.map (·.put), reader.IsExact := by
        intro reader hreader
        obtain ⟨member, hmember, rfl⟩ := List.mem_map.mp hreader
        exact hexact member hmember
      obtain ⟨values, inner, hitems, hlisted, rfl⟩ :=
        items_of_elements hreaders helements hclose
      refine ⟨_, ?_, .list (.mk hw hitems .nil) hlisted hconclude⟩
      rw [hbs, hb]
      simp [Bracket.opening, Bracket.closing]
    next => cases h
  next => cases h

/-! ## Whole texts -/

/-- The values of an object are values. -/
theorem IsObject.isValue {text : List UInt8} (h : IsObject items text) :
    ∀ item ∈ items, IsValue item.2 := by
  obtain ⟨-, hitems, -⟩ := h
  exact hitems.isValue

theorem IsList.isValue {text : List UInt8} (h : IsList values text) : ∀ v ∈ values, IsValue v := by
  obtain ⟨-, hitems, -⟩ := h
  intro v hv
  exact hitems.isValue ((), v) (List.mem_map_of_mem hv)

/-- White space behind a record makes no difference. -/
theorem IsRecord.append_blank {text : List UInt8} (h : IsRecord known blank conclude text a)
    (hw : IsBlank w) : IsRecord known blank conclude (text ++ w) a := by
  cases h with
  | object h hvisited hconclude => exact .object (h.append_blank hw) hvisited hconclude
  | list h hlisted hconclude => exact .list (h.append_blank hw) hlisted hconclude

/-- A text is read as a record if and only if it is one. -/
theorem parse_record_eq_ok_iff (hexact : ∀ member ∈ known, member.put.IsExact)
    {text : List UInt8} :
    (Reader.record kind known blank conclude).parse text = .ok a ↔
      IsRecord known blank conclude text a := by
  rw [Reader.parse_eq_ok_iff]
  -- A whole text is a record with blanks behind it.
  constructor
  · rintro ⟨w, hrun, hw⟩
    obtain ⟨front, rfl, hrecord⟩ := exists_of_run_record hexact hrun
    exact hrecord.append_blank hw
  · intro h
    obtain ⟨w, hw, hrun⟩ := h.run kind
    exact ⟨w, by simpa using hrun [], hw⟩

/-- A record is read from the front of a text if and only if there is one, whatever follows it. -/
theorem parseFront_record_eq_ok_iff (hexact : ∀ member ∈ known, member.put.IsExact)
    {text : List UInt8} :
    (Reader.record kind known blank conclude).parseFront text = .ok a ↔
      ∃ front rest, text = front ++ rest ∧ IsRecord known blank conclude front a := by
  rw [Reader.parseFront_eq_ok_iff]
  -- Of a front only the record counts, so any text may follow.
  constructor
  · rintro ⟨rest, hrun⟩
    obtain ⟨front, rfl, hrecord⟩ := exists_of_run_record hexact hrun
    exact ⟨front, rest, rfl, hrecord⟩
  · rintro ⟨front, rest, rfl, h⟩
    obtain ⟨w, -, hrun⟩ := h.run kind
    exact ⟨w ++ rest, hrun rest⟩

/-- An object is not read as a record if the value of a member is refused. -/
theorem parse_record_of_rejects {text : List UInt8} {reader : Reader σ}
    (h : IsObject (items ++ (name, v) :: more) text)
    (hvisited : Visited (recordVisit known) blank items next)
    (hvisit : recordVisit known name next = .ok reader) (hrejects : reader.Rejects v) :
    ∃ fault, (Reader.record kind known blank conclude).parse text = .error fault := by
  -- The members are visited up to the one whose value is refused.
  cases h with | @mk w inner w' hw hitems hw' =>
  have hblanks : blanks (w ++ 0x7B :: (inner ++ 0x7D :: w')) = 0x7B :: (inner ++ 0x7D :: w') :=
    hw.blanks_opening .object _
  obtain ⟨fault, hmembers⟩ := members_of_rejects hvisited hvisit hrejects hitems w'
  have hrun : (Reader.record kind known blank conclude).run (w ++ 0x7B :: (inner ++ 0x7D :: w')) =
      .error (fault.settled .object) := by
    simp only [Reader.record, Reader.ofByte, hblanks, if_true, hmembers, enclosed]
  exact ⟨_, by rw [Bracket.opening, Bracket.closing, Reader.parse, hrun]⟩

end BearerCache.Json
