import BearerCache.Json.Reader

/-! # Readers of objects and lists

Records, maps and alternatives.

A record is written as an object whose members come in any order, or as the list of its
members' values in the order of their declaration.  Members of other names are passed over;
a member that is there twice, or that is missing, is a fault of the record as a whole, placed
where the record ends.

All objects are read by one loop, `members`, which asks a `Visit` what to do with each name;
all lists by `elements`. -/

namespace BearerCache.Json

/-! ## Brackets -/

/-- Takes the byte that closes a bracket. -/
def close (bracket : Bracket) (bs : List UInt8) : Except Fault (List UInt8) :=
  match blanks bs with
  | [] => .error (.next bracket.unclosed [])
  | b :: rest =>
    if b = bracket.closing then .ok rest
    else if b = 0x2C then
      match bracket with
      | .object => .error (.next .trailingComma (b :: rest))
      | .list =>
        match blanks rest with
        | 0x5D :: more => .error (.next .trailingComma (0x5D :: more))
        | more => .error (.next .trailingCharacters more)
    else .error (.next .trailingCharacters (b :: rest))

theorem close_length {bracket : Bracket} {bs rest : List UInt8}
    (h : close bracket bs = .ok rest) : rest.length < bs.length := by
  have hblank := blanks_length bs
  unfold close at h
  split at h
  · cases h
  next b tail hb =>
    rw [hb] at hblank
    split at h
    · cases h; exact hblank
    · repeat' split at h
      all_goals cases h

/-- Places a fault of a value in brackets: a fault without a place is put where the closing
byte is, or should be. -/
def Fault.settled (fault : Fault) (bracket : Bracket) : Fault :=
  match fault.left with
  | some _ => fault
  | none =>
    match close bracket fault.rest with
    | .ok rest => fault.placed rest
    | .error unclosed => fault.placed unclosed.rest

/-- Looks for the next element of a list.  With `true` it is at the front of what follows;
with `false` the list ends there. -/
def nextElement (first : Bool) (bs : List UInt8) : Scan Bool :=
  match blanks bs with
  | [] => .error (.next .endInList [])
  | b :: rest =>
    if b = 0x5D then .ok (false, b :: rest)
    else if first then .ok (true, b :: rest)
    else if b = 0x2C then
      match blanks rest with
      | [] => .error (.next .endInValue [])
      | c :: more =>
        if c = 0x5D then .error (.next .trailingComma (c :: more)) else .ok (true, c :: more)
    else .error (.next .expectedCommaOrBracket (b :: rest))

/-- Takes the opening quote of the next name in an object.  With `false` there is none, and
the object ends at what follows. -/
def nextName (first : Bool) (bs : List UInt8) : Scan Bool :=
  match blanks bs with
  | [] => .error (.next .endInObject [])
  | b :: rest =>
    if b = 0x7D then .ok (false, b :: rest)
    else if first then
      if b = 0x22 then .ok (true, rest) else .error (.next .keyNotString (b :: rest))
    else if b = 0x2C then
      match blanks rest with
      | [] => .error (.next .endInValue [])
      | c :: more =>
        if c = 0x22 then .ok (true, more)
        else if c = 0x7D then .error (.next .trailingComma (c :: more))
        else .error (.next .keyNotString (c :: more))
    else .error (.next .expectedCommaOrBrace (b :: rest))

/-- Takes the colon after a name. -/
def colon (bs : List UInt8) : Except Fault (List UInt8) :=
  match blanks bs with
  | [] => .error (.next .endInObject [])
  | b :: rest => if b = 0x3A then .ok rest else .error (.next .expectedColon (b :: rest))

theorem nextElement_length {first more : Bool} {bs rest : List UInt8}
    (h : nextElement first bs = .ok (more, rest)) : rest.length ≤ bs.length := by
  have hblank := blanks_length bs
  unfold nextElement at h
  split at h
  · cases h
  next b tail hb =>
    rw [hb] at hblank
    repeat' split at h
    · cases h; exact hblank
    · cases h; exact hblank
    · cases h
    · cases h
    next c rest' hc _ =>
      have htail := blanks_length tail
      rw [hc] at htail
      cases h
      simp only [List.length_cons] at *
      omega
    · cases h

theorem nextName_length {first more : Bool} {bs rest : List UInt8}
    (h : nextName first bs = .ok (more, rest)) : rest.length ≤ bs.length := by
  have hblank := blanks_length bs
  unfold nextName at h
  split at h
  · cases h
  next b tail hb =>
    rw [hb] at hblank
    simp only [List.length_cons] at hblank
    repeat' split at h
    · cases h; exact hblank
    · cases h; omega
    · cases h
    · cases h
    next c rest' hc _ =>
      have htail := blanks_length tail
      rw [hc] at htail
      cases h
      simp only [List.length_cons] at htail
      omega
    all_goals cases h

theorem colon_length {bs rest : List UInt8} (h : colon bs = .ok rest) :
    rest.length < bs.length := by
  have hblank := blanks_length bs
  unfold colon at h
  split at h
  · cases h
  next b tail hb =>
    rw [hb] at hblank
    split at h
    · cases h; exact hblank
    · cases h

/-! ## Objects -/

/-- What is done with the value of a member, by its name and by what was read before: it is
read, or the object is refused. -/
abbrev Visit (σ : Type) := String → σ → Except String (Reader σ)

/-- Reads the members of an object, up to the brace that closes it. -/
def members {σ : Type} (visit : Visit σ) (first : Bool) (state : σ) (bs : List UInt8) :
    Scan σ :=
  match _hn : nextName first bs with
  | .error fault => .error (fault.inside .unnamed)
  | .ok (false, rest) => .ok (state, rest)
  | .ok (true, rest) =>
    match _ht : stringText rest with
    | .error fault => .error (fault.inside .unnamed)
    | .ok (name, afterName) =>
      match visit name state with
      | .error detail => .error (.whole detail afterName)
      | .ok reader =>
        match _hc : colon afterName with
        | .error fault => .error (fault.inside (.member name))
        | .ok value =>
          match _hr : reader.run value with
          | .error fault => .error (fault.inside (.member name))
          | .ok (state, more) => members visit false state more
termination_by bs.length
decreasing_by
  have := nextName_length _hn
  have := stringText_length _ht
  have := colon_length _hc
  have := reader.shrinks _hr
  omega

theorem members_length {σ : Type} {visit : Visit σ} {first : Bool} {state after : σ}
    {bs rest : List UInt8} (h : members visit first state bs = .ok (after, rest)) :
    rest.length ≤ bs.length := by
  fun_induction members visit first state bs with
  | case1 | case3 | case4 | case5 | case6 => cases h
  | case2 =>
    rename_i hn
    cases h
    exact nextName_length hn
  | case7 =>
    rename_i hn _ _ ht reader _ _ hc _ _ hr ih
    have := nextName_length hn
    have := stringText_length ht
    have := colon_length hc
    have := reader.shrinks hr
    have := ih h
    omega

/-- Reads what is in a bracket, then the closing byte, and concludes. -/
def enclosed {σ α : Type} (bracket : Bracket) (content : Scan σ) (conclude : σ → Except String α) :
    Scan α :=
  match content with
  | .error fault => .error (fault.settled bracket)
  | .ok (state, rest) =>
    match conclude state with
    | .error detail => .error ((Fault.whole detail rest).settled bracket)
    | .ok a => (close bracket rest).map (a, ·)

theorem enclosed_length {σ α : Type} {bracket : Bracket} {content : Scan σ}
    {conclude : σ → Except String α} {a : α} {rest : List UInt8}
    (h : enclosed bracket content conclude = .ok (a, rest)) :
    ∃ state inner, content = .ok (state, inner) ∧ rest.length < inner.length := by
  unfold enclosed at h
  split at h
  · cases h
  next state inner =>
    split at h
    · cases h
    · cases hc : close bracket inner with
      | error => rw [hc] at h; cases h
      | ok more =>
        rw [hc] at h
        cases h
        exact ⟨state, inner, rfl, close_length hc⟩

/-! ## Lists -/

/-- Reads as many elements of a list as there are readers, each a change of what was read
before.  `short` is said when the list has fewer. -/
def elements {σ : Type} (short : Nat → String) :
    (items : List (Reader (σ → σ))) → (index : Nat) → σ → List UInt8 → Scan σ
  | [], _, state, bs => .ok (state, bs)
  | item :: items, index, state, bs =>
    match nextElement (index == 0) bs with
    | .error fault => .error (fault.inside (.element index))
    | .ok (false, rest) => .error (.whole (short index) rest)
    | .ok (true, rest) =>
      match item.run rest with
      | .error fault => .error (fault.inside (.element index))
      | .ok (change, more) => elements short items (index + 1) (change state) more

theorem elements_length {σ : Type} {short : Nat → String} {items : List (Reader (σ → σ))}
    {index : Nat} {state after : σ} {bs rest : List UInt8}
    (h : elements short items index state bs = .ok (after, rest)) : rest.length ≤ bs.length := by
  induction items generalizing index state bs with
  | nil => cases h; exact Nat.le_refl _
  | cons item items ih =>
    unfold elements at h
    split at h
    · cases h
    · cases h
    next tail hn =>
      split at h
      · cases h
      next change more hi =>
        have := nextElement_length hn
        have := item.shrinks hi
        have := ih h
        omega

/-! ## Records -/

/-- A member of a record that is read into `σ`. -/
structure Member (σ : Type) where
  name : String
  /-- Whether the member was read before. -/
  isSet : σ → Bool
  /-- Reads the value of the member. -/
  put : Reader (σ → σ)

/-- A member kept as an optional part of `σ`. -/
def Member.of {σ α : Type} (name : String) (get : σ → Option α) (set : Option α → σ → σ)
    (r : Reader α) : Member σ where
  name := name
  isSet state := (get state).isSome
  put := r.map fun a => set (some a)

/-- The part of a record that must be there. -/
def required {α : Type} (name : String) : Option α → Except String α
  | some a => .ok a
  | none => .error s!"missing field `{name}`"

/-- The visit of a record: known members are put, others passed over. -/
def recordVisit {σ : Type} (known : List (Member σ)) : Visit σ := fun name state =>
  match known.find? (·.name = name) with
  | none => .ok (Reader.skip.map fun _ => state)
  | some m =>
    if m.isSet state then .error s!"duplicate field `{name}`"
    else .ok (m.put.map fun change => change state)

/-- How many elements a record has, in words. -/
def elementCount (n : Nat) : String :=
  if n = 1 then "1 element" else s!"{n} elements"

namespace Reader

/-- A record.  `kind` names it, `blank` is the state before any member is read. -/
def record {σ α : Type} (kind : String) (known : List (Member σ)) (blank : σ)
    (conclude : σ → Except String α) : Reader α :=
  ofByte
    (fun b rest =>
      if b = 0x7B then enclosed .object (members (recordVisit known) true blank rest) conclude
      else if b = 0x5B then
        enclosed .list
          (elements
            (fun n => s!"invalid length {n}, expected {kind} with {elementCount known.length}")
            (known.map (·.put)) 0 blank rest)
          conclude
      else .error (mismatch kind b rest))
    (by
      intro b bs rest a h
      split at h
      · obtain ⟨_, _, hm, hlt⟩ := enclosed_length h
        have := members_length hm
        omega
      split at h
      · obtain ⟨_, _, he, hlt⟩ := enclosed_length h
        have := elements_length he
        omega
      · cases h)

/-- A list of a fixed length, whose elements have names. -/
def tuple {σ α : Type} (kind : String) (items : List (String × Reader (σ → σ))) (blank : σ)
    (conclude : σ → Except String α) : Reader α :=
  ofByte
    (fun b rest =>
      if b = 0x5B then
        enclosed .list
          (elements (fun n => s!"expected {((items.map (·.1))[n]?).getD kind}")
            (items.map (·.2)) 0 blank rest)
          conclude
      else .error (mismatch kind b rest))
    (by
      intro b bs rest a h
      split at h
      · obtain ⟨_, _, he, hlt⟩ := enclosed_length h
        have := elements_length he
        omega
      · cases h)

/-- An object with any names and one kind of value, as its pairs in the order in which they
are written. -/
def entries {α : Type} (r : Reader α) : Reader (List (String × α)) :=
  ofByte
    (fun b rest =>
      if b = 0x7B then
        enclosed .object
          (members (fun name pairs => .ok (r.map fun a => pairs ++ [(name, a)])) true [] rest)
          .ok
      else .error (mismatch "a map" b rest))
    (by
      intro b bs rest a h
      split at h
      · obtain ⟨_, _, hm, hlt⟩ := enclosed_length h
        have := members_length hm
        omega
      · cases h)

end Reader

/-! ## Alternatives -/

/-- One of several alternatives that a value is told apart by name. -/
inductive Choice (α : Type) where
  /-- The name says all. -/
  | bare (a : α)
  /-- The name comes with a value. -/
  | holding (r : Reader α)

/-- A list of names in words. -/
def oneOf (names : List String) : String :=
  match names.map fun name => s!"`{name}`" with
  | [] => "there are no variants"
  | [a] => s!"expected {a}"
  | [a, b] => s!"expected {a} or {b}"
  | names => "expected one of " ++ ", ".intercalate names

/-- The alternative of a name. -/
def choiceOf {α : Type} (choices : List (String × Choice α)) (name : String) :
    Except String (Choice α) :=
  match choices.lookup name with
  | some choice => .ok choice
  | none => .error s!"unknown variant `{name}`, {oneOf (choices.map (·.1))}"

/-- The reader of what an alternative holds when its name is a member of an object. -/
def Choice.held {α : Type} : Choice α → Reader α
  | .bare a => (Reader.null "unit").map fun _ => a
  | .holding r => r

/-- Takes the brace that closes the object around an alternative. -/
def closeChoice (bs : List UInt8) : Except Fault (List UInt8) :=
  match blanks bs with
  | [] => .error (.here .endInObject [])
  | b :: rest => if b = 0x7D then .ok rest else .error (.here .expectedValue (b :: rest))

theorem closeChoice_length {bs rest : List UInt8} (h : closeChoice bs = .ok rest) :
    rest.length ≤ bs.length := by
  have hblank := blanks_length bs
  unfold closeChoice at h
  split at h
  · cases h
  next b tail hb =>
    rw [hb] at hblank
    simp only [List.length_cons] at hblank
    split at h
    · cases h; omega
    · cases h

/-- An alternative in an object, whose opening brace has been taken. -/
def heldChoice {α : Type} (choices : List (String × Choice α)) (bs : List UInt8) : Scan α :=
  match ((Reader.textAs "variant identifier").refine (choiceOf choices)).run bs with
  | .error fault => .error fault
  | .ok (choice, rest) =>
    match colon rest with
    | .error fault => .error fault
    | .ok value =>
      match choice.held.run value with
      | .error fault => .error fault
      | .ok (a, more) => (closeChoice more).map (a, ·)

theorem heldChoice_length {α : Type} {choices : List (String × Choice α)} {bs rest : List UInt8}
    {a : α} (h : heldChoice choices bs = .ok (a, rest)) : rest.length ≤ bs.length := by
  unfold heldChoice at h
  split at h
  · cases h
  next choice afterName hname =>
    split at h
    · cases h
    next value hcolon =>
      split at h
      · cases h
      next a' more hheld =>
        cases hclose : closeChoice more with
        | error => rw [hclose] at h; cases h
        | ok tail =>
          rw [hclose] at h
          cases h
          have := Reader.shrinks _ hname
          have := colon_length hcolon
          have := Reader.shrinks _ hheld
          have := closeChoice_length hclose
          omega

/-- The alternative that a text alone names. -/
def bareChoice {α : Type} (choices : List (String × Choice α)) (name : String) :
    Except String α :=
  match choiceOf choices name with
  | .error detail => .error detail
  | .ok (.bare a) => .ok a
  | .ok (.holding _) => .error (wrongKind .bareName "struct variant")

/-- An alternative: its name as a text, or an object with that name and what it holds. -/
def Reader.choice {α : Type} (choices : List (String × Choice α)) : Reader α :=
  ofByte
    (fun b rest =>
      if b = 0x22 then (Reader.text.refine (bareChoice choices)).run (b :: rest)
      else if b = 0x7B then heldChoice choices rest
      else .error (.next .expectedValue (b :: rest)))
    (by
      intro b bs rest a h
      split at h
      · exact Nat.le_of_lt_succ (Reader.shrinks _ h)
      split at h
      · exact heldChoice_length h
      · cases h)

end BearerCache.Json
