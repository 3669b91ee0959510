import BearerCache.Json.Record
import BearerCache.Proofs.JsonStrings
import Mathlib.Data.Nat.Digits.Defs

/-! # Values in JSON are read back

A value is written and then read, with something behind it: the comma, the bracket or the brace
that follows a value, or nothing.  `Reads` says that a reader takes the value off the front and
leaves the rest as it is.  It is shown once for each reader, from its parts: a number ends where no
digit follows, a text at its closing quote, and an object is read by the visit of its members, one
after the other (`Visits`).  `Refuses` says that a reader takes no value off the front.

## Key results

- `numeral_digitBytes`: the digits of a number are read as the number
- `Reads.text`, `Reads.whole`: texts and whole numbers
- `Visits.members`: the members of an object are visited in order
- `Reads.record`, `Reads.entries`: objects
- `Reads.parse`, `Refuses.parse_ne_ok`: a value is read back from its whole text, or refused
-/

namespace BearerCache.Json

/-! ## What is written and what follows it -/

/-- The bytes of some characters. -/
def encoded (cs : List Char) : List UInt8 :=
  cs.flatMap String.utf8EncodeChar

@[simp] theorem encoded_append (cs ds : List Char) : encoded (cs ++ ds) = encoded cs ++ encoded ds :=
  List.flatMap_append

theorem encoded_cons (c : Char) (cs : List Char) :
    encoded (c :: cs) = String.utf8EncodeChar c ++ encoded cs :=
  List.flatMap_cons

theorem bytes_write (v : Value) : Text.bytes v.write = encoded v.chars :=
  Text.bytes_ofList v.chars

/-- What can stand behind a value: nothing, or a comma, a brace or a bracket. -/
def Ends : List UInt8 → Prop
  | [] => True
  | b :: _ => b = 0x2C ∨ b = 0x7D ∨ b = 0x5D

/-- A reader takes a value off the front of the bytes, whatever follows it. -/
def Reads {α : Type} (r : Reader α) (v : Value) (a : α) : Prop :=
  ∀ rest, Ends rest → r.run (encoded v.chars ++ rest) = .ok (a, rest)

/-- A reader refuses a value at the front of the bytes, whatever follows it. -/
def Refuses {α : Type} (r : Reader α) (v : Value) : Prop :=
  ∀ rest, Ends rest → ∃ fault, r.run (encoded v.chars ++ rest) = .error fault

theorem blanks_cons {b : UInt8} {bs : List UInt8} (hb : isBlankByte b = false) :
    blanks (b :: bs) = b :: bs := by
  simp [blanks, hb]

section

variable {α β : Type} {r : Reader α} {v : Value} {a : α} {b : β}

/-- A value is read back from its whole text. -/
theorem Reads.parse (h : Reads r v a) : r.parse (Text.bytes v.write) = .ok a := by
  have hrun := h [] trivial
  rw [List.append_nil, ← bytes_write] at hrun
  simp [Reader.parse, hrun, blanks]

/-- What is read may be turned into something else. -/
theorem Reads.refine (h : Reads r v a) {f : α → Except String β} (hf : f a = .ok b) :
    Reads (r.refine f) v b := by
  intro rest hrest
  simp only [Reader.refine, h rest hrest, hf]

theorem Reads.map (h : Reads r v a) (f : α → β) : Reads (r.map f) v (f a) :=
  h.refine rfl

/-- What is refused has no reading. -/
theorem Refuses.parse_ne_ok (h : Refuses r v) (a : α) : r.parse (Text.bytes v.write) ≠ .ok a := by
  obtain ⟨fault, hrun⟩ := h [] trivial
  rw [List.append_nil, ← bytes_write] at hrun
  simp [Reader.parse, hrun]

/-- A value that has been read may be refused. -/
theorem Reads.refine_error (h : Reads r v a) {f : α → Except String β} {detail : String}
    (hf : f a = .error detail) : Refuses (r.refine f) v := by
  intro rest hrest
  simp only [Reader.refine, h rest hrest, hf]
  exact ⟨_, rfl⟩

/-- A value that is refused stays so. -/
theorem Refuses.map (h : Refuses r v) (f : α → β) : Refuses (r.map f) v := by
  intro rest hrest
  obtain ⟨fault, hrun⟩ := h rest hrest
  simp only [Reader.map, Reader.refine, hrun]
  exact ⟨_, rfl⟩

end

/-! ## Texts -/

theorem stringText_quote (s : String) (rest : List UInt8) :
    ∃ inner, encoded (quote s) ++ rest = 0x22 :: inner ∧ stringText inner = .ok (s, rest) := by
  obtain ⟨inner, hinner, hread⟩ := stringBytes_quote s rest
  refine ⟨inner, hinner, ?_⟩
  have htext : String.fromUTF8? ⟨(Text.bytes s).toArray⟩ = some s := Text.ofBytes?_bytes s
  simp only [stringText, hread, htext]

theorem Reads.textAs (expected s : String) : Reads (.textAs expected) (.text s) s := by
  intro rest _
  obtain ⟨inner, hinner, hread⟩ := stringText_quote s rest
  simp only [Value.chars, hinner, Reader.textAs, Reader.ofByte]
  rw [blanks_cons (by decide)]
  simpa using hread

theorem Reads.text (s : String) : Reads .text (.text s) s :=
  .textAs "a string" s

/-- A text that may be null is there. -/
theorem Reads.option_text (s : String) : Reads (.option .text) (.text s) (some s) := by
  intro rest hrest
  obtain ⟨inner, hinner, -⟩ := stringText_quote s rest
  have hread := (Reads.text s).map some rest hrest
  simp only [Value.chars, hinner] at hread ⊢
  simp only [Reader.option, blanks_cons (b := 0x22) (by decide)]
  exact hread

/-! ## Whole numbers -/

/-- The bytes of a decimal number. -/
def digitBytes (n : Nat) : List UInt8 :=
  encoded (Nat.toDigits 10 n)

/-- The byte of a digit. -/
theorem digit_byte : ∀ d : Fin 10,
    String.utf8EncodeChar (Nat.digitChar d.val) = [UInt8.ofNat (0x30 + d.val)] ∧
      isDigit (UInt8.ofNat (0x30 + d.val)) ∧ digitOf (UInt8.ofNat (0x30 + d.val)) = d.val ∧
      (UInt8.ofNat (0x30 + d.val) = 0x30 → d.val = 0) := by
  decide

theorem digitBytes_of_lt {n : Nat} (h : n < 10) : digitBytes n = [UInt8.ofNat (0x30 + n)] := by
  rw [digitBytes, Nat.toDigits_of_lt_base h, encoded_cons, (digit_byte ⟨n, h⟩).1]
  rfl

/-- The last digit stands behind those of a tenth of the number. -/
theorem digitBytes_of_le {n : Nat} (h : 10 ≤ n) :
    digitBytes n = digitBytes (n / 10) ++ [UInt8.ofNat (0x30 + n % 10)] := by
  rw [digitBytes, Nat.toDigits_of_base_le (by decide) h, encoded_append, encoded_cons,
    (digit_byte ⟨n % 10, Nat.mod_lt n (by decide)⟩).1]
  rfl

theorem isDigit_of_mem_digitBytes (n : Nat) : ∀ b ∈ digitBytes n, isDigit b := by
  induction n using Nat.strongRecOn with
  | ind n ih =>
    intro b hb
    by_cases hn : n < 10
    · rw [digitBytes_of_lt hn, List.mem_singleton] at hb
      rw [hb]
      exact (digit_byte ⟨n, hn⟩).2.1
    · rw [digitBytes_of_le (by omega), List.mem_append, List.mem_singleton] at hb
      rcases hb with hfront | rfl
      · exact ih (n / 10) (by omega) b hfront
      · exact (digit_byte ⟨n % 10, Nat.mod_lt n (by decide)⟩).2.1

/-- A number has a first digit, which is not zero unless the number is. -/
theorem exists_digitBytes (n : Nat) :
    ∃ b tail, digitBytes n = b :: tail ∧ (b = 0x30 → n = 0) := by
  -- On the number, whose first digit is that of its tenth.
  induction n using Nat.strongRecOn with
  | ind n ih =>
    by_cases hn : n < 10
    · exact ⟨_, [], digitBytes_of_lt hn, (digit_byte ⟨n, hn⟩).2.2.2⟩
    · obtain ⟨b, tail, htail, hzero⟩ := ih (n / 10) (by omega)
      refine ⟨b, tail ++ [UInt8.ofNat (0x30 + n % 10)], ?_, fun hb => ?_⟩
      · rw [digitBytes_of_le (by omega), htail, List.cons_append]
      · have htenth := hzero hb
        omega

/-- The digits of a number that is small enough give the number, and none is dropped. -/
theorem wholePart_digitBytes {n : Nat} (hn : n ≤ maxWhole) :
    wholePart (digitBytes n) = (n, 0) := by
  -- On the number; its last digit is read after those of a tenth of it, which are as few as are
  -- kept.
  induction n using Nat.strongRecOn with
  | ind n ih =>
    by_cases hlt : n < 10
    · have hdigit := (digit_byte ⟨n, hlt⟩).2.2.1
      simp only at hdigit
      rw [digitBytes_of_lt hlt, wholePart]
      simp only [List.foldl_cons, List.foldl_nil, hdigit]
      simp [hn]
    · have hdigit := (digit_byte ⟨n % 10, Nat.mod_lt n (by decide)⟩).2.2.1
      have hfront := ih (n / 10) (by omega) (by omega)
      have hsum : n / 10 * 10 + n % 10 = n := by omega
      rw [wholePart] at hfront ⊢
      rw [digitBytes_of_le (by omega), List.foldl_append, hfront]
      simp only [List.foldl_cons, List.foldl_nil, hdigit, hsum]
      simp [hn]

/-- Where a value ends there is no digit. -/
theorem Ends.digits_append {ds rest : List UInt8} (h : Ends rest) (hds : ∀ b ∈ ds, isDigit b) :
    digits (ds ++ rest) = (ds, rest) := by
  have hrest : rest.takeWhile isDigit = [] ∧ rest.dropWhile isDigit = rest := by
    cases rest with
    | nil => exact ⟨rfl, rfl⟩
    | cons b rest => rcases h with rfl | rfl | rfl <;> exact ⟨rfl, rfl⟩
  rw [digits, List.takeWhile_append_of_pos hds, List.dropWhile_append_of_pos hds, hrest.1, hrest.2,
    List.append_nil]

/-- Where a value ends there is neither a fraction nor an exponent. -/
theorem Ends.afterWhole {rest : List UInt8} (h : Ends rest) (isNegative : Bool) (n : Nat) :
    afterWhole isNegative n 0 rest =
      if !isNegative then .ok (.whole n, rest)
      else if n ≠ 0 ∧ n ≤ 9223372036854775808 then .ok (.negative n, rest)
      else realNumeral isNegative n 0 rest := by
  cases rest with
  | nil => rfl
  | cons b rest => rcases h with rfl | rfl | rfl <;> rfl

/-- The digits of a number are read as the number. -/
theorem unsigned_digitBytes {n : Nat} (hn : n ≤ maxWhole) {rest : List UInt8} (h : Ends rest)
    (isNegative : Bool) :
    unsigned isNegative (digitBytes n ++ rest) = afterWhole isNegative n 0 rest := by
  by_cases hzero : n = 0
  · subst hzero
    -- Nothing but the end of the value can follow a single zero.
    cases rest with
    | nil => rfl
    | cons b rest => rcases h with rfl | rfl | rfl <;> rfl
  -- A number that is not zero begins with another digit, and the digits behind it are read until
  -- the end.
  · obtain ⟨b, tail, htail, hfirst⟩ := exists_digitBytes n
    have hdigits := isDigit_of_mem_digitBytes n
    rw [htail] at hdigits
    obtain ⟨hb, hds⟩ := List.forall_mem_cons.mp hdigits
    have hwhole := wholePart_digitBytes hn
    rw [htail] at hwhole
    have hb' : b ≠ 0x30 := fun heq => hzero (hfirst heq)
    simp only [htail, List.cons_append, unsigned, if_neg hb', if_pos hb, h.digits_append hds,
      hwhole]

theorem numeral_of_isDigit {b : UInt8} {tail : List UInt8} (hb : isDigit b) :
    numeral (b :: tail) = unsigned false (b :: tail) := by
  unfold numeral
  split
  next heq =>
    cases heq
    cases hb
  next => rfl

/-- An integer that fits in 64 bits is read back. -/
theorem numeral_integer {n : Int} (hmin : -9223372036854775808 ≤ n) (hmax : n ≤ maxWhole)
    {rest : List UInt8} (h : Ends rest) :
    ∃ b tail m, encoded (Value.integer n).chars ++ rest = b :: tail ∧
      (b = 0x2D ∨ isDigit b) ∧ numeral (b :: tail) = .ok (m, rest) ∧ m.toInt? = some n := by
  -- A sign is written exactly for the numbers below zero.
  cases n with
  | ofNat n =>
    obtain ⟨b, tail, htail, -⟩ := exists_digitBytes n
    have hb : isDigit b := isDigit_of_mem_digitBytes n b (by simp [htail])
    have hread := unsigned_digitBytes (Int.ofNat_le.mp hmax) h false
    rw [htail, List.cons_append, ← numeral_of_isDigit hb, h.afterWhole] at hread
    refine ⟨b, tail ++ rest, .whole n, ?_, .inr hb, hread, rfl⟩
    rw [← List.cons_append, ← htail]
    rfl
  | negSucc n =>
    have hn : n + 1 ≤ 9223372036854775808 := by omega
    have hread := unsigned_digitBytes (Nat.le_trans hn (by decide)) h true
    rw [h.afterWhole] at hread
    refine ⟨0x2D, digitBytes (n + 1) ++ rest, .negative (n + 1), rfl, .inl rfl, ?_, rfl⟩
    simpa [numeral, hn] using hread

theorem isBlankByte_of_isDigit {b : UInt8} (hb : isDigit b) : isBlankByte b = false := by
  cases hblank : isBlankByte b with
  | false => rfl
  | true =>
    simp only [isBlankByte, Bool.or_eq_true, beq_iff_eq] at hblank
    rcases hblank with ((rfl | rfl) | rfl) | rfl <;> cases hb

/-- A whole number is read back if it is in the range of the reader, and that of 64 bits. -/
theorem Reads.whole {kind : String} {least greatest n : Int} (hleast : least ≤ n)
    (hgreatest : n ≤ greatest) (hmin : -9223372036854775808 ≤ n) (hmax : n ≤ maxWhole) :
    Reads (.whole kind least greatest) (.integer n) n := by
  intro rest hrest
  obtain ⟨b, tail, m, hbytes, hb, hread, hm⟩ := numeral_integer hmin hmax hrest
  -- A sign or a digit is no blank.
  have hblank : isBlankByte b = false := by
    rcases hb with rfl | hdigit
    · decide
    · exact isBlankByte_of_isDigit hdigit
  simp only [Reader.whole, Reader.refine, Reader.number, Reader.ofByte, hbytes, blanks_cons hblank,
    if_pos hb, hread, hm, if_pos (And.intro hleast hgreatest)]

/-! ## Objects -/

/-- The members of an object are visited one after the other, each value by the reader that the
visit has for it. -/
inductive Visits {σ : Type} (visit : Visit σ) : σ → List (String × Value) → σ → Prop where
  | nil {state : σ} : Visits visit state [] state
  | cons {state next last : σ} {name : String} {v : Value} {reader : Reader σ}
      {rest : List (String × Value)} (hvisit : visit name state = .ok reader)
      (hreads : Reads reader v next) (hrest : Visits visit next rest last) :
      Visits visit state ((name, v) :: rest) last

section

variable {σ : Type} {visit : Visit σ} {state next last : σ}

/-- The members end where there is no further name. -/
theorem members_end {first : Bool} {bs rest : List UInt8}
    (h : nextName first bs = .ok (false, rest)) :
    members visit first state bs = .ok (state, rest) := by
  rw [members]
  split
  next fault hfault => cases hfault.symm.trans h
  next rest' hend =>
    cases hend.symm.trans h
    rfl
  next rest' hmore => cases hmore.symm.trans h

/-- One member is a name, a colon and a value. -/
theorem members_member {first : Bool} {bs quoted afterName value : List UInt8}
    {name : String} {reader : Reader σ} (hname : nextName first bs = .ok (true, quoted))
    (htext : stringText quoted = .ok (name, afterName)) (hvisit : visit name state = .ok reader)
    (hcolon : colon afterName = .ok value) :
    members visit first state bs =
      match reader.run value with
      | .error fault => .error (fault.inside (.member name))
      | .ok (next, more) => members visit false next more := by
  -- Each step of the reader is given, so only the branch of its success is left.
  rw [members]
  split
  next fault hfault => cases hfault.symm.trans hname
  next rest' hend => cases hend.symm.trans hname
  next rest' hmore =>
    cases hmore.symm.trans hname
    split
    next fault hfault => cases hfault.symm.trans htext
    next name' afterName' htext' =>
      cases htext'.symm.trans htext
      simp only [hvisit]
      split
      next fault hfault => cases hfault.symm.trans hcolon
      next value' hcolon' =>
        cases hcolon'.symm.trans hcolon
        split
        next fault hrun => simp only [hrun]
        next state' more' hrun => simp only [hrun]

/-- A name is taken up to its closing quote, and then the colon. -/
private theorem members_quote {first : Bool} {bs inner rest : List UInt8} {name : String}
    {reader : Reader σ} (hname : nextName first bs = .ok (true, inner))
    (hinner : encoded (quote name) ++ 0x3A :: rest = 0x22 :: inner)
    (hvisit : visit name state = .ok reader) :
    members visit first state bs =
      match reader.run rest with
      | .error fault => .error (fault.inside (.member name))
      | .ok (next, more) => members visit false next more := by
  obtain ⟨inner', hinner', htext⟩ := stringText_quote name (0x3A :: rest)
  cases hinner.symm.trans hinner'
  exact members_member hname htext hvisit (by simp [colon, blanks_cons (b := 0x3A) (by decide)])

/-- Behind a value in an object there are further members, or the brace. -/
theorem ends_memberChars (ms : List (String × Value)) (rest : List UInt8) :
    Ends (encoded (Value.memberChars ms) ++ rest) := by
  cases ms with
  | nil => exact .inr (.inl rfl)
  | cons m ms => exact .inl rfl

/-- The further members of an object are visited, up to the brace. -/
theorem Visits.members {ms : List (String × Value)} (h : Visits visit state ms last)
    (rest : List UInt8) :
    members visit false state (encoded (Value.memberChars ms) ++ rest) = .ok (last, 0x7D :: rest) := by
  -- On the visits; each member stands behind a comma.
  induction h with
  | nil => exact members_end rfl
  | @cons state next last name v reader ms hvisit hreads hrest ih =>
    obtain ⟨inner, hinner, -⟩ :=
      stringText_quote name (0x3A :: (encoded v.chars ++ (encoded (Value.memberChars ms) ++ rest)))
    have hbytes : encoded (Value.memberChars ((name, v) :: ms)) ++ rest = 0x2C :: 0x22 :: inner := by
      rw [← hinner]
      simp only [Value.memberChars, encoded_append, encoded_cons, List.append_assoc]
      rfl
    have hname : nextName false (0x2C :: 0x22 :: inner) = .ok (true, inner) := rfl
    rw [hbytes, members_quote hname hinner hvisit, hreads _ (ends_memberChars ms rest)]
    exact ih

/-- All members of an object are visited, up to the brace. -/
theorem Visits.object {ms : List (String × Value)} (h : Visits visit state ms last)
    (rest : List UInt8) :
    ∃ inner, encoded (Value.object ms).chars ++ rest = 0x7B :: inner ∧
      Json.members visit true state inner = .ok (last, 0x7D :: rest) := by
  cases h with
  | nil => exact ⟨0x7D :: rest, rfl, members_end rfl⟩
  -- The first member has no comma before it, and those behind it are as in the lemma above.
  | @cons state next last name v reader ms hvisit hreads hrest =>
    obtain ⟨inner, hinner, -⟩ :=
      stringText_quote name (0x3A :: (encoded v.chars ++ (encoded (Value.memberChars ms) ++ rest)))
    refine ⟨0x22 :: inner, ?_, ?_⟩
    · rw [← hinner]
      simp only [Value.chars, encoded_append, encoded_cons, List.append_assoc]
      rfl
    · have hname : nextName true (0x22 :: inner) = .ok (true, inner) := rfl
      rw [members_quote hname hinner hvisit, hreads _ (ends_memberChars ms rest)]
      exact hrest.members rest

end

section

variable {σ α : Type}

/-- The brace closes what has been read of an object. -/
private theorem enclosed_object {conclude : σ → Except String α} {last : σ} {a : α}
    (h : conclude last = .ok a) (rest : List UInt8) :
    enclosed .object (.ok (last, 0x7D :: rest)) conclude = .ok (a, rest) := by
  simp only [enclosed, h, close, blanks_cons (b := 0x7D) (by decide)]
  rfl

/-- A record is read back when its members are, and what they come to is a record. -/
theorem Reads.record {kind : String} {known : List (Member σ)} {blank last : σ}
    {conclude : σ → Except String α} {ms : List (String × Value)} {a : α}
    (hvisits : Visits (recordVisit known) blank ms last) (h : conclude last = .ok a) :
    Reads (.record kind known blank conclude) (.object ms) a := by
  intro rest _
  obtain ⟨inner, hbytes, hmembers⟩ := hvisits.object rest
  simp only [Reader.record, Reader.ofByte, hbytes, blanks_cons (b := 0x7B) (by decide), if_true,
    hmembers, enclosed_object h]

/-- A member of a record is put in its place, if that is empty. -/
theorem Visits.put {known : List (Member σ)} {state last : σ} {name : String} {get : σ → Option α}
    {set : Option α → σ → σ} {r : Reader α} {v : Value} {a : α} {ms : List (String × Value)}
    (hknown : known.find? (·.name = name) = some (.of name get set r)) (hunset : get state = none)
    (hreads : Reads r v a) (hrest : Visits (recordVisit known) (set (some a) state) ms last) :
    Visits (recordVisit known) state ((name, v) :: ms) last := by
  have hvisit : recordVisit known name state =
      .ok ((r.map fun a => set (some a)).map fun change => change state) := by
    simp [recordVisit, hknown, Member.of, hunset]
  exact .cons hvisit ((hreads.map _).map _) hrest

/-- A record is refused when its first member is. -/
theorem Refuses.record {kind : String} {known : List (Member σ)} {blank : σ}
    {conclude : σ → Except String α} {β : Type} {name : String} {get : σ → Option β}
    {set : Option β → σ → σ} {r : Reader β} {v : Value} {ms : List (String × Value)}
    (hknown : known.find? (·.name = name) = some (.of name get set r)) (hunset : get blank = none)
    (h : Refuses r v) :
    Refuses (.record kind known blank conclude) (.object ((name, v) :: ms)) := by
  have hvisit : recordVisit known name blank =
      .ok ((r.map fun a => set (some a)).map fun change => change blank) := by
    simp [recordVisit, hknown, Member.of, hunset]
  intro rest _
  -- The first member is refused, so what follows it is never looked at.
  obtain ⟨inner, hinner, -⟩ :=
    stringText_quote name (0x3A :: (encoded v.chars ++ (encoded (Value.memberChars ms) ++ rest)))
  obtain ⟨fault, hrun⟩ := ((h.map _).map _) _ (ends_memberChars ms rest)
  have hbytes : encoded (Value.object ((name, v) :: ms)).chars ++ rest = 0x7B :: 0x22 :: inner := by
    rw [← hinner]
    simp only [Value.chars, encoded_append, encoded_cons, List.append_assoc]
    rfl
  have hname : nextName true (0x22 :: inner) = .ok (true, inner) := rfl
  have hmembers := members_quote hname hinner hvisit
  rw [hrun] at hmembers
  simp only [Reader.record, Reader.ofByte, hbytes, blanks_cons (b := 0x7B) (by decide), if_true,
    hmembers]
  exact ⟨_, rfl⟩

/-- An object of values of one kind is read back as its pairs, in the order in which they stand. -/
theorem Reads.entries {r : Reader α} {write : α → Value} (h : ∀ a, Reads r (write a) a)
    (pairs : List (String × α)) :
    Reads (.entries r) (.object (pairs.map fun p => (p.1, write p.2))) pairs := by
  -- The pairs are put at the end of those read before, so these have to be free.
  have hvisits : ∀ before : List (String × α),
      Visits (fun name pairs => .ok (r.map fun a => pairs ++ [(name, a)])) before
        (pairs.map fun p => (p.1, write p.2)) (before ++ pairs) := by
    induction pairs with
    | nil => simpa using fun before => Visits.nil
    | cons pair pairs ih =>
      intro before
      have hrest := ih (before ++ [pair])
      rw [List.append_assoc] at hrest
      exact .cons rfl ((h pair.2).map fun a => before ++ [(pair.1, a)]) hrest
  intro rest _
  obtain ⟨inner, hbytes, hmembers⟩ := (hvisits []).object rest
  have hclosed := @enclosed_object _ _ Except.ok pairs pairs rfl rest
  simp only [Reader.entries, Reader.ofByte, hbytes, blanks_cons (b := 0x7B) (by decide), if_true,
    hmembers, List.nil_append, hclosed]

end

end BearerCache.Json
