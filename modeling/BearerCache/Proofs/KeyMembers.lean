import BearerCache.Proofs.GrantText
import BearerCache.Proofs.RecordParts
import Mathlib.Data.Nat.Digits.Defs

/-! # The members of a JSON Web Key

A JSON Web Key is an object with the six members of an RSA key, among others, in any order, or a
list of their values in the usual one.  What is read of it are the numbers that the members stand
for, whatever the shape of the text, and however many zeros are in front of a number.

## Main definitions

- `JsonWebKey.HasMembers`, `JsonWebKey.HasTexts`: the objects and texts that have these members
- `JsonWebKey.IsNumberText`: the texts that stand for a number
- `RsaKey.IsWrittenIn`: the texts that say the numbers of a key
- `RsaKey.ofJwk`: the key of a JSON text

## Key results

- `JsonWebKey.parse_reader_iff`: what is read of a whole text
- `JsonWebKey.number_eq_ok_iff`: what is read of a member
- `RsaKey.ofJwk_of_isWrittenIn`, `RsaKey.ofJwk_eq_ok_iff`: the keys that are read
-/

namespace BearerCache

namespace JsonWebKey

open Json

/-! ## Members -/

/-- The names of the members that are read, in the usual order. -/
def memberNames : List String :=
  ["kty", "n", "e", "d", "p", "q"]

/-- The members that are read, as they are known to the reader. -/
def knownMembers : List (Member Parts) :=
  [.of "kty" Parts.kty (fun a p => { p with kty := a }) .text,
    .of "n" Parts.n (fun a p => { p with n := a }) .text,
    .of "e" Parts.e (fun a p => { p with e := a }) .text,
    .of "d" Parts.d (fun a p => { p with d := a }) .text,
    .of "p" Parts.p (fun a p => { p with p := a }) (.option .text),
    .of "q" Parts.q (fun a p => { p with q := a }) (.option .text)]

/-- The parts before anything has been read. -/
def blankParts : Parts :=
  ⟨none, none, none, none, none, none⟩

/-- The key that has been read, if nothing is missing. -/
def ofParts (p : Parts) : Except String JsonWebKey := do
  let kty ← required "kty" p.kty
  let n ← required "n" p.n
  let e ← required "e" p.e
  let d ← required "d" p.d
  return ⟨kty, n, e, d, p.p.join, p.q.join⟩

theorem reader_eq : reader = .record "struct RsaJwk" knownMembers blankParts ofParts := rfl

/-- Each of the members that are read stands once among some members, as a string for its text. -/
def HasMembers (texts : String → String) (members : List (String × List UInt8)) : Prop :=
  ∀ name ∈ memberNames, ∃ v, members.filter (·.1 = name) = [(name, v)] ∧
    IsStringOf (texts name) v

/-- A JSON text that has a text for each member: an object with the members, in any order and among
others, or a list. -/
inductive HasTexts (texts : String → String) (text : List UInt8) : Prop where
  | object {members : List (String × List UInt8)} (h : IsObject members text)
      (hmembers : HasMembers texts members)
  | list {values : List (List UInt8)} (h : IsList values text)
      (hvalues : List.Forall₂ (fun name v => IsStringOf (texts name) v) memberNames values)

variable {texts : String → String} {text v : List UInt8} {jwk : JsonWebKey} {parts : Parts}

/-- Neither the order of the members nor what other members there are makes a difference. -/
theorem HasMembers.of_perm {members members' others : List (String × List UInt8)}
    (h : HasMembers texts members) (hperm : members'.Perm (members ++ others))
    (hothers : ∀ item ∈ others, item.1 ∉ memberNames) : HasMembers texts members' := by
  intro name hname
  obtain ⟨v, hone, hstring⟩ := h name hname
  have hnone : others.filter (·.1 = name) = [] := List.filter_eq_nil_iff.mpr fun item hitem hsame =>
    hothers item hitem (of_decide_eq_true hsame ▸ hname)
  have hfilter := hperm.filter (·.1 = name)
  rw [List.filter_append, hone, hnone, List.append_nil] at hfilter
  exact ⟨v, List.perm_singleton.mp hfilter, hstring⟩

/-! ## Parts of a key -/

/-- Each member has a part of its own. -/
theorem keepsParts :
    KeepsPart knownMembers "kty" Parts.kty .text ∧ KeepsPart knownMembers "n" Parts.n .text ∧
      KeepsPart knownMembers "e" Parts.e .text ∧ KeepsPart knownMembers "d" Parts.d .text ∧
      KeepsPart knownMembers "p" Parts.p (.option .text) ∧
      KeepsPart knownMembers "q" Parts.q (.option .text) := by
  refine ⟨?_, ?_, ?_, ?_, ?_, ?_⟩
  all_goals
    refine ⟨⟨_, fun _ _ => rfl, rfl⟩, fun m hm hne bs change rest hrun parts => ?_⟩
    simp only [knownMembers, List.mem_cons, List.not_mem_nil, or_false] at hm
    -- What another member sets is another part.
    rcases hm with rfl | rfl | rfl | rfl | rfl | rfl
    all_goals first
      | exact absurd rfl hne
      | obtain ⟨a, -, rfl⟩ := Reader.map_eq_ok hrun
        rfl

theorem isExact_knownMembers : ∀ m ∈ knownMembers, m.put.IsExact := by
  simp only [knownMembers, List.forall_mem_cons, List.not_mem_nil, false_implies, implies_true,
    and_true, Member.of]
  exact ⟨Reader.isExact_text.map _, Reader.isExact_text.map _, Reader.isExact_text.map _,
    Reader.isExact_text.map _, Reader.isExact_text.option.map _, Reader.isExact_text.option.map _⟩

/-- What is taken for a text and not for null is a string for it. -/
theorem takes_option_text_iff (hv : IsValue v) {s : String} :
    (Reader.option .text).Takes v (some s) ↔ IsStringOf s v := by
  -- A `null` is taken as nothing, so a text that is taken has been read by the reader of texts.
  constructor
  · intro h
    obtain ⟨first, tail, rfl, hstart⟩ := hv.exists_cons
    have hblanks : blanks (first :: tail) = first :: tail := blanks_cons hstart.1
    by_cases hfirst : first = 0x6E
    · subst hfirst
      cases (Reader.run_option_null hblanks h.run).1
    · have hrun := h.run
      rw [Reader.run_option hblanks hfirst] at hrun
      obtain ⟨a, hread, hsame⟩ := Reader.map_eq_ok hrun
      cases hsame
      exact (Reader.takes_text_iff hv).mp ((Reader.isExact_text.takes_iff hv).mpr hread)
  · intro h
    have hhead : v.head? ≠ some 0x6E := by
      obtain ⟨hbody⟩ := h
      exact fun heq => absurd (Option.some.inj heq) (by decide)
    exact (Reader.takes_text h).option hv hhead

/-- What is read if nothing is missing and no factor is null. -/
theorem ofParts_eq_ok_iff {kty n e d p q : String} :
    ofParts parts = .ok ⟨kty, n, e, d, some p, some q⟩ ↔
      parts = ⟨some kty, some n, some e, some d, some (some p), some (some q)⟩ := by
  obtain ⟨kty?, n?, e?, d?, p?, q?⟩ := parts
  constructor
  · intro h
    cases kty? <;> cases n? <;> cases e? <;> cases d? <;>
      simp_all [ofParts, required, bind, Except.bind, pure, Except.pure, Option.join_eq_some_iff]
  · intro h
    cases h
    rfl

/-- An object is visited to the end with these parts if it has these texts. -/
theorem visited_iff {items : List (String × List UInt8)} (h : IsObject items text)
    (hvisited : Visited (recordVisit knownMembers) blankParts items parts) :
    parts = ⟨some (texts "kty"), some (texts "n"), some (texts "e"), some (texts "d"),
        some (some (texts "p")), some (some (texts "q"))⟩ ↔ HasMembers texts items := by
  -- Each part is what its member has been read as, and these are one member each.
  obtain ⟨hkty, hn, he, hd, hp, hq⟩ := keepsParts
  have htext {name : String} {get : Parts → Option String}
      (hkeeps : KeepsPart knownMembers name get .text) (hblank : get blankParts = none) :
      get parts = some (texts name) ↔
        ∃ v, items.filter (·.1 = name) = [(name, v)] ∧ IsStringOf (texts name) v := by
    rw [hvisited.part_eq_some_iff hkeeps Reader.isExact_text h.isValue hblank]
    exact exists_congr fun v => and_congr_right fun hone =>
      Reader.takes_text_iff (h.isValue_of_filter hone)
  have hoption {name : String} {get : Parts → Option (Option String)}
      (hkeeps : KeepsPart knownMembers name get (.option .text)) (hblank : get blankParts = none) :
      get parts = some (some (texts name)) ↔
        ∃ v, items.filter (·.1 = name) = [(name, v)] ∧ IsStringOf (texts name) v := by
    rw [hvisited.part_eq_some_iff hkeeps Reader.isExact_text.option h.isValue hblank]
    exact exists_congr fun v => and_congr_right fun hone =>
      takes_option_text_iff (h.isValue_of_filter hone)
  simp only [HasMembers, memberNames, List.forall_mem_cons, List.not_mem_nil, false_implies,
    implies_true, and_true, ← htext hkty rfl, ← htext hn rfl, ← htext he rfl, ← htext hd rfl,
    ← hoption hp rfl, ← hoption hq rfl]
  cases parts
  simp

/-- An object with these texts can be visited. -/
theorem exists_visited_of_texts {items : List (String × List UInt8)} (h : IsObject items text)
    (hmembers : HasMembers texts items) :
    ∃ parts, Visited (recordVisit knownMembers) blankParts items parts := by
  have hnames : ∀ m ∈ knownMembers, m.name ∈ memberNames := by decide
  -- Each known member is read once, as a text; nothing else is asked of the order or of the others.
  refine exists_visited h.isValue ?_ ?_ ?_ ?_
  · intro m hm item hitem hname
    obtain ⟨v, hone, hstring⟩ := hmembers m.name (hnames m hm)
    have hmem : item ∈ items.filter (·.1 = m.name) :=
      List.mem_filter.mpr ⟨hitem, by simpa using hname⟩
    rw [hone, List.mem_singleton] at hmem
    subst hmem
    have htext : Reader.text.Takes v (texts m.name) := Reader.takes_text hstring
    have hoption := (takes_option_text_iff hstring.isValue).mpr hstring
    simp only [knownMembers, List.mem_cons, List.not_mem_nil, or_false] at hm
    rcases hm with rfl | rfl | rfl | rfl | rfl | rfl
    · exact ⟨_, htext.map _⟩
    · exact ⟨_, htext.map _⟩
    · exact ⟨_, htext.map _⟩
    · exact ⟨_, htext.map _⟩
    · exact ⟨_, hoption.map _⟩
    · exact ⟨_, hoption.map _⟩
  · intro m hm
    obtain ⟨v, hone, -⟩ := hmembers m.name (hnames m hm)
    rw [hone]
    exact Nat.le_refl 1
  · simp [knownMembers, Member.of, blankParts]
  -- No member changes what another one keeps.
  · intro m hm other hother hne bs change rest hrun parts
    obtain ⟨hkty, hn, he, hd, hp, hq⟩ := keepsParts
    simp only [knownMembers, List.mem_cons, List.not_mem_nil, or_false] at hother
    rcases hother with rfl | rfl | rfl | rfl | rfl | rfl
    · exact congrArg Option.isSome (hkty.other m hm hne bs change rest hrun parts)
    · exact congrArg Option.isSome (hn.other m hm hne bs change rest hrun parts)
    · exact congrArg Option.isSome (he.other m hm hne bs change rest hrun parts)
    · exact congrArg Option.isSome (hd.other m hm hne bs change rest hrun parts)
    · exact congrArg Option.isSome (hp.other m hm hne bs change rest hrun parts)
    · exact congrArg Option.isSome (hq.other m hm hne bs change rest hrun parts)

/-- A list that is read to the end with these parts is one of strings for the texts. -/
theorem forall₂_of_listed {values : List (List UInt8)} (h : ∀ v ∈ values, IsValue v)
    (hlisted : Listed (knownMembers.map (·.put)) blankParts values parts)
    (hparts : parts = ⟨some (texts "kty"), some (texts "n"), some (texts "e"), some (texts "d"),
      some (some (texts "p")), some (some (texts "q"))⟩) :
    List.Forall₂ (fun name v => IsStringOf (texts name) v) memberNames values := by
  have htext {v : List UInt8} {s : String} (hv : IsValue v)
      (hrun : Reader.text.run v = .ok (s, [])) : IsStringOf s v :=
    (Reader.takes_text_iff hv).mp ((Reader.isExact_text.takes_iff hv).mpr hrun)
  have hoption {v : List UInt8} {s : String} (hv : IsValue v)
      (hrun : (Reader.option .text).run v = .ok (some s, [])) : IsStringOf s v :=
    (takes_option_text_iff hv).mp ((Reader.isExact_text.option.takes_iff hv).mpr hrun)
  -- There are six readers and so six values.
  cases hlisted with | @cons _ _ _ _ _ v₁ _ hkty hlisted =>
  cases hlisted with | @cons _ _ _ _ _ v₂ _ hn hlisted =>
  cases hlisted with | @cons _ _ _ _ _ v₃ _ he hlisted =>
  cases hlisted with | @cons _ _ _ _ _ v₄ _ hd hlisted =>
  cases hlisted with | @cons _ _ _ _ _ v₅ _ hp hlisted =>
  cases hlisted with | @cons _ _ _ _ _ v₆ _ hq hlisted =>
  cases hlisted
  obtain ⟨kty, hkty', rfl⟩ := Reader.map_eq_ok hkty.run
  obtain ⟨n, hn', rfl⟩ := Reader.map_eq_ok hn.run
  obtain ⟨e, he', rfl⟩ := Reader.map_eq_ok he.run
  obtain ⟨d, hd', rfl⟩ := Reader.map_eq_ok hd.run
  obtain ⟨p, hp', rfl⟩ := Reader.map_eq_ok hp.run
  obtain ⟨q, hq', rfl⟩ := Reader.map_eq_ok hq.run
  cases hparts
  simp only [List.forall_mem_cons] at h
  obtain ⟨h₁, h₂, h₃, h₄, h₅, h₆, -⟩ := h
  exact .cons (htext h₁ hkty') <| .cons (htext h₂ hn') <| .cons (htext h₃ he') <|
    .cons (htext h₄ hd') <| .cons (hoption h₅ hp') <| .cons (hoption h₆ hq') .nil

/-- A list of strings for the texts is read to the end. -/
theorem listed_of_forall₂ {values : List (List UInt8)}
    (h : List.Forall₂ (fun name v => IsStringOf (texts name) v) memberNames values) :
    Listed (knownMembers.map (·.put)) blankParts values ⟨some (texts "kty"), some (texts "n"),
      some (texts "e"), some (texts "d"), some (some (texts "p")), some (some (texts "q"))⟩ := by
  have htext {name : String} {v : List UInt8} (hv : IsStringOf (texts name) v) :
      Reader.text.Takes v (texts name) := Reader.takes_text hv
  have hoption {name : String} {v : List UInt8} (hv : IsStringOf (texts name) v) :
      (Reader.option .text).Takes v (some (texts name)) :=
    (takes_option_text_iff hv.isValue).mpr hv
  -- Conversely six texts are read one after the other.
  simp only [memberNames, List.forall₂_cons_left_iff, List.forall₂_nil_left_iff] at h
  obtain ⟨kty, _, hkty, ⟨n, _, hn, ⟨e, _, he, ⟨d, _, hd, ⟨p, _, hp, ⟨q, _, hq, rfl, rfl⟩, rfl⟩,
    rfl⟩, rfl⟩, rfl⟩, rfl⟩ := h
  exact .cons ((htext hkty).map _) <| .cons ((htext hn).map _) <| .cons ((htext he).map _) <|
    .cons ((htext hd).map _) <| .cons ((hoption hp).map _) <| .cons ((hoption hq).map _) .nil

/-- What is read of a whole text are its texts for the members. -/
theorem parse_reader_iff :
    reader.parse text = .ok ⟨texts "kty", texts "n", texts "e", texts "d", some (texts "p"),
        some (texts "q")⟩ ↔ HasTexts texts text := by
  -- The two forms of a record, the object and the list, are treated apart.
  rw [reader_eq, parse_record_eq_ok_iff isExact_knownMembers]
  constructor
  · intro h
    cases h with
    | object hobject hvisited hconclude =>
      exact .object hobject ((visited_iff hobject hvisited).mp (ofParts_eq_ok_iff.mp hconclude))
    | list hlist hlisted hconclude =>
      exact .list hlist
        (forall₂_of_listed hlist.isValue hlisted (ofParts_eq_ok_iff.mp hconclude))
  · intro h
    cases h with
    | object hobject hmembers =>
      obtain ⟨parts, hvisited⟩ := exists_visited_of_texts hobject hmembers
      exact .object hobject hvisited
        (ofParts_eq_ok_iff.mpr ((visited_iff hobject hvisited).mpr hmembers))
    | list hlist hvalues =>
      exact .list hlist (listed_of_forall₂ hvalues) (ofParts_eq_ok_iff.mpr rfl)

/-! ## Numbers -/

/-- A text stands for a number if it is the Base64 form of the bytes of the number, the most
significant first.  Zeros may stand in front of them. -/
def IsNumberText (n : Nat) (s : String) : Prop :=
  ∃ bytes, s = Text.Base64.encode .urlSafe bytes ∧
    Nat.ofDigits 256 (bytes.reverse.map UInt8.toNat) = n

/-- Zeros in front of a number do not count. -/
theorem isNumberText_replicate_append {n : Nat} {bytes : List UInt8} (zeros : Nat) :
    IsNumberText n (Text.Base64.encode .urlSafe (List.replicate zeros 0 ++ bytes)) ↔
      IsNumberText n (Text.Base64.encode .urlSafe bytes) := by
  -- Zeros at the front of the bytes add nothing to the number.
  have hzeros : Nat.ofDigits 256 ((List.replicate zeros 0 ++ bytes).reverse.map UInt8.toNat) =
      Nat.ofDigits 256 (bytes.reverse.map UInt8.toNat) := by
    rw [List.reverse_append, List.map_append, Nat.ofDigits_append, List.reverse_replicate,
      List.map_replicate, UInt8.toNat_zero, Nat.ofDigits_replicate_zero, Nat.mul_zero, Nat.add_zero]
  constructor
  · rintro ⟨_, htext, hnumber⟩
    obtain rfl := Text.Base64.encode_injective htext
    exact ⟨bytes, rfl, hzeros ▸ hnumber⟩
  · rintro ⟨_, htext, hnumber⟩
    obtain rfl := Text.Base64.encode_injective htext
    exact ⟨_, rfl, hzeros.trans hnumber⟩

/-- What is read of a member is the number that its text stands for. -/
theorem number_eq_ok_iff {member s : String} {n : Nat} :
    number member s = .ok n ↔ IsNumberText n s := by
  -- The decoder of Base64 reads only what the encoder writes.
  constructor
  · intro h
    unfold number at h
    split at h
    next => cases h
    next bytes hdecode =>
      cases h
      have htext := Text.Base64.eq_symbols_of_decode hdecode
      rw [← Text.Base64.bytes_encode] at htext
      exact ⟨bytes, bytes_injective htext, (Rsa.ofBytes_eq_ofDigits bytes).symm⟩
  · rintro ⟨bytes, rfl, rfl⟩
    rw [number, Text.Base64.decode_encode, ← Rsa.ofBytes_eq_ofDigits]

end JsonWebKey

/-! ## Keys -/

namespace RsaKey

/-- The members of a key and their numbers. -/
def members (key : RsaKey) : List (String × Nat) :=
  [("n", key.n), ("e", key.e), ("d", key.d), ("p", key.p), ("q", key.q)]

/-- A text in which the numbers of a key are written. -/
def IsWrittenIn (key : RsaKey) (text : List UInt8) : Prop :=
  ∃ texts, JsonWebKey.HasTexts texts text ∧ texts "kty" = "RSA" ∧
    ∀ member ∈ key.members, JsonWebKey.IsNumberText member.2 (texts member.1)

end RsaKey

namespace RsaKey

variable {key : RsaKey} {text : List UInt8}

/-- The key of a JSON Web Key that is JSON text, or the reason why there is none. -/
def ofJwk (text : List UInt8) : Except String RsaKey :=
  match JsonWebKey.reader.parse text with
  | .error fault => .error (fault.message text)
  | .ok jwk => jwk.toRsaKey

/-- What is made of a text in which the numbers of a key are written. -/
theorem ofJwk_of_isWrittenIn (h : key.IsWrittenIn text) : ofJwk text = key.checked := by
  obtain ⟨texts, htexts, hkty, hnumbers⟩ := h
  simp only [members, List.forall_mem_cons, List.not_mem_nil, false_implies, implies_true,
    and_true] at hnumbers
  obtain ⟨hn, he, hd, hp, hq⟩ := hnumbers
  rw [ofJwk, JsonWebKey.parse_reader_iff.mpr htexts, hkty]
  exact JsonWebKey.toRsaKey_of_numbers (JsonWebKey.number_eq_ok_iff.mpr hn)
    (JsonWebKey.number_eq_ok_iff.mpr he) (JsonWebKey.number_eq_ok_iff.mpr hd)
    (JsonWebKey.number_eq_ok_iff.mpr hp) (JsonWebKey.number_eq_ok_iff.mpr hq)

/-- The texts of which a key is made: its numbers are written there, and they have no fault. -/
theorem ofJwk_eq_ok_iff : ofJwk text = .ok key ↔ key.IsWrittenIn text ∧ key.fault? = none := by
  constructor
  · intro h
    unfold ofJwk at h
    split at h
    next => cases h
    next jwk hparse =>
      obtain ⟨n, e, d, p, q, rfl, hn, he, hd, hp, hq, hfault⟩ := JsonWebKey.exists_of_toRsaKey h
      -- The texts of the members by their names; `kty` is the one whose text is known.
      let texts : String → String := fun name =>
        if name = "kty" then "RSA" else if name = "n" then n else if name = "e" then e
        else if name = "d" then d else if name = "p" then p else q
      refine ⟨⟨texts, JsonWebKey.parse_reader_iff.mp hparse, rfl, ?_⟩, hfault⟩
      simp only [members, List.forall_mem_cons, List.not_mem_nil, false_implies, implies_true,
        and_true]
      exact ⟨JsonWebKey.number_eq_ok_iff.mp hn, JsonWebKey.number_eq_ok_iff.mp he,
        JsonWebKey.number_eq_ok_iff.mp hd, JsonWebKey.number_eq_ok_iff.mp hp,
        JsonWebKey.number_eq_ok_iff.mp hq⟩
  · rintro ⟨hwritten, hfault⟩
    rw [ofJwk_of_isWrittenIn hwritten, checked_eq_ok_iff]
    exact ⟨rfl, hfault⟩

/-- What is handed over is the Base64 form of a JSON Web Key, with blanks around it. -/
theorem ofEncodedJwk_eq (encoded : Secret) :
    ofEncodedJwk encoded =
      match Text.Base64.decode .standard .indifferent
        (Text.bytes (Text.trim encoded.expose)) with
      | .error fault => .error fault.message
      | .ok json => ofJwk json := rfl

end RsaKey

end BearerCache
