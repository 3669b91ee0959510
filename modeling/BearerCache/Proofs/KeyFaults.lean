import BearerCache.Proofs.JsonFrames
import BearerCache.Proofs.JsonObjections
import BearerCache.Proofs.KeyBlobs

/-! # What is said of a private member

A key is refused when one of its private members is no string, or is a string that is not Base64.
The reason that is given says more than that: it names a number that stands there, and the first
byte that is no symbol, with its place.  So the reasons of two keys that differ in that member only
are the same in some cases, but not in all.

## Main definitions

- `JsonWebKey.AllBut`: the members of a key that are as they should be, but for one

## Key results

- `RsaKey.ofJwk_of_objection`, `RsaKey.ofJwk_of_fault`: the reasons that are given
- `GrantSigner.refusal_of_private_member`: when the reasons of two keys are the same
-/

namespace BearerCache

open Json

namespace JsonWebKey

/-- The members that are kept secret. -/
def privateMembers : List String :=
  ["d", "p", "q"]

/-- The members that stand for numbers, in the order in which they are read. -/
def numberNames : List String :=
  ["n", "e", "d", "p", "q"]

/-- The bytes of the word for nothing, which can stand for a member that is not needed. -/
def nullBytes : List UInt8 :=
  [0x6E, 0x75, 0x6C, 0x6C]

/-- A whole number is not the word for nothing. -/
theorem digitBytes_ne_null (n : Nat) : digitBytes n ≠ nullBytes := by
  intro h
  cases isDigit_of_mem_digitBytes n 0x6E (by simp [h, nullBytes])

/-- All members of a key are as they should be, but for one: each of the others is a string for its
text, the key is one of RSA, and the texts that are read before that of the one are numbers. -/
structure AllBut (name : String) (texts : String → String)
    (members : List (String × List UInt8)) : Prop where
  others : ∀ other ∈ memberNames, other ≠ name →
    ∃ v, members.filter (·.1 = other) = [(other, v)] ∧ IsStringOf (texts other) v
  kty : texts "kty" = "RSA"
  numbers : ∀ other ∈ numberNames.takeWhile (· ≠ name), ∃ n, IsNumberText n (texts other)

variable {name said : String} {size : Nat} {v rest front back : List UInt8}
variable {before after : List (String × List UInt8)} {parts : Parts}

/-- What is no string and not null does not start as null does. -/
theorem exists_cons_of_objection (h : Objection "a string" v said size) (hnull : v ≠ nullBytes) :
    ∃ first tail, v = first :: tail ∧ isBlankByte first = false ∧ first ≠ 0x6E := by
  have hnumber {v : List UInt8} (hv : IsNumber v) :
      ∃ first tail, v = first :: tail ∧ isBlankByte first = false ∧ first ≠ 0x6E := by
    obtain ⟨first, tail, rfl, hfirst⟩ := hv.exists_cons
    exact ⟨first, tail, rfl, (startsValue_of_sign_or_digit hfirst).1,
      ne_of_sign_or_digit hfirst (by decide) rfl⟩
  -- Only `null` begins with an `n`, and that one is excluded.
  cases h with
  | null => exact absurd rfl hnull
  | yes => exact ⟨_, _, rfl, rfl, by decide⟩
  | no => exact ⟨_, _, rfl, rfl, by decide⟩
  | number hv => exact hnumber hv
  | tooLarge hv => exact hnumber hv
  | @bracket bracket =>
    exact ⟨_, _, rfl, by cases bracket <;> rfl, by cases bracket <;> decide⟩

/-- A private member that has not been read is visited, and what is said of its value is the
fault. -/
theorem exists_refusing_visit (hname : name ∈ privateMembers)
    (hvisited : Visited (recordVisit knownMembers) blankParts before parts)
    (hvalues : ∀ item ∈ before, IsValue item.2) (hnone : before.filter (·.1 = name) = [])
    (h : Objection "a string" v said size) (hnull : v = nullBytes → name = "d")
    (hrest : Stops rest) :
    ∃ reader cause behind, recordVisit knownMembers name parts = .ok reader ∧
      (∀ w, IsBlank w → reader.run (w ++ (v ++ rest)) = .error (.here cause behind)) ∧
      cause.message = said ∧ behind.length = v.length - size + rest.length := by
  -- The reader of a text refuses the value with this message, whatever surrounds it.
  obtain ⟨cause, behind, hrun, hsaid, hlength⟩ := h.run_textAs hrest
  have hoption (hne : v ≠ nullBytes) (w : List UInt8) (hw : IsBlank w) :
      (Reader.option .text).run (w ++ (v ++ rest)) = .error (.here cause behind) := by
    obtain ⟨first, tail, rfl, hblank, hfirst⟩ := exists_cons_of_objection h hne
    have hblanks := hw.blanks_eq_cons hblank (tail ++ rest)
    have htext : Reader.text.run (w ++ (first :: tail ++ rest)) = _ := hrun w hw
    rw [List.cons_append] at htext ⊢
    rw [Reader.run_option hblanks hfirst]
    simp only [Reader.map, Reader.refine, htext]
  have hvisit {α : Type} {get : Parts → Option α} {r : Reader α}
      (hkeeps : KeepsPart knownMembers name get r) (hexact : r.IsExact)
      (hblank : get blankParts = none)
      (hr : ∀ w, IsBlank w → r.run (w ++ (v ++ rest)) = .error (.here cause behind)) :
      ∃ reader cause behind, recordVisit knownMembers name parts = .ok reader ∧
        (∀ w, IsBlank w → reader.run (w ++ (v ++ rest)) = .error (.here cause behind)) ∧
        cause.message = said ∧ behind.length = v.length - size + rest.length := by
    obtain ⟨reader, hvisit, hrefuses⟩ :=
      hvisited.exists_visit hkeeps hexact hvalues hblank hnone
    exact ⟨reader, cause, behind, hvisit, fun w hw => hrefuses _ _ (hr w hw), hsaid, hlength⟩
  obtain ⟨-, -, -, hd, hp, hq⟩ := keepsParts
  -- `d` is read as a text; the two prime factors are optional, where a `null` is a value.
  simp only [privateMembers, List.mem_cons, List.not_mem_nil, or_false] at hname
  rcases hname with rfl | rfl | rfl
  · exact hvisit hd Reader.isExact_text rfl hrun
  · exact hvisit hp Reader.isExact_text.option rfl (hoption fun h => absurd (hnull h) (by decide))
  · exact hvisit hq Reader.isExact_text.option rfl (hoption fun h => absurd (hnull h) (by decide))

/-- What is said of a private member that is no string is the fault of the whole text. -/
theorem parse_of_objection (hname : name ∈ privateMembers)
    (hframe : IsFrame before name after front back) (hnone : before.filter (·.1 = name) = [])
    (hvisited : Visited (recordVisit knownMembers) blankParts before parts)
    (h : Objection "a string" v said size) (hnull : v = nullBytes → name = "d") :
    ∃ fault, reader.parse (front ++ (v ++ back)) = .error fault ∧ fault.path = [.member name] ∧
      fault.message (front ++ (v ++ back)) = placedAt said (front ++ v.take size) := by
  obtain ⟨reader, cause, behind, hvisit, hrun, rfl, hlength⟩ :=
    exists_refusing_visit hname hvisited hframe.isValue hnone h hnull hframe.stops
  -- What is left of the text when the reader gives up tells the place of the fault.
  have hleft : ((Fault.here cause behind).inside (.member name)).left =
      some (v.drop size ++ back).length := by
    rw [List.length_append, List.length_drop, ← hlength]
    rfl
  have htext : front ++ (v ++ back) = (front ++ v.take size) ++ (v.drop size ++ back) := by
    rw [List.append_assoc, ← List.append_assoc (v.take size), List.take_append_drop]
  refine ⟨_, parse_record_of_frame hframe hvisited hvisit hrun, rfl, ?_⟩
  rw [htext]
  exact message_of_left hleft

/-- With a string for the one member, all members have their texts. -/
theorem AllBut.hasMembers {texts : String → String} {s : String}
    (h : AllBut name texts (before ++ after)) (hnone : (before ++ after).filter (·.1 = name) = [])
    (hv : IsStringOf s v) :
    HasMembers (Function.update texts name s) (before ++ (name, v) :: after) := by
  intro other hother
  -- The members of every other name are those that they were without the one put in.
  rw [List.filter_append] at hnone ⊢
  obtain ⟨hbefore, hafter⟩ := List.append_eq_nil_iff.mp hnone
  by_cases hsame : other = name
  · subst hsame
    refine ⟨v, ?_, by rwa [Function.update_self]⟩
    rw [List.filter_cons_of_pos (by simp), hbefore, hafter, List.nil_append]
  · obtain ⟨value, hone, hstring⟩ := h.others other hother hsame
    refine ⟨value, ?_, by rwa [Function.update_of_ne hsame]⟩
    rw [List.filter_cons_of_neg (by simpa using Ne.symm hsame), ← List.filter_append, hone]

/-- The first text that is no number is the one that is reported. -/
theorem toRsaKey_of_fault {texts : String → String} {reason : String}
    (hname : name ∈ privateMembers) (hkty : texts "kty" = "RSA")
    (hnumbers : ∀ other ∈ numberNames.takeWhile (· ≠ name), ∃ n, IsNumberText n (texts other))
    (h : number name (texts name) = .error reason) :
    (⟨texts "kty", texts "n", texts "e", texts "d", some (texts "p"), some (texts "q")⟩ :
      JsonWebKey).toRsaKey = .error reason := by
  have hread (other : String) (hother : other ∈ numberNames.takeWhile (· ≠ name)) :
      ∃ n, number other (texts other) = .ok n := by
    obtain ⟨n, hn⟩ := hnumbers other hother
    exact ⟨n, number_eq_ok_iff.mpr hn⟩
  -- Those before it are numbers, so the first one that is refused is the member itself.
  simp only [privateMembers, List.mem_cons, List.not_mem_nil, or_false] at hname
  rcases hname with rfl | rfl | rfl
  · obtain ⟨n, hn⟩ := hread "n" (by decide)
    obtain ⟨e, he⟩ := hread "e" (by decide)
    simp only [toRsaKey, hkty, hn, he, h]
    rfl
  · obtain ⟨n, hn⟩ := hread "n" (by decide)
    obtain ⟨e, he⟩ := hread "e" (by decide)
    obtain ⟨d, hd⟩ := hread "d" (by decide)
    simp only [toRsaKey, hkty, hn, he, hd, h]
    rfl
  · obtain ⟨n, hn⟩ := hread "n" (by decide)
    obtain ⟨e, he⟩ := hread "e" (by decide)
    obtain ⟨d, hd⟩ := hread "d" (by decide)
    obtain ⟨p, hp⟩ := hread "p" (by decide)
    simp only [toRsaKey, hkty, hn, he, hd, hp, h]
    rfl

end JsonWebKey

namespace RsaKey

open JsonWebKey

variable {name said : String} {size : Nat} {v front back : List UInt8}
variable {before after : List (String × List UInt8)} {parts : JsonWebKey.Parts}

/-- The reason that is given for a private member that is no string. -/
theorem ofJwk_of_objection (hname : name ∈ privateMembers)
    (hframe : IsFrame before name after front back) (hnone : before.filter (·.1 = name) = [])
    (hvisited : Visited (recordVisit knownMembers) blankParts before parts)
    (h : Objection "a string" v said size) (hnull : v = nullBytes → name = "d") :
    ofJwk (front ++ (v ++ back)) = .error (placedAt said (front ++ v.take size)) := by
  obtain ⟨fault, hparse, -, hmessage⟩ := parse_of_objection hname hframe hnone hvisited h hnull
  rw [ofJwk, hparse, ← hmessage]

/-- The reason that is given for a private member that is a string but not Base64. -/
theorem ofJwk_of_fault {texts : String → String} {s : String} {fault : Text.Base64.Fault}
    (hname : name ∈ privateMembers) (hframe : IsFrame before name after front back)
    (hnone : (before ++ after).filter (·.1 = name) = [])
    (hothers : AllBut name texts (before ++ after)) (h : IsStringOf s v)
    (hfault : Text.Base64.decode .urlSafe .forbidden (Text.bytes s) = .error fault) :
    ofJwk (front ++ (v ++ back)) = .error s!"JWK member {name}: {fault.message}" := by
  have hmembers := hothers.hasMembers hnone h
  have hparse := parse_reader_iff.mpr (.object (hframe.isObject h.isValue) hmembers)
  -- The name is not `kty`, so the key is still one for RSA.
  have hkty : Function.update texts name s "kty" = "RSA" := by
    rw [Function.update_of_ne, hothers.kty]
    rintro rfl
    exact absurd hname (by decide)
  have hnumbers : ∀ other ∈ numberNames.takeWhile (· ≠ name),
      ∃ n, IsNumberText n (Function.update texts name s other) := by
    intro other hother
    rw [Function.update_of_ne (by simpa using List.mem_takeWhile_imp hother)]
    exact hothers.numbers other hother
  have hnumber : number name (Function.update texts name s name) =
      .error s!"JWK member {name}: {fault.message}" := by
    rw [Function.update_self, number, hfault]
  rw [ofJwk, hparse]
  exact toRsaKey_of_fault hname hkty hnumbers hnumber

end RsaKey

namespace GrantSigner

open JsonWebKey

variable {clientId : Identifier .client} {keyId : Identifier .key} {audience : String}
variable {lifetime : Span} {encoded encoded' : Secret} {json json' : List UInt8}

/-- Why no key can be made of the text that a secret holds is why no signer can. -/
theorem ofEncodedJwk_of_reason {reason : String} (hpositive : lifetime.isPositive)
    (h : RsaKey.ofJwk json = .error reason) (hholds : encoded.Holds json) :
    ofEncodedJwk clientId keyId audience encoded lifetime = .error (.keyMaterial reason) := by
  rw [ofEncodedJwk_of_holds hholds, ofJwk, if_pos hpositive, h]

/-- The refusals of two secrets are told alike if the reasons are the same. -/
theorem refusals_eq_iff {reason reason' : String} (hpositive : lifetime.isPositive)
    (h : RsaKey.ofJwk json = .error reason) (hholds : encoded.Holds json)
    (h' : RsaKey.ofJwk json' = .error reason') (hholds' : encoded'.Holds json') :
    ofEncodedJwk clientId keyId audience encoded lifetime =
      ofEncodedJwk clientId keyId audience encoded' lifetime ↔ reason = reason' := by
  rw [ofEncodedJwk_of_reason hpositive h hholds, ofEncodedJwk_of_reason hpositive h' hholds',
    Except.error.injEq, SetupFault.keyMaterial.injEq]

/-- When the refusals of two keys are the same that differ in one private member only.

In each object with a private member, any other value can stand in its place.  Something is said of
each that is no string, and if the members before it can be read, this is the reason that is given,
with the place.  Two such keys are told alike if the same is said of both values, after as many of
their bytes; so two whole numbers never are unless they are the same.  Of a string that is not
Base64 the first fault is told, with the byte and its place, and two such keys are told alike if the
faults are the same. -/
theorem refusal_of_private_member (clientId : Identifier .client) (keyId : Identifier .key)
    (audience : String) (lifetime : Span) (hpositive : lifetime.isPositive) {name : String}
    (hname : name ∈ privateMembers) {before after : List (String × List UInt8)}
    {value text : List UInt8} (htext : IsObject (before ++ (name, value) :: after) text)
    (hnone : (before ++ after).filter (·.1 = name) = []) :
    ∃ front back, text = front ++ (value ++ back) ∧
      (∀ v, IsValue v → IsObject (before ++ (name, v) :: after) (front ++ (v ++ back))) ∧
      (∀ v, IsValue v → v.head? ≠ some 0x22 → ∃ said size, Objection "a string" v said size) ∧
      (∀ parts, Visited (recordVisit knownMembers) blankParts before parts →
        (∀ v v' said said' size size' encoded encoded',
          Objection "a string" v said size → Objection "a string" v' said' size' →
          (v = nullBytes → name = "d") → (v' = nullBytes → name = "d") →
          Secret.Holds encoded (front ++ (v ++ back)) →
          Secret.Holds encoded' (front ++ (v' ++ back)) →
          ofEncodedJwk clientId keyId audience encoded lifetime =
            .error (.keyMaterial (placedAt said (front ++ v.take size))) ∧
          (ofEncodedJwk clientId keyId audience encoded lifetime =
            ofEncodedJwk clientId keyId audience encoded' lifetime ↔
              said = said' ∧ size = size')) ∧
        (∀ m n encoded encoded', m ≤ maxWhole → n ≤ maxWhole →
          Secret.Holds encoded (front ++ (digitBytes m ++ back)) →
          Secret.Holds encoded' (front ++ (digitBytes n ++ back)) →
          (ofEncodedJwk clientId keyId audience encoded lifetime =
            ofEncodedJwk clientId keyId audience encoded' lifetime ↔ m = n))) ∧
      (∀ texts, AllBut name texts (before ++ after) →
        ∀ v v' s s' fault fault' encoded encoded', IsStringOf s v → IsStringOf s' v' →
          Text.Base64.decode .urlSafe .forbidden (Text.bytes s) = .error fault →
          Text.Base64.decode .urlSafe .forbidden (Text.bytes s') = .error fault' →
          Secret.Holds encoded (front ++ (v ++ back)) →
          Secret.Holds encoded' (front ++ (v' ++ back)) →
          ofEncodedJwk clientId keyId audience encoded lifetime =
            .error (.keyMaterial s!"JWK member {name}: {fault.message}") ∧
          (ofEncodedJwk clientId keyId audience encoded lifetime =
            ofEncodedJwk clientId keyId audience encoded' lifetime ↔ fault = fault')) := by
  -- The text around the value is the same for every value that stands there.
  obtain ⟨front, back, rfl, hframe⟩ := htext.exists_frame
  have hbefore : before.filter (·.1 = name) = [] := by
    rw [List.filter_append] at hnone
    exact (List.append_eq_nil_iff.mp hnone).1
  refine ⟨front, back, rfl, fun v hv => hframe.isObject hv,
    fun v hv hstring => exists_objection hv hstring, ?_, ?_⟩
  -- The value is no string, so the reader of the members refuses it, with the kind in its message.
  · intro parts hvisited
    have hreason {v said size} (h : Objection "a string" v said size)
        (hnull : v = nullBytes → name = "d") :
        RsaKey.ofJwk (front ++ (v ++ back)) = .error (placedAt said (front ++ v.take size)) :=
      RsaKey.ofJwk_of_objection hname hframe hbefore hvisited h hnull
    refine ⟨fun v v' said said' size size' encoded encoded' h h' hnull hnull' hholds hholds' =>
      ⟨ofEncodedJwk_of_reason hpositive (hreason h hnull) hholds, ?_⟩, ?_⟩
    · rw [refusals_eq_iff hpositive (hreason h hnull) hholds (hreason h' hnull') hholds']
      exact placedAt_objection_iff h h'
    -- The kind of a whole number is told with its digits, so the messages differ as the numbers do.
    · intro m n encoded encoded' hm hn hholds hholds'
      have hm := @objection_digitBytes "a string" m hm
      have hn := @objection_digitBytes "a string" n hn
      rw [refusals_eq_iff hpositive (hreason hm fun h => absurd h (digitBytes_ne_null m)) hholds
        (hreason hn fun h => absurd h (digitBytes_ne_null n)) hholds',
        placedAt_objection_iff hm hn, wrongKind_whole_inj]
      exact and_iff_left_of_imp fun h => by rw [h]
  -- The value is a string, which is read; what refuses it is the decoder of Base64.
  · intro texts hothers v v' s s' fault fault' encoded encoded' h h' hfault hfault' hholds hholds'
    have hreason {v s fault} (h : IsStringOf s v)
        (hfault : Text.Base64.decode .urlSafe .forbidden (Text.bytes s) = .error fault) :
        RsaKey.ofJwk (front ++ (v ++ back)) = .error s!"JWK member {name}: {fault.message}" :=
      RsaKey.ofJwk_of_fault hname hframe hnone hothers h hfault
    refine ⟨ofEncodedJwk_of_reason hpositive (hreason h hfault) hholds, ?_⟩
    rw [refusals_eq_iff hpositive (hreason h hfault) hholds (hreason h' hfault') hholds',
      ← Text.Base64.Fault.message_inj]
    refine ⟨fun h => ?_, fun h => by rw [h]⟩
    have hlist := congrArg String.toList h
    simp only [String.toList_append] at hlist
    exact String.toList_injective (List.append_cancel_left hlist)

end GrantSigner

namespace Sample

open Json JsonWebKey

/-- The members of a key before its private exponent. -/
def publicMembers : List (String × List UInt8) :=
  [("kty", Text.bytes "\"RSA\""), ("n", Text.bytes "\"AQAB\""), ("e", Text.bytes "\"AQAB\"")]

/-- The members of a key behind its private exponent. -/
def factorMembers : List (String × List UInt8) :=
  [("p", Text.bytes "\"AQAB\""), ("q", Text.bytes "\"AQAB\"")]

/-- The text of a key before its private exponent. -/
def keyFront : List UInt8 :=
  Text.bytes "\x7b\"kty\":\"RSA\",\"n\":\"AQAB\",\"e\":\"AQAB\",\"d\":"

/-- The text of a key behind its private exponent. -/
def keyBack : List UInt8 :=
  Text.bytes ",\"p\":\"AQAB\",\"q\":\"AQAB\"\x7d"

theorem isStringOf_rsa : IsStringOf "RSA" (Text.bytes "\"RSA\"") :=
  .mk (.of_plain (by decide +kernel))

theorem isStringOf_aqab : IsStringOf "AQAB" (Text.bytes "\"AQAB\"") :=
  .mk (.of_plain (by decide +kernel))

theorem isFrame_key : IsFrame publicMembers "d" factorMembers keyFront keyBack := by
  have hkty : Names "kty" _ := .of_plain (by decide)
  have hn : Names "n" _ := .of_plain (by decide)
  have he : Names "e" _ := .of_plain (by decide)
  have hd : Names "d" _ := .of_plain (by decide)
  have hp : Names "p" _ := .of_plain (by decide)
  have hq : Names "q" _ := .of_plain (by decide)
  have hrsa := isStringOf_rsa.isValue
  have haqab := isStringOf_aqab.isValue
  have hlead := Lead.item .none hkty .nil hrsa
    (.item (.comma .nil) hn .nil haqab (.item (.comma .nil) he .nil haqab .nil))
  have hafter := Items.item (.comma .nil) hp .nil haqab
    (.item (.comma .nil) hq .nil haqab (.finish .nil))
  exact .mk .nil hlead (.comma .nil) hd .nil hafter .nil

theorem visited_publicMembers : Visited (recordVisit knownMembers) blankParts publicMembers
    ⟨some "RSA", some "AQAB", some "AQAB", none, none, none⟩ :=
  .cons rfl (((Reader.takes_text isStringOf_rsa).map _).map _)
    (.cons rfl (((Reader.takes_text isStringOf_aqab).map _).map _)
      (.cons rfl (((Reader.takes_text isStringOf_aqab).map _).map _) .nil))

theorem allBut_private : AllBut "d" (fun name => if name = "kty" then "RSA" else "AQAB")
    (publicMembers ++ factorMembers) where
  others := by
    intro other hother hne
    simp only [memberNames, List.mem_cons, List.not_mem_nil, or_false] at hother
    rcases hother with rfl | rfl | rfl | rfl | rfl | rfl
    · exact ⟨_, by decide, isStringOf_rsa⟩
    · exact ⟨_, by decide, isStringOf_aqab⟩
    · exact ⟨_, by decide, isStringOf_aqab⟩
    · exact absurd rfl hne
    · exact ⟨_, by decide, isStringOf_aqab⟩
    · exact ⟨_, by decide, isStringOf_aqab⟩
  kty := rfl
  numbers := by
    have hnumber : IsNumberText 65537 "AQAB" := ⟨[1, 0, 1], by decide +kernel, by decide⟩
    intro other hother
    have hnames : other = "n" ∨ other = "e" := by simpa [numberNames] using hother
    rcases hnames with rfl | rfl <;> exact ⟨_, hnumber⟩

/-- The outcome for a text that is handed over without padding. -/
def refusal (json : List UInt8) : Except SetupFault GrantSigner :=
  GrantSigner.ofEncodedJwk signer.clientId signer.keyId signer.audience
    ⟨Text.Base64.encode .standard json⟩ signer.lifetime

/-- Of a number for the private exponent it is told which one it is, of a list just that it is one,
and of a string what the first wrong byte is. -/
theorem refusals_of_key :
    ∃ front back, keyFront ++ (digitBytes 123 ++ keyBack) = front ++ (digitBytes 123 ++ back) ∧
      (∀ n ≤ maxWhole, refusal (front ++ (digitBytes 123 ++ back)) =
        refusal (front ++ (digitBytes n ++ back)) ↔ 123 = n) ∧
      refusal (front ++ (Text.bytes "[1]" ++ back)) =
        refusal (front ++ (Text.bytes "[2]" ++ back)) ∧
      refusal (front ++ (Text.bytes "\"A!AA\"" ++ back)) ≠
        refusal (front ++ (Text.bytes "\"A?AA\"" ++ back)) := by
  have hobject : IsObject (publicMembers ++ ("d", digitBytes 123) :: factorMembers)
      (keyFront ++ (digitBytes 123 ++ keyBack)) :=
    isFrame_key.isObject (.number (isNumber_digitBytes (by decide)))
  obtain ⟨front, back, htext, -, -, hkinds, hstrings⟩ :=
    GrantSigner.refusal_of_private_member signer.clientId signer.keyId signer.audience
      signer.lifetime (by decide) (by decide) hobject (by decide)
  obtain ⟨hsaid, hnumbers⟩ := hkinds _ visited_publicMembers
  have hlist {n : Nat} {v : List UInt8} (hn : n ≤ maxWhole)
      (hv : v = 0x5B :: (digitBytes n ++ [0x5D])) :
      Objection "a string" v (wrongKind .list "a string") 0 := by
    have hnumber : IsValue (digitBytes n) := .number (isNumber_digitBytes hn)
    have hvalue : IsValue (Bracket.list.opening :: _) :=
      .bracket (.item .none .none .nil hnumber (.finish .nil))
    rw [hv]
    simpa [Bracket.opening, Bracket.closing, Bracket.found] using Objection.bracket hvalue
  have hone : Objection "a string" (Text.bytes "[1]") _ _ :=
    hlist (n := 1) (by decide) (by decide)
  have htwo : Objection "a string" (Text.bytes "[2]") _ _ :=
    hlist (n := 2) (by decide) (by decide)
  refine ⟨front, back, htext, fun n hn => ?_, ?_, ?_⟩
  -- Numbers: each one has its own message.
  · exact hnumbers 123 n _ _ (by decide) hn (Secret.holds_encode _) (Secret.holds_encode _)
  -- Lists: they are told apart by nothing.
  · exact (hsaid _ _ _ _ _ _ _ _ hone htwo (fun h => absurd h (by decide))
      (fun h => absurd h (by decide))
      (Secret.holds_encode _) (Secret.holds_encode _)).2.mpr ⟨rfl, rfl⟩
  -- Texts that are no Base64: the byte that does not belong is told.
  · intro h
    have hsame := (hstrings _ allBut_private _ _ "A!AA" "A?AA" (.symbol 1 0x21) (.symbol 1 0x3F) _ _
      (.mk (.of_plain (by decide +kernel))) (.mk (.of_plain (by decide +kernel)))
      (by decide +kernel) (by decide +kernel) (Secret.holds_encode _)
      (Secret.holds_encode _)).2.mp h
    cases hsame

/-- Two keys that are refused for a number in the same private member, as long as the other, are
not told alike. -/
theorem private_numbers_are_told :
    ¬∀ clientId keyId audience lifetime name before after front back v v' encoded encoded' reason
        reason',
      name ∈ privateMembers →
      IsObject (before ++ (name, v) :: after) (front ++ (v ++ back)) →
      IsObject (before ++ (name, v') :: after) (front ++ (v' ++ back)) →
      IsNumber v → IsNumber v' → v.length = v'.length →
      (∃ fault, reader.parse (front ++ (v ++ back)) = .error fault ∧
        fault.path = [.member name]) →
      (∃ fault, reader.parse (front ++ (v' ++ back)) = .error fault ∧
        fault.path = [.member name]) →
      Secret.Holds encoded (front ++ (v ++ back)) → Secret.Holds encoded' (front ++ (v' ++ back)) →
      GrantSigner.ofEncodedJwk clientId keyId audience encoded lifetime =
        .error (.keyMaterial reason) →
      GrantSigner.ofEncodedJwk clientId keyId audience encoded' lifetime =
        .error (.keyMaterial reason') →
      reason = reason' := by
  -- With the same frame and two numbers the theorem gives different texts.
  intro h
  have hprivate : "d" ∈ privateMembers := by decide
  have hfirst := @objection_digitBytes "a string" 123 (by decide)
  have hsecond := @objection_digitBytes "a string" 456 (by decide)
  have hobject {n : Nat} (hn : n ≤ maxWhole) :=
    isFrame_key.isObject (.number (isNumber_digitBytes hn))
  have hfault {v said size} (h : Objection "a string" v said size) :
      ∃ fault, reader.parse (keyFront ++ (v ++ keyBack)) = .error fault ∧
        fault.path = [.member "d"] := by
    obtain ⟨fault, hparse, hpath, -⟩ := parse_of_objection hprivate isFrame_key (by decide)
      visited_publicMembers h fun _ => rfl
    exact ⟨fault, hparse, hpath⟩
  have hreason {v said size} (h : Objection "a string" v said size) :
      refusal (keyFront ++ (v ++ keyBack)) =
        .error (.keyMaterial (placedAt said (keyFront ++ v.take size))) := by
    refine GrantSigner.ofEncodedJwk_of_reason (by decide) ?_ (Secret.holds_encode _)
    exact RsaKey.ofJwk_of_objection hprivate isFrame_key (by decide) visited_publicMembers h
      fun _ => rfl
  have hsame := h signer.clientId signer.keyId signer.audience signer.lifetime "d" publicMembers
    factorMembers keyFront keyBack (digitBytes 123) (digitBytes 456) _ _ _ _ hprivate
    (hobject (by decide)) (hobject (by decide)) (isNumber_digitBytes (by decide))
    (isNumber_digitBytes (by decide)) (by decide) (hfault hfirst) (hfault hsecond)
    (Secret.holds_encode _) (Secret.holds_encode _) (hreason hfirst) (hreason hsecond)
  have hsaid := ((placedAt_objection_iff hfirst hsecond).mp hsame).1
  cases wrongKind_whole_inj.mp hsaid

end Sample

end BearerCache
