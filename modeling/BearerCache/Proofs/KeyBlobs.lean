import BearerCache.Proofs.KeyMembers

/-! # What a key is handed over as

A key is handed over as the Base64 form of a JSON Web Key.  Padding and blanks around it make no
difference: what is looked at are the bytes whose form it is.  Of these, in turn, only the numbers
that are written there count, so all texts of the same numbers are the same key.

## Main definitions

- `Secret.Holds`: the bytes that a secret is the Base64 form of
- `GrantSigner.ofJwk`: the signer that is made of a JSON Web Key

## Key results

- `Text.Base64.decode_encodePadded`: bytes are read back from their padded form
- `Text.trim_append`: what is left of a text with blanks around it
- `GrantSigner.ofEncodedJwk_canonical`: the signers that are made of encoded keys
-/

namespace BearerCache

namespace Text

namespace Base64

variable {alphabet : Alphabet}

/-! ## Padding -/

/-- Padding is passed over behind the first two symbols of a group. -/
theorem lastValues_padding {index : Nat} (h : 2 ≤ index) (offset pads count : Nat) :
    lastValues alphabet offset index pads (List.replicate count 0x3D) = .ok ([], pads + count) := by
  induction count generalizing index pads with
  | zero => rfl
  | succ count ih =>
    rw [List.replicate_succ, lastValues, if_pos rfl, if_neg (Nat.not_lt.mpr h), ih (by omega),
      Nat.add_assoc, Nat.add_comm 1]

/-- Symbols are read as their numbers, and the padding behind them is counted. -/
theorem lastValues_padded {numbers : List Nat} (h : ∀ n ∈ numbers, n < 64) {index : Nat}
    (hindex : 2 ≤ index + numbers.length) (offset count : Nat) :
    lastValues alphabet offset index 0
      (numbers.map (symbol alphabet) ++ List.replicate count 0x3D) = .ok (numbers, count) := by
  -- On the symbols; from the second place on the padding is allowed.
  induction numbers generalizing index with
  | nil =>
    rw [List.length_nil, Nat.add_zero] at hindex
    rw [List.map_nil, List.nil_append, lastValues_padding hindex, Nat.zero_add]
  | cons n rest ih =>
    obtain ⟨hn, hrest⟩ := List.forall_mem_cons.mp h
    rw [List.length_cons] at hindex
    rw [List.map_cons, List.cons_append, lastValues, if_neg (symbol_ne_padding hn),
      if_neg (Nat.lt_irrefl 0), valueAt_symbol hn, ih hrest (by omega)]
    rfl

theorem lastGroup_two_padded {x y : Nat} (hx : x < 64) (hy : y < 64) (hrest : y % 16 = 0)
    (offset : Nat) :
    lastGroup alphabet .indifferent offset [symbol alphabet x, symbol alphabet y, 0x3D, 0x3D] =
      .ok [UInt8.ofNat (x * 4 + y / 16)] := by
  have hvalues := @lastValues_padded alphabet [x, y] (by simp [hx, hy]) 0 (by simp) offset 2
  simp only [List.map_cons, List.map_nil, List.cons_append, List.nil_append,
    List.replicate_succ, List.replicate_zero] at hvalues
  simp [lastGroup, hvalues, hrest, bind, Except.bind, pure, Except.pure]

theorem lastGroup_three_padded {x y z : Nat} (hx : x < 64) (hy : y < 64) (hz : z < 64)
    (hrest : z % 4 = 0) (offset : Nat) :
    lastGroup alphabet .indifferent offset
        [symbol alphabet x, symbol alphabet y, symbol alphabet z, 0x3D] =
      .ok [UInt8.ofNat (x * 4 + y / 16), UInt8.ofNat (y % 16 * 16 + z / 4)] := by
  have hvalues := @lastValues_padded alphabet [x, y, z] (by simp [hx, hy, hz]) 0 (by simp) offset 1
  simp only [List.map_cons, List.map_nil, List.cons_append, List.nil_append,
    List.replicate_succ, List.replicate_zero] at hvalues
  simp [lastGroup, hvalues, hrest, bind, Except.bind, pure, Except.pure]

/-- Three bytes more need the same padding. -/
theorem paddingFor_add_three (size : Nat) : paddingFor (size + 3) = paddingFor size := by
  rw [paddingFor, Nat.add_mod_right, paddingFor]

/-- Padding makes no difference to what is read of the symbols of some bytes. -/
theorem groups_padded (bs : List UInt8) (offset : Nat) :
    groups alphabet .indifferent offset (symbols alphabet bs ++ paddingFor bs.length) =
      groups alphabet .indifferent offset (symbols alphabet bs) := by
  -- Along the groups of the symbols: only the last one, of two or three symbols, is padded.
  fun_induction symbols alphabet bs generalizing offset with
  | case1 => rfl
  | case2 a =>
    have ha := a.toNat_lt
    have hx : a.toNat / 4 < 64 := by omega
    have hy : a.toNat % 4 * 16 < 64 := by omega
    have hrest : a.toNat % 4 * 16 % 16 = 0 := by omega
    exact (lastGroup_two_padded hx hy hrest offset).trans (lastGroup_two hx hy hrest offset).symm
  | case3 a b =>
    have ha := a.toNat_lt
    have hb := b.toNat_lt
    have hx : a.toNat / 4 < 64 := by omega
    have hy : a.toNat % 4 * 16 + b.toNat / 16 < 64 := by omega
    have hz : b.toNat % 16 * 4 < 64 := by omega
    have hrest : b.toNat % 16 * 4 % 4 = 0 := by omega
    exact (lastGroup_three_padded hx hy hz hrest offset).trans
      (lastGroup_three hx hy hz hrest offset).symm
  | case4 a b c rest ih =>
    have ha := a.toNat_lt
    have hb := b.toNat_lt
    have hc := c.toNat_lt
    have hx : a.toNat / 4 < 64 := by omega
    have hy : a.toNat % 4 * 16 + b.toNat / 16 < 64 := by omega
    have hz : b.toNat % 16 * 4 + c.toNat / 64 < 64 := by omega
    have hw : c.toNat % 64 < 64 := by omega
    simp only [List.length_cons, paddingFor_add_three, List.cons_append]
    by_cases hrest : symbols alphabet rest = []
    · -- Nothing follows, so this group is the last one and it is complete.
      have hnil : rest = [] := by
        have hread := @groups_symbols alphabet .indifferent rest 0
        rw [hrest, groups, lastGroup_nil] at hread
        · exact (Except.ok.inj hread).symm
        · rintro _ _ _ _ _ _ ⟨⟩
      subst hnil
      rfl
    · have hread := @groups_symbols alphabet .indifferent rest (offset + 4)
      rw [groups_four hx hy hz hw (fun h => hrest (List.append_eq_nil_iff.mp h).1)
          ((ih (offset + 4)).trans hread), groups_four hx hy hz hw hrest hread]

/-- The bytes of a padded form are its symbols and the padding. -/
theorem bytes_encodePadded (alphabet : Alphabet) (bs : List UInt8) :
    bytes (encodePadded alphabet bs) = symbols alphabet bs ++ paddingFor bs.length := by
  refine bytes_ofList_map fun b hb => ?_
  rcases List.mem_append.mp hb with hmem | hmem
  · exact symbols_lt b hmem
  · rw [List.eq_of_mem_replicate hmem]
    decide

/-- No blank is in a padded form. -/
theorem not_blank_encodePadded (alphabet : Alphabet) (bs : List UInt8) :
    ∀ c ∈ (encodePadded alphabet bs).toList, isBlank c = false := by
  have hsymbol : ∀ n : Fin 64, isBlank (Char.ofNat (symbol alphabet n.val).toNat) = false := by
    cases alphabet <;> decide
  -- The characters are symbols and padding signs, and none of these is a blank.
  intro c hc
  have hchars : (encodePadded alphabet bs).toList =
      (symbols alphabet bs ++ paddingFor bs.length).map fun b => Char.ofNat b.toNat :=
    String.toList_ofList
  rw [hchars] at hc
  obtain ⟨b, hb, rfl⟩ := List.mem_map.mp hc
  rcases List.mem_append.mp hb with hmem | hmem
  · obtain ⟨n, hn, rfl⟩ := exists_symbol_of_mem b hmem
    exact hsymbol ⟨n, hn⟩
  · rw [List.eq_of_mem_replicate hmem]
    decide

/-- Bytes are read back from their padded form. -/
theorem decode_encodePadded (alphabet : Alphabet) (bs : List UInt8) :
    decode alphabet .indifferent (bytes (encodePadded alphabet bs)) = .ok bs := by
  rw [bytes_encodePadded, decode]
  have hgroups := (groups_padded bs 0).trans (@groups_symbols alphabet .indifferent bs 0)
  split
  -- The last byte is a symbol or the padding sign, so it does not make the text invalid.
  next last hlast =>
    rw [if_neg, hgroups]
    rintro ⟨-, hpad, hnone⟩
    rcases List.mem_append.mp (List.mem_of_getLast? hlast) with hmem | hmem
    · obtain ⟨n, hn, rfl⟩ := exists_symbol_of_mem last hmem
      rw [value?_symbol_of_lt hn] at hnone
      cases hnone
    · exact hpad (List.eq_of_mem_replicate hmem)
  next => exact hgroups

end Base64

/-! ## Blanks around a text -/

/-- Of a text with blanks around it and none inside, the text is left. -/
theorem trim_append {front s back : String} (hfront : isAllBlank front) (hback : isAllBlank back)
    (hs : ∀ c ∈ s.toList, isBlank c = false) : trim (front ++ s ++ back) = s := by
  have hfront : ∀ c ∈ front.toList, isBlank c := List.all_eq_true.mp hfront
  have hback : ∀ c ∈ back.toList, isBlank c := List.all_eq_true.mp hback
  have hchars : trimChars (front.toList ++ (s.toList ++ back.toList)) = s.toList := by
    rw [trimChars, List.dropWhile_append_of_pos hfront]
    -- What is left begins with a character that is no blank, or is empty.
    cases hempty : s.toList with
    | nil =>
      rw [List.nil_append, List.dropWhile_eq_nil_iff.mpr hback]
      rfl
    | cons c cs =>
      rw [hempty] at hs
      have hfirst : ¬isBlank c := Bool.eq_false_iff.mp (hs c List.mem_cons_self)
      rw [List.cons_append, List.dropWhile_cons_of_neg hfirst, ← List.cons_append,
        List.reverse_append,
        List.dropWhile_append_of_pos fun c hc => hback c (List.mem_reverse.mp hc)]
      -- No blank is among the characters that are left.
      have hlast : (c :: cs).reverse.dropWhile isBlank = (c :: cs).reverse :=
        List.dropWhile_eq_self_iff.mpr fun hlen => by
          rw [hs _ (List.mem_reverse.mp (List.getElem_mem hlen))]
          exact Bool.false_ne_true
      rw [hlast, List.reverse_reverse]
  rw [trim, String.toList_append, String.toList_append, List.append_assoc, hchars,
    String.ofList_toList]

end Text

/-! ## What is handed over -/

/-- The bytes that a secret is the Base64 form of, with or without padding and blanks around it. -/
def Secret.Holds (encoded : Secret) (bytes : List UInt8) : Prop :=
  Text.Base64.decode .standard .indifferent (Text.bytes (Text.trim encoded.expose)) = .ok bytes

/-- A padded Base64 form with blanks around it holds the bytes. -/
theorem Secret.holds_encodePadded {front back : String} (hfront : Text.isAllBlank front)
    (hback : Text.isAllBlank back) (bytes : List UInt8) :
    Holds ⟨front ++ Text.Base64.encodePadded .standard bytes ++ back⟩ bytes := by
  rw [Holds, Secret.expose, Text.trim_append hfront hback
    (Text.Base64.not_blank_encodePadded _ _), Text.Base64.decode_encodePadded]

/-- A Base64 form without padding holds the bytes. -/
theorem Secret.holds_encode (bytes : List UInt8) :
    Holds ⟨Text.Base64.encode .standard bytes⟩ bytes := by
  rw [Holds, Secret.expose, Text.Base64.trim_encode, Text.Base64.decode_encode]

/-- What is made of a secret is what is made of the JSON text that it holds. -/
theorem RsaKey.ofEncodedJwk_of_holds {encoded : Secret} {json : List UInt8}
    (h : encoded.Holds json) : ofEncodedJwk encoded = ofJwk json := by
  rw [ofEncodedJwk_eq, h]

namespace GrantSigner

/-- The signer of a client whose key is a JSON Web Key in JSON text. -/
def ofJwk (clientId : Identifier .client) (keyId : Identifier .key) (audience : String)
    (json : List UInt8) (lifetime : Span) : Except SetupFault GrantSigner :=
  if lifetime.isPositive then
    match RsaKey.ofJwk json with
    | .error reason => .error (.keyMaterial reason)
    | .ok key => .ok ⟨clientId, keyId, audience, lifetime, key⟩
  else .error (.nonPositive "assertion_lifetime")

variable {clientId : Identifier .client} {keyId : Identifier .key} {audience : String}
variable {json : List UInt8} {lifetime : Span}

theorem ofEncodedJwk_of_holds {encoded : Secret} (h : encoded.Holds json) :
    ofEncodedJwk clientId keyId audience encoded lifetime =
      ofJwk clientId keyId audience json lifetime := by
  rw [ofEncodedJwk, RsaKey.ofEncodedJwk_of_holds h]
  rfl

/-- The signers that are made of encoded keys.  Padding and blanks around the Base64 form of some
bytes make no difference: what is made of it is what is made of the bytes as a JSON Web Key.  Of
these a key is made if its numbers are written there and have no fault, and the same signer is made
of all that hold the same numbers, so that all of them sign alike.  It makes no difference to a
number how many zeros are in front of it, nor to the members in what order they stand and which
others stand among them. -/
theorem ofEncodedJwk_canonical (clientId : Identifier .client) (keyId : Identifier .key)
    (audience : String) (lifetime : Span) :
    (∀ front back json, Text.isAllBlank front → Text.isAllBlank back →
      ofEncodedJwk clientId keyId audience
          ⟨front ++ Text.Base64.encodePadded .standard json ++ back⟩ lifetime =
        ofJwk clientId keyId audience json lifetime ∧
      ofEncodedJwk clientId keyId audience ⟨Text.Base64.encode .standard json⟩ lifetime =
        ofJwk clientId keyId audience json lifetime) ∧
    (∀ json key, RsaKey.ofJwk json = .ok key ↔ key.IsWrittenIn json ∧ key.fault? = none) ∧
    (∀ encoded encoded' json json' key, Secret.Holds encoded json → Secret.Holds encoded' json' →
      RsaKey.IsWrittenIn key json → key.IsWrittenIn json' →
      ofEncodedJwk clientId keyId audience encoded lifetime =
        ofEncodedJwk clientId keyId audience encoded' lifetime ∧
      ∀ signer, ofEncodedJwk clientId keyId audience encoded lifetime = .ok signer →
        signer.key = key) ∧
    (∀ n zeros bytes,
      JsonWebKey.IsNumberText n
          (Text.Base64.encode .urlSafe (List.replicate zeros 0 ++ bytes)) ↔
        JsonWebKey.IsNumberText n (Text.Base64.encode .urlSafe bytes)) ∧
    (∀ texts members members' others, JsonWebKey.HasMembers texts members →
      members'.Perm (members ++ others) →
      (∀ item ∈ others, item.1 ∉ JsonWebKey.memberNames) →
      JsonWebKey.HasMembers texts members') := by
  refine ⟨fun front back json hfront hback => ⟨?_, ?_⟩, fun json key => RsaKey.ofJwk_eq_ok_iff, ?_,
    fun n zeros bytes => JsonWebKey.isNumberText_replicate_append zeros,
    fun texts members members' others => JsonWebKey.HasMembers.of_perm⟩
  · exact ofEncodedJwk_of_holds (Secret.holds_encodePadded hfront hback json)
  · exact ofEncodedJwk_of_holds (Secret.holds_encode json)
  -- Both texts hold the same key, and the rest of the check looks at nothing else.
  · intro encoded encoded' json json' key hholds hholds' hwritten hwritten'
    rw [ofEncodedJwk_of_holds hholds, ofEncodedJwk_of_holds hholds', ofJwk, ofJwk,
      RsaKey.ofJwk_of_isWrittenIn hwritten, RsaKey.ofJwk_of_isWrittenIn hwritten']
    refine ⟨rfl, fun signer hsigner => ?_⟩
    split at hsigner
    next =>
      split at hsigner
      next => cases hsigner
      next key' hchecked =>
        cases hsigner
        exact (RsaKey.checked_eq_ok_iff.mp hchecked).1.symm
    next => cases hsigner

end GrantSigner

namespace Sample

/-- A key of two small primes. -/
def smallKey : RsaKey := ⟨77, 7, 43, 11, 7⟩

/-- The small key as a JSON Web Key. -/
def smallJwk : List UInt8 :=
  Text.bytes ("\x7b\"kty\":\"RSA\",\"n\":\"TQ\",\"e\":\"Bw\"," ++
    "\"d\":\"Kw\",\"p\":\"Cw\",\"q\":\"Bw\"\x7d")

/-- The small key in another order and with zeros in front of two numbers. -/
def otherJwk : List UInt8 :=
  Text.bytes ("\x7b\"q\":\"AAc\",\"p\":\"Cw\",\"d\":\"Kw\"," ++
    "\"e\":\"Bw\",\"n\":\"AABN\",\"kty\":\"RSA\"\x7d")

/-- The same signer is made of the one with padding and line feeds around it and of the other
without. -/
theorem same_signer_of_smallKey :
    ∃ made : GrantSigner, made.key = smallKey ∧
      GrantSigner.ofEncodedJwk signer.clientId signer.keyId signer.audience
        ⟨"\n" ++ Text.Base64.encodePadded .standard smallJwk ++ "\r\n"⟩ signer.lifetime = .ok made ∧
      GrantSigner.ofEncodedJwk signer.clientId signer.keyId signer.audience
        ⟨Text.Base64.encode .standard otherJwk⟩ signer.lifetime = .ok made := by
  obtain ⟨hblanks, hkeys, hsame, -⟩ := GrantSigner.ofEncodedJwk_canonical signer.clientId
    signer.keyId signer.audience signer.lifetime
  have hread : RsaKey.ofJwk smallJwk = .ok smallKey := by decide +kernel
  have hread' : RsaKey.ofJwk otherJwk = .ok smallKey := by decide +kernel
  have hpadded := (hblanks "\n" "\r\n" smallJwk (by decide) (by decide)).1
  -- The two texts differ in their padding, blanks, members and their order, but have the same key.
  obtain ⟨hequal, hkey⟩ := hsame
    ⟨"\n" ++ Text.Base64.encodePadded .standard smallJwk ++ "\r\n"⟩
    ⟨Text.Base64.encode .standard otherJwk⟩ smallJwk otherJwk smallKey
    (Secret.holds_encodePadded (by decide) (by decide) _) (Secret.holds_encode _)
    ((hkeys _ _).mp hread).1 ((hkeys _ _).mp hread').1
  have hmade : GrantSigner.ofJwk signer.clientId signer.keyId signer.audience smallJwk
      signer.lifetime = .ok { signer with key := smallKey } := by
    rw [GrantSigner.ofJwk, if_pos (by decide), hread]
  rw [hmade] at hpadded
  exact ⟨{ signer with key := smallKey }, rfl, hpadded, hequal ▸ hpadded⟩

end Sample

end BearerCache
