import BearerCache.Proofs.DomainText
import BearerCache.Proofs.FormEncoding
import BearerCache.Proofs.HostNumbers
import BearerCache.Proofs.TextParts
import BearerCache.Url.Parser

/-! # Hosts are read back

The text of a host that has been read has none of the characters that end the part of an address
in which it stands, and it is read as that host again: numbers are read from their digits, and a
name is brought to itself.  Only a name with a Punycode that is too long is not (`Host.isShort`).

## Key results

- `Host.isHostText_write`: the text of a host stands for a host in an address
- `Host.ofText_write`, `Host.ofText_write_of_long`: hosts are read back just if they are short
-/

namespace BearerCache.Url

/-! ## Names -/

/-- Where there is no percent sign there is no escape. -/
theorem unescape_of_not_mem {bs : List UInt8} (h : 0x25 ∉ bs) : unescape bs = bs := by
  induction bs with
  | nil => rfl
  | cons b bs ih =>
    rw [List.mem_cons, not_or] at h
    rw [unescape, ih h.2]
    exact fun _ _ _ hb _ => h.1 hb.symm

namespace Domain

/-- A name without percent signs is brought to ASCII from its bytes. -/
theorem toAscii?_of_not_mem {cs : List Char} (hpercent : '%' ∉ cs) :
    toAscii? (unescape (Text.bytes (String.ofList cs))) = (ascii? cs).map String.ofList := by
  have hplain : 0x25 ∉ Text.bytes (String.ofList cs) := by
    rw [Text.bytes_ofList]
    intro hb
    obtain ⟨c, hc, hcode⟩ := Text.exists_of_mem_flatMap_encodeChar (by decide) hb
    have hsame : c = '%' := Char.toNat_inj.mp hcode
    exact hpercent (hsame ▸ hc)
  rw [unescape_of_not_mem hplain, toAscii?, Text.ofBytes?_bytes]
  simp only [Option.bind_eq_bind, Option.bind_some, Option.pure_def, String.toList_ofList,
    Option.map_eq_bind, Function.comp_def]

/-- The text of a version four address is a name that is brought to itself. -/
theorem ascii?_ipv4Text (n : Nat) : ascii? (ipv4Text n).toList = some (ipv4Text n).toList := by
  -- Nothing about the text is used but its characters, digits and points.
  have hascii : ∀ c ∈ (ipv4Text n).toList, c.toNat < 0x80 :=
    forall_mem_ipv4Text (by decide) (by decide) n
  have hlower : ∀ c ∈ (ipv4Text n).toList, c.toLower = c :=
    forall_mem_ipv4Text (by decide) (by decide) n
  have hplain : ∀ c ∈ (ipv4Text n).toList, isReserved c = false :=
    forall_mem_ipv4Text (by decide) (by decide) n
  have hstays : ∀ c ∈ (ipv4Text n).toList, Text.turnsText c = false :=
    forall_mem_ipv4Text (by decide) (by decide) n
  have hletter : ∀ c ∈ (ipv4Text n).toList, c ≠ 'x' :=
    forall_mem_ipv4Text (by decide) (by decide) n
  have hin {label : List Char} (hlabel : label ∈ labels (ipv4Text n).toList) {c : Char}
      (hc : c ∈ label) : c ∈ (ipv4Text n).toList := Text.mem_of_mem_splitOnP hlabel hc
  have hnarrow {label : List Char} (hlabel : label ∈ labels (ipv4Text n).toList) :
      isWide label = false := by
    refine List.any_eq_false.mpr fun c hc hle => ?_
    exact absurd (of_decide_eq_true hle) (Nat.not_le.mpr (hascii c (hin hlabel hc)))
  have hsame : (labels (ipv4Text n).toList).map ofMeaning = labels (ipv4Text n).toList :=
    (List.map_congr_left fun label hlabel => by
      rw [ofMeaning, hnarrow hlabel, if_neg Bool.false_ne_true, id_eq]).trans (List.map_id _)
  have hread := read?_of_ascii hascii hlower hplain
  have hmeanings : (labels (ipv4Text n).toList).mapM meaning? =
      some (labels (ipv4Text n).toList) := by
    -- No label has Punycode, so each means itself.
    refine mapM_eq_some_iff.mpr (List.forall₂_same.mpr fun label hlabel => ?_)
    unfold meaning?
    split
    next => exact absurd rfl (hletter 'x' (hin hlabel List.mem_cons_self))
    next => rfl
  refine ascii?_of_read? hread hmeanings ?_ ?_
  · have hwide : (labels (ipv4Text n).toList).filter isWide = [] :=
      List.filter_eq_nil_iff.mpr fun label hlabel => by simp [hnarrow hlabel]
    have hturns : (labels (ipv4Text n).toList).any (·.any Text.turnsText) = false :=
      List.any_eq_false.mpr fun label hlabel => by
        simpa using fun c hc => hstays c (hin hlabel hc)
    rw [areWellFormed, hwide, hturns]
    rfl
  · rw [hsame, labels_ipv4Text, toList_ipv4Text]

end Domain

/-! ## Hosts -/

/-- Whether a character may follow the user in an address without ending what it is in. -/
def isInner (c : Char) : Bool :=
  0x20 < c.toNat && !isSlash true c && !endsPath c && c != '@'

/-- A text that stands for a host in an address: no character of it ends the part of the address
that it is in, and a colon is in it only between brackets. -/
structure IsHostText (cs : List Char) : Prop where
  nonempty : cs ≠ []
  inner : ∀ c ∈ cs, isInner c
  hostChars : hostChars false cs = cs
  hostChars_colon : ∀ rest, Url.hostChars false (cs ++ ':' :: rest) = cs

/-- Without colons and brackets all is of the host, up to a colon that follows. -/
theorem hostChars_append {cs : List Char} (h : ∀ c ∈ cs, c ≠ ':' ∧ c ≠ '[') (rest : List Char) :
    hostChars false (cs ++ rest) = cs ++ hostChars false rest := by
  -- On the text, none of whose characters ends the host.
  induction cs with
  | nil => rfl
  | cons c cs ih =>
    obtain ⟨⟨hcolon, hbracket⟩, hrest⟩ := List.forall_mem_cons.mp h
    rw [List.cons_append, hostChars, if_neg fun hc => hcolon hc.1, beq_false_of_ne hbracket,
      Bool.false_or, Bool.false_and, ih hrest, List.cons_append]

/-- A text of characters that are not reserved stands for a host, if it is not empty. -/
theorem isHostText_of_plain {cs : List Char} (hne : cs ≠ [])
    (h : ∀ c ∈ cs, Domain.isReserved c = false) : IsHostText cs := by
  -- A reserved character is none of those that have a meaning in the written address.
  have hmarks : ∀ d ∈ ['/', '\\', '?', '#', '@', ':', '['], Domain.isReserved d = true :=
    List.all_iff_forall_prop.mp (by decide)
  have hnot : ∀ c ∈ cs, ∀ d ∈ ['/', '\\', '?', '#', '@', ':', '['], c ≠ d := by
    rintro c hc d hd rfl
    exact absurd ((h c hc).symm.trans (hmarks c hd)) Bool.false_ne_true
  have hfree : ∀ c ∈ cs, c ≠ ':' ∧ c ≠ '[' := fun c hc =>
    ⟨hnot c hc ':' (by decide), hnot c hc '[' (by decide)⟩
  refine ⟨hne, fun c hc => ?_, ?_, fun rest => ?_⟩
  · have hlow := h c hc
    simp only [Domain.isReserved, Bool.or_eq_false_iff, decide_eq_false_iff_not] at hlow
    simp [isInner, isSlash, endsPath, Nat.not_le.mp hlow.1.1, hnot c hc]
  · have hall := hostChars_append hfree []
    rwa [hostChars, List.append_nil] at hall
  · rw [hostChars_append hfree, hostChars, if_pos ⟨rfl, rfl⟩, List.append_nil]

/-- Brackets keep the colons between them. -/
theorem hostChars_brackets {cs : List Char} (h : ']' ∉ cs) (rest : List Char) :
    hostChars true (cs ++ ']' :: rest) = cs ++ ']' :: hostChars false rest := by
  -- On the text inside the brackets, where only the closing one counts.
  induction cs with
  | nil => simp [hostChars]
  | cons c cs ih =>
    rw [List.mem_cons, not_or] at h
    have hstays : (c == '[' || (true && c != ']')) = true := by
      rw [Bool.true_and, bne_iff_ne.mpr fun hc => h.1 hc.symm, Bool.or_true]
    rw [List.cons_append, hostChars, if_neg (by simp), hstays, ih h.2, List.cons_append]

namespace Host

/-- Whether no label of a host has a Punycode that is too long to be read. -/
def isShort : Host → Bool
  | domain name => (Domain.labels name.toList).all Domain.isShort
  | _ => true

theorem toList_write_ipv6 (pieces : List Nat) :
    (ipv6 pieces).write.toList = '[' :: ((ipv6Text pieces).toList ++ [']']) := by
  have hopen : "[".toList = ['['] := by decide
  have hclose : "]".toList = [']'] := by decide
  rw [write, String.toList_append, String.toList_append, hopen, hclose, List.append_assoc,
    List.singleton_append]

/-- What a host is that has been read. -/
theorem ofText_cases {cs : List Char} {host : Host} (h : ofText cs = .ok host) :
    (∃ pieces, IsIpv6 pieces ∧ host = .ipv6 pieces) ∨
      (∃ n < Nat.pow 256 4, host = .ipv4 n) ∨
      ∃ text name, Domain.ascii? text = some name.toList ∧ name ≠ "" ∧
        endsInNumber name.toList = false ∧ host = .domain name := by
  -- The cases follow the reader: brackets hold an IPv6 address, and a name that ends in a number is
  -- an IPv4 address or nothing.
  unfold ofText at h
  split at h
  next =>
    unfold bracketed at h
    split at h
    next =>
      split at h
      next pieces hpieces =>
        cases h
        exact .inl ⟨pieces, isIpv6_of_ipv6? hpieces, rfl⟩
      next => cases h
    next => cases h
  next =>
    split at h
    next => cases h
    next => cases h
    next name hne hname =>
      simp only [Domain.toAscii?, Option.bind_eq_bind, Option.pure_def, Option.bind_eq_some_iff,
        Option.some.injEq] at hname
      obtain ⟨text, -, ascii, hascii, rfl⟩ := hname
      rw [← String.toList_ofList (l := ascii)] at hascii
      split at h
      next =>
        split at h
        next n hn =>
          cases h
          rw [ipv4?, Option.bind_eq_some_iff] at hn
          obtain ⟨numbers, -, hnumbers⟩ := hn
          exact .inr (.inl ⟨n, ipv4OfNumbers?_lt hnumbers, rfl⟩)
        next => cases h
      next hnumber =>
        cases h
        exact .inr (.inr ⟨_, _, hascii, hne, Bool.eq_false_iff.mpr hnumber, rfl⟩)

/-- The name of a host that has been read is not empty. -/
theorem ne_empty_of_ofText {cs : List Char} {host : Host} (h : ofText cs = .ok host) :
    host ≠ .domain "" := by
  rintro rfl
  rcases ofText_cases h with ⟨_, _, heq⟩ | ⟨_, _, heq⟩ | ⟨_, name, _, hne, _, heq⟩
  · cases heq
  · cases heq
  · cases heq
    exact hne rfl

/-- A name that is brought to ASCII is a host: a number, if it ends in one. -/
theorem ofText_of_ascii? {cs : List Char} {name : String} (hpercent : '%' ∉ cs)
    (hbracket : '[' ∉ cs) (h : Domain.ascii? cs = some name.toList) (hne : name ≠ "") :
    ofText cs =
      if endsInNumber name.toList then
        match ipv4? name.toList with
        | some n => .ok (.ipv4 n)
        | none => .error .invalidIpv4
      else .ok (.domain name) := by
  unfold ofText
  split
  next => exact absurd List.mem_cons_self hbracket
  -- The name has no per cent sign in it, so it is read as it stands.
  next =>
    rw [Domain.toAscii?_of_not_mem hpercent, h, Option.map_some, String.ofList_toList]
    split
    next hnone => cases hnone
    next hempty => exact absurd (Option.some.inj hempty) hne
    next hname =>
      cases hname
      rfl

/-- A name that is not brought to ASCII is no host. -/
theorem ofText_of_ascii?_none {cs : List Char} (hpercent : '%' ∉ cs) (hbracket : '[' ∉ cs)
    (h : Domain.ascii? cs = none) : ofText cs = .error .invalidDomain := by
  unfold ofText
  split
  next => exact absurd List.mem_cons_self hbracket
  next =>
    rw [Domain.toAscii?_of_not_mem hpercent, h]
    rfl

/-- The text of a host that has been read stands for a host. -/
theorem isHostText_write {cs : List Char} {host : Host} (h : ofText cs = .ok host) :
    IsHostText host.write.toList := by
  -- The three kinds of hosts are written in their own ways, and only brackets let colons be.
  rcases ofText_cases h with ⟨pieces, -, rfl⟩ | ⟨n, -, rfl⟩ | ⟨text, name, hascii, hne, -, rfl⟩
  · rw [toList_write_ipv6]
    have hfree : ∀ c ∈ (ipv6Text pieces).toList, c ≠ ']' :=
      forall_mem_ipv6Text (by decide) (by decide) pieces
    have hinner : ∀ c ∈ (ipv6Text pieces).toList, isInner c :=
      forall_mem_ipv6Text (by decide) (by decide) pieces
    have hkept (rest : List Char) :
        hostChars false ('[' :: ((ipv6Text pieces).toList ++ [']']) ++ rest) =
          '[' :: ((ipv6Text pieces).toList ++ ']' :: hostChars false rest) := by
      rw [List.cons_append, hostChars, if_neg (by simp), List.append_assoc, List.singleton_append]
      exact congrArg _ (hostChars_brackets (fun hmem => hfree _ hmem rfl) rest)
    refine ⟨List.cons_ne_nil _ _, ?_, ?_, fun rest => ?_⟩
    · intro c hc
      simp only [List.mem_cons, List.mem_append, List.not_mem_nil, or_false] at hc
      rcases hc with rfl | hc | rfl
      · decide
      · exact hinner c hc
      · decide
    · have hall := hkept []
      rwa [List.append_nil] at hall
    · rw [hkept, hostChars, if_pos ⟨rfl, rfl⟩]
  · refine isHostText_of_plain ?_ (forall_mem_ipv4Text (by decide) (by decide) n)
    rw [write, toList_ipv4Text, List.intercalate_cons_cons]
    simp
  · exact isHostText_of_plain (fun hnil => hne (String.toList_inj.mp hnil))
      (Domain.not_reserved_of_ascii? hascii)

/-- A host that has been read is read from its text, if no label of it has a Punycode that is too
long. -/
theorem ofText_write {cs : List Char} {host : Host} (h : ofText cs = .ok host)
    (hshort : host.isShort) : ofText host.write.toList = .ok host := by
  rcases ofText_cases h with
    ⟨pieces, hpieces, rfl⟩ | ⟨n, hn, rfl⟩ | ⟨text, name, hascii, hne, hnumber, rfl⟩
  -- An address of pieces is read back from its brackets.
  · have hlast : ((ipv6Text pieces).toList ++ [']']).getLast? = some ']' := List.getLast?_concat
    rw [toList_write_ipv6, ofText, bracketed, hlast, List.dropLast_concat,
      ipv6?_ipv6Text hpieces]
    rfl
  -- An IPv4 address is a name that stays as it is and ends in a number.
  · have hmarks : ∀ c ∈ (ipv4Text n).toList, c ≠ '%' ∧ c ≠ '[' :=
      forall_mem_ipv4Text (by decide) (by decide) n
    have hne : ipv4Text n ≠ "" := fun hempty =>
      (isHostText_write h).nonempty (congrArg String.toList hempty)
    rw [write, ofText_of_ascii? (fun hc => (hmarks _ hc).1 rfl) (fun hc => (hmarks _ hc).2 rfl)
      (Domain.ascii?_ipv4Text n) hne, if_pos (endsInNumber_ipv4Text n), ipv4?_ipv4Text hn]
  -- A name is its own ASCII form as long as its labels are short enough to be read again.
  · rw [isShort, List.all_eq_true] at hshort
    have hself := Domain.ascii?_of_ascii? hascii hshort
    have hplain := Domain.not_reserved_of_ascii? hascii
    rw [write, ofText_of_ascii? (fun hc => absurd (hplain _ hc) (by decide))
      (fun hc => absurd (hplain _ hc) (by decide)) hself hne, hnumber,
      if_neg Bool.false_ne_true]

/-- A host that has been read is refused in its text, if a label of it has a Punycode that is too
long. -/
theorem ofText_write_of_long {cs : List Char} {host : Host} (h : ofText cs = .ok host)
    (hlong : host.isShort = false) : ofText host.write.toList = .error .invalidDomain := by
  rcases ofText_cases h with ⟨pieces, -, rfl⟩ | ⟨n, -, rfl⟩ | ⟨text, name, hascii, -, -, rfl⟩
  · cases hlong
  · cases hlong
  · obtain ⟨label, hlabel, hlong⟩ := List.all_eq_false.mp hlong
    have hplain := Domain.not_reserved_of_ascii? hascii
    exact ofText_of_ascii?_none (fun hc => absurd (hplain _ hc) (by decide))
      (fun hc => absurd (hplain _ hc) (by decide))
      (Domain.ascii?_eq_none_of_long hascii hlabel (Bool.eq_false_iff.mpr hlong))

end Host

end BearerCache.Url
