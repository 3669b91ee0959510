import BearerCache.Body
import BearerCache.Proofs.ByteOrder
import BearerCache.Proofs.Construction
import BearerCache.Proofs.ExactRecords
import BearerCache.Proofs.JsonValues

/-! # The tokens of many parties

A body with the tokens of many parties is an object whose values are strings, each the token of the
party that the member is named for.  How the names and the tokens are spelled makes no difference,
nor does the order of the members, but where two of them have one name: then the last one counts.
Every other body is refused, also one that only begins with such an object.

## Main definitions

- `Body.Lists`: bodies that list tokens under names

## Key results

- `NameMap.get?_ofList_eq_some_iff`, `NameMap.ofList_of_perm`: what a map is made of
- `Json.parse_entries_eq_ok_iff`: what is read of an object with one kind of value
- `Body.bulkTokens_eq_ok_iff`: the bodies that are read, and as what
- `Body.bulk_tokens_kept`: no token is lost
-/

namespace BearerCache

/-! ## Maps of pairs -/

section

variable {pairs : List (String × String)} {m : NameMap String} {name value : String}

/-- Where no name stands twice, each value is the last one of its name. -/
theorem TokenRequest.isLast_iff_mem (h : (pairs.map (·.1)).Nodup) :
    IsLast pairs name value ↔ (name, value) ∈ pairs := by
  constructor
  · rintro ⟨front, rest, rfl, -⟩
    exact List.mem_append_right _ List.mem_cons_self
  · intro hmem
    obtain ⟨front, rest, rfl⟩ := List.append_of_mem hmem
    refine ⟨front, rest, rfl, fun pair hpair heq => ?_⟩
    rw [List.map_append, List.map_cons] at h
    have hnotMem := (List.nodup_cons.mp h.of_append_right).1
    -- A second pair of the same name behind it would make the names repeat.
    exact hnotMem (List.mem_map.mpr ⟨pair, hpair, heq⟩)

namespace NameMap

/-- Pairs that are put into a map one after the other give each name its last value among them. -/
theorem get?_foldl_insert_eq_some_iff :
    (pairs.foldl (fun m pair => m.insert pair.1 pair.2) m).get? name = some value ↔
      TokenRequest.IsLast pairs name value ∨
        (∀ pair ∈ pairs, pair.1 ≠ name) ∧ m.get? name = some value := by
  -- What `m` says of a name counts as long as no pair has the name.
  induction pairs generalizing m with
  | nil => simp [TokenRequest.IsLast]
  | cons pair rest ih =>
    obtain ⟨first, token⟩ := pair
    rw [List.foldl_cons, ih, TokenRequest.isLast_cons_iff, List.forall_mem_cons, get?_insert]
    by_cases hname : name = first
    · subst hname
      simp only [if_true, Option.some.injEq, Prod.mk.injEq, true_and, ne_eq, not_true_eq_false,
        false_and, or_false]
      exact or_congr_right and_comm
    · simp only [if_neg hname, Prod.mk.injEq, Ne.symm hname, false_and, or_false, ne_eq,
        not_false_eq_true, true_and]

/-- In the map of pairs each name has its last value among them. -/
theorem get?_ofList_eq_some_iff :
    (ofList pairs).get? name = some value ↔ TokenRequest.IsLast pairs name value := by
  rw [ofList, get?_foldl_insert_eq_some_iff, get?_empty]
  simp

/-- A map is that of its entries, in whatever order they are given. -/
theorem ofList_of_perm (h : pairs.Perm m.entries) : ofList pairs = m := by
  have hnodup : (pairs.map (·.1)).Nodup := (h.map _).nodup_iff.mpr m.nodup_names
  refine ext fun name => Option.ext fun value => ?_
  rw [get?_ofList_eq_some_iff, TokenRequest.isLast_iff_mem hnodup, h.mem_iff, mem_entries_iff]

/-- The entries of a map are in the order of the bytes of their names. -/
theorem sorted_bytes (m : NameMap String) :
    m.entries.Pairwise fun a b => Text.bytes a.1 < Text.bytes b.1 :=
  m.sorted.imp Text.bytes_lt_bytes_iff.mpr

end NameMap

end

/-! ## Objects with one kind of value -/

namespace Json

variable {α : Type} {r : Reader α} {text : List UInt8} {pairs before after : List (String × α)}
  {items : List (String × List UInt8)} {R S : List UInt8 → α → Prop}

/-- The members of an object have the names of these pairs, in their order, and their values are
related to those of the pairs. -/
def Paired (R : List UInt8 → α → Prop) (items : List (String × List UInt8))
    (pairs : List (String × α)) : Prop :=
  List.Forall₂ (fun item pair => item.1 = pair.1 ∧ R item.2 pair.2) items pairs

/-- Only how the values of the members are related counts. -/
theorem paired_congr (h : ∀ item ∈ items, ∀ a, R item.2 a ↔ S item.2 a) :
    Paired R items pairs ↔ Paired S items pairs := by
  -- On the members, each with the pair at its place.
  induction items generalizing pairs with
  | nil => cases pairs <;> simp [Paired]
  | cons item items ih =>
    obtain ⟨hitem, hitems⟩ := List.forall_mem_cons.mp h
    cases pairs with
    | nil => simp [Paired]
    | cons pair pairs =>
      simp only [Paired, List.forall₂_cons, hitem]
      exact and_congr_right' (ih hitems)

/-- The visit of an object with one kind of value: each value is read, and added with its name. -/
def entryVisit (r : Reader α) : Visit (List (String × α)) := fun name pairs =>
  .ok (r.map fun a => pairs ++ [(name, a)])

/-- The reader of an object visits its members. -/
theorem run_entries {bs tail : List UInt8} {b : UInt8} (h : blanks bs = b :: tail) :
    (Reader.entries r).run bs =
      if b = 0x7B then enclosed .object (members (entryVisit r) true [] tail) .ok
      else .error (mismatch "a map" b tail) := by
  simp only [Reader.entries, Reader.ofByte, h]
  rfl

/-- Members whose values are taken are visited. -/
theorem Paired.visited (h : Paired r.Takes items pairs) (before : List (String × α)) :
    Visited (entryVisit r) before items (before ++ pairs) := by
  -- On the members, whatever was read before them.
  induction h generalizing before with
  | nil =>
    rw [List.append_nil]
    exact .nil
  | @cons item pair _ _ hpair _ ih =>
    obtain ⟨name, v⟩ := item
    obtain ⟨rfl, htakes⟩ := hpair
    have hrest := ih (before ++ [pair])
    rw [List.append_assoc] at hrest
    exact .cons rfl (htakes.map _) hrest

/-- Where the members are visited, their values are taken. -/
theorem exists_paired (hexact : r.IsExact) (hvalues : ∀ item ∈ items, IsValue item.2)
    (h : Visited (entryVisit r) before items after) :
    ∃ pairs, Paired r.Takes items pairs ∧ after = before ++ pairs := by
  -- Each visit reads one value, which the reader takes exactly.
  induction items generalizing before with
  | nil =>
    cases h
    exact ⟨[], .nil, (List.append_nil _).symm⟩
  | cons item items ih =>
    cases h with | @cons _ _ _ name v reader _ hvisit htakes hrest =>
    obtain ⟨hvalue, hvalues⟩ := List.forall_mem_cons.mp hvalues
    cases hvisit
    obtain ⟨a, hrun, rfl⟩ := Reader.map_eq_ok htakes.run
    obtain ⟨pairs, hpairs, rfl⟩ := ih hvalues hrest
    refine ⟨(name, a) :: pairs, .cons ⟨rfl, (hexact.takes_iff hvalue).mpr hrun⟩ hpairs, ?_⟩
    rw [List.append_assoc, List.singleton_append]

/-- A text is read as pairs if and only if it is an object with their names, whose values are
taken. -/
theorem parse_entries_eq_ok_iff (hexact : r.IsExact) :
    (Reader.entries r).parse text = .ok pairs ↔
      ∃ items, IsObject items text ∧ Paired r.Takes items pairs := by
  rw [Reader.parse_eq_ok_iff]
  constructor
  · -- What has been run through are a bracket, members that were visited, and the other bracket.
    rintro ⟨w', hrun, hw'⟩
    obtain ⟨w, hw, hbs⟩ := exists_isBlank text
    cases hblanks : blanks text with
    | nil =>
      simp only [Reader.entries, Reader.ofByte, hblanks] at hrun
      cases hrun
    | cons b tail =>
      rw [run_entries hblanks] at hrun
      split at hrun
      next hb =>
        obtain ⟨last, behind, hmembers, hconclude, hclose⟩ := enclosed_eq_ok_iff.mp hrun
        cases hconclude
        have hreaders : ∀ name state reader, entryVisit r name state = .ok reader →
            reader.IsExact := by
          rintro name state _ ⟨⟩
          exact hexact.map _
        obtain ⟨items, inner, more, hitems, hvisited, rfl, rfl⟩ :=
          items_of_members hreaders hmembers
        -- The members end where the object is closed, so only blanks are left.
        obtain rfl : more = w' := by
          cases (close_append .nil .object more).symm.trans hclose
          rfl
        obtain ⟨pairs, hpairs, rfl⟩ := exists_paired hexact hitems.isValue hvisited
        refine ⟨items, ?_, hpairs⟩
        rw [hbs, hblanks, hb]
        exact .mk hw hitems hw'
      next => cases hrun
  · rintro ⟨items, hobject, hpairs⟩
    cases hobject with | @mk w inner w' hw hitems hw' =>
    have hmembers := members_of_items (hpairs.visited []) hitems w'
    refine ⟨w', ?_, hw'⟩
    rw [run_entries (hw.blanks_opening .object _), Bracket.opening, if_pos rfl]
    exact enclosed_eq_ok_iff.mpr ⟨_, _, hmembers, rfl, close_append .nil .object w'⟩

end Json

/-! ## Bodies -/

namespace Body

open Json TokenRequest

variable {body : String} {pairs : List (String × String)} {tokens : NameMap String}

/-- A body lists tokens under names, in this order: it is an object with these names, whose values
are strings that stand for the tokens. -/
def Lists (body : String) (pairs : List (String × String)) : Prop :=
  ∃ items, IsObject items (Text.bytes body) ∧ Paired (fun v token => IsStringOf token v) items pairs

/-- The pairs that are read of a body are those that it lists. -/
theorem parse_entries_iff_lists :
    (Reader.entries .text).parse (Text.bytes body) = .ok pairs ↔ Lists body pairs := by
  have hexact : Reader.text.IsExact := Reader.isExact_text
  refine (parse_entries_eq_ok_iff hexact).trans
    (exists_congr fun items => and_congr_right fun hobject => ?_)
  exact paired_congr fun item hitem token => Reader.takes_text_iff (hobject.isValue item hitem)

/-- A body is read as the map of the tokens that it lists. -/
theorem bulkTokens_eq_ok_iff :
    bulkTokens body = .ok tokens ↔ ∃ pairs, Lists body pairs ∧ tokens = .ofList pairs := by
  simp only [← parse_entries_iff_lists]
  cases hparse : (Reader.entries .text).parse (Text.bytes body) with
  | error fault => simp [bulkTokens, hparse]
  | ok pairs => simp [bulkTokens, hparse, eq_comm]

/-- Any tokens can be listed, in the compact form of an object among others. -/
theorem lists_write (pairs : List (String × String)) :
    Lists (Value.object (pairs.map fun pair => (pair.1, .text pair.2))).write pairs :=
  parse_entries_iff_lists.mp (Reads.entries Reads.text pairs).parse

/-- A body is refused if it lists no tokens. -/
theorem exists_bulkTokens_error_iff :
    (∃ fault, bulkTokens body = .error (.bulkTokens fault)) ↔ ∀ pairs, ¬Lists body pairs := by
  constructor
  · rintro ⟨fault, hfault⟩ pairs hlists
    rw [bulkTokens_eq_ok_iff.mpr ⟨pairs, hlists, rfl⟩] at hfault
    cases hfault
  · intro hnone
    cases hparse : (Reader.entries .text).parse (Text.bytes body) with
    | error fault => exact ⟨fault, by simp only [bulkTokens, hparse]⟩
    | ok pairs => exact absurd (parse_entries_iff_lists.mp hparse) (hnone pairs)

/-- No token is lost.  A body that lists a map, its names in any order, is read as that map.  Of
several tokens under one name the last one counts.  What is read is listed in the order of the bytes
of the names, and then the whole body is an object of strings; every other body is refused.  There
is a body for any tokens. -/
theorem bulk_tokens_kept (body : String) :
    (∀ (tokens : NameMap String) (pairs : List (String × String)), pairs.Perm tokens.entries →
      Lists body pairs → bulkTokens body = .ok tokens) ∧
    (∀ pairs, Lists body pairs → ∃ tokens, bulkTokens body = .ok tokens ∧
      ∀ name token, tokens.get? name = some token ↔ IsLast pairs name token) ∧
    (∀ tokens, bulkTokens body = .ok tokens →
      (∃ pairs, Lists body pairs) ∧
      tokens.entries.Pairwise fun a b => Text.bytes a.1 < Text.bytes b.1) ∧
    ((∃ fault, bulkTokens body = .error (.bulkTokens fault)) ↔ ∀ pairs, ¬Lists body pairs) ∧
    ∀ pairs, Lists (Value.object (pairs.map fun pair => (pair.1, .text pair.2))).write pairs := by
  refine ⟨fun tokens pairs hperm hlists => ?_, fun pairs hlists => ?_, fun tokens hread => ?_,
    exists_bulkTokens_error_iff, lists_write⟩
  -- No name stands twice in a map, so the order of its entries makes no difference.
  · exact bulkTokens_eq_ok_iff.mpr ⟨pairs, hlists, (NameMap.ofList_of_perm hperm).symm⟩
  · exact ⟨_, bulkTokens_eq_ok_iff.mpr ⟨pairs, hlists, rfl⟩,
      fun name token => NameMap.get?_ofList_eq_some_iff⟩
  · obtain ⟨pairs, hlists, -⟩ := bulkTokens_eq_ok_iff.mp hread
    exact ⟨⟨pairs, hlists⟩, tokens.sorted_bytes⟩

end Body

namespace Sample

open Body Json

/-- A body with a name that is spelled by an escape, and white space between its members. -/
theorem lists_spelled :
    Lists "\x7b\"b\":\"2\", \"\\u0061\":\"1\"\x7d" [("b", "2"), ("a", "1")] := by
  -- Every byte but those of the escape stands for itself.
  have hplain (s : String) (h : (Text.bytes s).all (IsPlain ·)) : Spells (Text.bytes s) _ :=
    .of_plain fun b hb => of_decide_eq_true (List.all_eq_true.mp h b hb)
  have hb : Names "b" _ := .of_plain (by decide +kernel)
  have hcode : FourHex [0x30, 0x30, 0x36, 0x31] 0x61 := @FourHex.mk _ _ _ _ 0 0 6 1 rfl rfl rfl rfl
  have hescape : Spells (0x5C :: 0x75 :: [0x30, 0x30, 0x36, 0x31]) (Text.bytes "a") :=
    .escape (.code hcode (by decide)) .nil
  have ha : Names "a" _ := .mk (w := [0x20]) (List.forall_mem_singleton.mpr rfl) hescape .nil
  have htwo : IsStringOf "2" _ := .mk (hplain "2" (by decide +kernel))
  have hone : IsStringOf "1" _ := .mk (hplain "1" (by decide +kernel))
  have hobject : IsObject _ _ := .mk .nil (.item .none hb .nil htwo.isValue
    (.item (.comma .nil) ha .nil hone.isValue (.finish .nil))) .nil
  exact ⟨_, hobject, .cons ⟨rfl, htwo⟩ (.cons ⟨rfl, hone⟩ .nil)⟩

/-- The tokens are read under the names that are meant, in order, and of two under one name the
later one. -/
theorem tokens_of_spelled :
    bulkTokens "\x7b\"b\":\"2\", \"\\u0061\":\"1\"\x7d" =
      .ok (.ofList [("a", "1"), ("b", "2")]) ∧
    ∃ tokens, bulkTokens (Value.object [("b", .text "1"), ("b", .text "2")]).write = .ok tokens ∧
      tokens.get? "b" = some "2" := by
  obtain ⟨hmap, -⟩ := bulk_tokens_kept "\x7b\"b\":\"2\", \"\\u0061\":\"1\"\x7d"
  obtain ⟨-, hlast, -, -, hwritten⟩ :=
    bulk_tokens_kept (Value.object [("b", .text "1"), ("b", .text "2")]).write
  have hperm : [("b", "2"), ("a", "1")].Perm
      (NameMap.ofList [("a", "1"), ("b", "2")]).entries := by decide
  -- The name stands twice, and the later of its values is the one that is kept.
  obtain ⟨tokens, hread, htokens⟩ := hlast _ (hwritten [("b", "1"), ("b", "2")])
  refine ⟨hmap _ _ hperm lists_spelled, tokens, hread, (htokens "b" "2").mpr ?_⟩
  exact ⟨[("b", "1")], [], rfl, by simp⟩

end Sample

end BearerCache
