import BearerCache.Proofs.EntryKeys
import BearerCache.Proofs.ScopeWords
import Mathlib.Data.List.Perm.Basic

/-! # What the key of a request depends on

A request is made from a list of options.  Two lists are `Rearranged` if one has the options of
the other in another order, and the scopes possibly written in another way.  They make the same
request, or both make none; only which fault is reported may differ.  So they have the same key,
and since a key stands for one request, requests have the same key just when they are of one kind
and have the same options.

## Key results

- `TokenRequest.ofPairs_perm`: the order of the options does not matter
- `TokenRequest.ofPairs_congr`: nor does how the scopes are written
- `TokenRequest.key_identity`: what a key tells, and what it does not depend on
-/

namespace BearerCache.TokenRequest

variable {kind : TokenKind} {pairs others : List (String × String)}

/-- Two options are the same, but for how the scopes are written. -/
inductive SameOption : String × String → String × String → Prop where
  | refl (pair : String × String) : SameOption pair pair
  /-- The scopes are made up of the same words. -/
  | scopes {value other : String}
      (hwords : ∀ word, word ∈ Text.words value ↔ word ∈ Text.words other) :
    SameOption (scopesName, value) (scopesName, other)

/-- Two lists have the same options, in whatever order and however the scopes are written. -/
def Rearranged (pairs others : List (String × String)) : Prop :=
  ∃ rewritten, List.Forall₂ SameOption pairs rewritten ∧ rewritten.Perm others

/-! ## How the scopes are written -/

/-- Scopes with the same words are kept alike, or refused for the same reason. -/
theorem keptValue_scopes {value other : String}
    (h : ∀ word, word ∈ Text.words value ↔ word ∈ Text.words other) :
    keptValue scopesName value = keptValue scopesName other := by
  have hblank : Text.isAllBlank value ↔ Text.isAllBlank other := by
    rw [← Text.words_eq_nil_iff, ← Text.words_eq_nil_iff, List.eq_nil_iff_forall_not_mem,
      List.eq_nil_iff_forall_not_mem]
    exact forall_congr' fun word => not_congr (h word)
  have hnotTtl : scopesName ≠ ttlName := by decide
  simp only [keptValue, hblank, Scopes.ofText_congr h, hnotTtl, if_true]

/-- An option is taken in alike, however its scopes are written. -/
theorem SameOption.put_eq {pair other : String × String} (h : SameOption pair other)
    (request : TokenRequest) : request.put pair = request.put other := by
  cases h with
  | refl => rfl
  | scopes hwords => rw [put, put, keptValue_scopes hwords]

theorem SameOption.name_eq {pair other : String × String} (h : SameOption pair other) :
    pair.1 = other.1 := by
  cases h <;> rfl

/-- However the scopes are written, the names of the options stay. -/
theorem names_congr (h : List.Forall₂ SameOption pairs others) :
    pairs.map Prod.fst = others.map Prod.fst := by
  induction h with
  | nil => rfl
  | cons hpair _ ih => rw [List.map_cons, List.map_cons, hpair.name_eq, ih]

theorem foldlM_put_congr (h : List.Forall₂ SameOption pairs others) (request : TokenRequest) :
    pairs.foldlM put request = others.foldlM put request := by
  induction h generalizing request with
  | nil => rfl
  | cons hpair _ ih =>
    rw [List.foldlM_cons, List.foldlM_cons, hpair.put_eq]
    exact bind_congr ih

/-- A list of options makes the same request, however the scopes are written. -/
theorem ofPairs_congr (h : List.Forall₂ SameOption pairs others) :
    ofPairs kind pairs = ofPairs kind others := by
  simp only [ofPairs, names_congr h, foldlM_put_congr h]

/-! ## The order of the options -/

/-- Takes an option in, if a request has come out so far. -/
def take? (request : Option TokenRequest) (pair : String × String) : Option TokenRequest :=
  request.bind fun request => (request.put pair).toOption

/-- What is refused stays refused. -/
theorem foldl_take?_none : pairs.foldl take? none = none := by
  induction pairs with
  | nil => rfl
  | cons pair rest ih => exact ih

/-- Options are taken in one by one as long as none is refused. -/
theorem toOption_foldlM_put (request : TokenRequest) :
    (pairs.foldlM put request).toOption = pairs.foldl take? (some request) := by
  -- On the pairs; once one is refused the fold stays refused.
  induction pairs generalizing request with
  | nil => rfl
  | cons pair rest ih =>
    rw [List.foldlM_cons, List.foldl_cons, take?, Option.bind_some]
    cases request.put pair with
    | error fault => exact foldl_take?_none.symm
    | ok next => exact ih next

/-- Options with different names can be taken in in either order. -/
theorem take?_comm {pair other : String × String} (h : pair.1 ≠ other.1)
    (request : Option TokenRequest) :
    take? (take? request pair) other = take? (take? request other) pair := by
  cases request with
  | none => rfl
  | some request =>
    simp only [take?, Option.bind_some, put]
    -- Whether a value is kept does not depend on the request.
    cases keptValue pair.1 pair.2 with
    | error fault => cases keptValue other.1 other.2 <;> rfl
    | ok value =>
      cases keptValue other.1 other.2 with
      | error fault => rfl
      | ok value' =>
        have hcomm := NameMap.insert_comm request.options h value value'
        simp only [Except.toOption, Option.bind_some, hcomm]

/-- Names are refused unless the kind has options of all of them. -/
theorem checkNames_eq_ok_iff {names : List String} :
    checkNames kind names = .ok () ↔ ∀ name ∈ names, kind.allows name := by
  unfold checkNames
  cases hfind : names.find? (!kind.allows ·) with
  | none => simpa using hfind
  | some name =>
    have hrefused := List.find?_some hfind
    have hmem := List.mem_of_find?_eq_some hfind
    simp only [reduceCtorEq, false_iff, not_forall]
    exact ⟨name, hmem, by simpa using hrefused⟩

/-- Names are allowed in whatever order they come. -/
theorem checkNames_perm {names others : List String} (h : names.Perm others) :
    (checkNames kind names).toOption = (checkNames kind others).toOption := by
  have hok : checkNames kind names = .ok () ↔ checkNames kind others = .ok () := by
    rw [checkNames_eq_ok_iff, checkNames_eq_ok_iff]
    -- Whether names are allowed does not depend on their order.
    exact forall_congr' fun name => imp_congr_left h.mem_iff
  cases hothers : checkNames kind others with
  | ok => rw [hok.mpr hothers]
  | error fault =>
    cases hnames : checkNames kind names with
    | ok => cases (hok.mp hnames).symm.trans hothers
    | error fault' => rfl

/-- Options with distinct names make the same request in whatever order they come, or none. -/
theorem ofPairs_perm (hnames : (pairs.map Prod.fst).Nodup) (h : pairs.Perm others) :
    (ofPairs kind pairs).toOption = (ofPairs kind others).toOption := by
  -- Names are checked before values, and each check sees the whole list.
  have hsplit : ∀ pairs, (ofPairs kind pairs).toOption =
      (checkNames kind (pairs.map Prod.fst)).toOption.bind fun _ =>
        pairs.foldl take? (some ⟨kind, .empty⟩) := by
    intro pairs
    rw [ofPairs, ← toOption_foldlM_put]
    cases checkNames kind (pairs.map Prod.fst) <;> rfl
  have htaken : pairs.foldl take? (some ⟨kind, .empty⟩) =
      others.foldl take? (some ⟨kind, .empty⟩) := by
    refine h.foldl_eq' (fun a ha b hb request => ?_) _
    -- Pairs of one list that have the same name are the same pair.
    by_cases hab : a = b
    · rw [hab]
    · exact take?_comm (fun hname => hab (List.inj_on_of_nodup_map hnames ha hb hname)) request
  rw [hsplit, hsplit, htaken, checkNames_perm (h.map Prod.fst)]

/-- Options with distinct names make the same request when they are rearranged, or none. -/
theorem Rearranged.toOption_ofPairs (h : Rearranged pairs others)
    (hnames : (pairs.map Prod.fst).Nodup) :
    (ofPairs kind pairs).toOption = (ofPairs kind others).toOption := by
  obtain ⟨rewritten, hsame, hperm⟩ := h
  rw [ofPairs_congr hsame]
  exact ofPairs_perm (names_congr hsame ▸ hnames) hperm

/-! ## Keys -/

/-- Requests have the same key if and only if they are of one kind and have the same options.  The
part of a key before its first bar is the label of the kind, and the rest is a form that is read
back as the options, in their order.  Options with distinct names make a request with the same
key when they are rearranged, or no request. -/
theorem key_identity :
    (∀ a b : TokenRequest, a.key = b.key ↔ a.kind = b.kind ∧ a.options = b.options) ∧
    (∀ request : TokenRequest,
      request.key.text.toList = request.key.labelChars ++ '|' :: request.key.formChars ∧
      '|' ∉ request.key.labelChars ∧
      String.ofList request.key.labelChars = request.kind.label ∧
      Text.Form.decode (String.ofList request.key.formChars) = request.options.entries) ∧
    (∀ kind pairs others, (pairs.map Prod.fst).Nodup → Rearranged pairs others →
      (ofPairs kind pairs).toOption.map key = (ofPairs kind others).toOption.map key) := by
  refine ⟨fun a b => ⟨fun hkey => ?_, ?_⟩, fun request => ?_, fun kind pairs others hnames h => ?_⟩
  -- The key can be read back, so it tells the kind and the options.
  · rw [key_injective hkey]
    exact ⟨rfl, rfl⟩
  · obtain ⟨kind, options⟩ := a
    obtain ⟨kind', options'⟩ := b
    rintro ⟨rfl, rfl⟩
    rfl
  -- A label has no bar in it, so the first bar is the one between the two parts.
  · have hlabel : request.key.labelChars = request.kind.label.toList :=
      EntryKey.labelChars_ofRequest request
    have hform : request.key.formChars = (Text.Form.encode request.options.entries).toList :=
      EntryKey.formChars_ofRequest request
    refine ⟨?_, ?_, ?_, ?_⟩
    · rw [hlabel, hform]
      exact EntryKey.toList_text_ofRequest request
    · intro hbar
      simpa using List.mem_takeWhile_imp hbar
    · rw [hlabel, String.ofList_toList]
    · rw [hform, String.ofList_toList, Text.Form.decode_encode]
  · rw [h.toOption_ofPairs hnames]

/-- Options in another order and scopes written in another way: the key is the same. -/
theorem rearranged_key :
    (ofPairs .personal [("env", "yt01"), ("scopes", "b:2 a:1")]).toOption.map key =
      (ofPairs .personal [("scopes", " a:1 b:2  a:1"), ("env", "yt01")]).toOption.map key := by
  have hwords : ∀ word, word ∈ Text.words "b:2 a:1" ↔ word ∈ Text.words " a:1 b:2  a:1" := by
    have hleft : Text.words "b:2 a:1" = ["b:2", "a:1"] := by cbv
    have hright : Text.words " a:1 b:2  a:1" = ["a:1", "b:2", "a:1"] := by cbv
    intro word
    simp only [hleft, hright, List.mem_cons, List.not_mem_nil, or_false]
    tauto
  refine key_identity.2.2 .personal _ _ (by decide) ⟨_, ?_, List.Perm.swap _ _ _⟩
  exact .cons (.refl _) (.cons (.scopes hwords) .nil)

end BearerCache.TokenRequest
