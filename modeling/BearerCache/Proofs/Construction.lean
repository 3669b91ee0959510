import BearerCache.Proofs.DecimalText
import BearerCache.Proofs.OptionOrder
import BearerCache.Text.Utf8

/-! # What a request is made of

A list of options makes a request if its kind has all of them and their values are proper, one that
a later value replaces among them.  The request has the last value of each name, its scopes put
into their normal text and its lifetime trimmed.  Otherwise the first name that the kind does not
have is refused, whatever the values are, and if there is none the first value that is not proper.

## Key results

- `keptValue_eq_ok_iff`, `keptValue_eq_error_iff`: which values are kept, as what, and why not
- `foldlM_put_eq_ok`: what taking in one option after the other leads to
- `ofPairs_eq_error_iff`: which fault is reported
- `ofPairs_exact`: the result for every list of options
-/

namespace BearerCache.TokenRequest

variable {kind : TokenKind} {pairs : List (String × String)} {request next : TokenRequest}
  {name value kept : String} {fault : RequestFault}

/-! ## Values -/

/-- A value that can be taken in: it has a character that is not blank, and a lifetime is a
positive decimal integer of 64 bits, but for blanks around it. -/
structure IsProper (name value : String) : Prop where
  notBlank : ∃ c ∈ value.toList, Text.isBlank c = false
  ttl : name = ttlName →
    ∃ n, Text.IsDecimal (Text.trim value).toList n ∧ 1 ≤ n ∧ n ≤ Text.int64Max

/-- What is kept of a value. -/
inductive IsKeptAs (name value : String) : String → Prop where
  /-- Scopes are put in order, each once, with single spaces between them. -/
  | scopes {scopes : List String} (hname : name = scopesName)
      (hsorted : scopes.Pairwise (· < ·))
      (hwords : ∀ word, word ∈ scopes ↔ word ∈ Text.words value) :
    IsKeptAs name value (" ".intercalate scopes)
  /-- A lifetime is trimmed. -/
  | ttl (hname : name = ttlName) : IsKeptAs name value (Text.trim value)
  /-- Other values are kept as they are. -/
  | other (hscopes : name ≠ scopesName) (httl : name ≠ ttlName) : IsKeptAs name value value

/-- Why a value that is not proper is refused. -/
inductive IsRefusedAs (name value : String) : RequestFault → Prop where
  | blank (hblank : ∀ c ∈ value.toList, Text.isBlank c) :
    IsRefusedAs name value (.emptyValue name)
  | ttl (hnotBlank : ∃ c ∈ value.toList, Text.isBlank c = false) (hname : name = ttlName)
      (hnot : ¬∃ n, Text.IsDecimal (Text.trim value).toList n ∧ 1 ≤ n ∧ n ≤ Text.int64Max) :
    IsRefusedAs name value (.invalidTtl value)

/-- A value is kept in one way only. -/
theorem IsKeptAs.unique {kept' : String} (h : IsKeptAs name value kept)
    (h' : IsKeptAs name value kept') : kept = kept' := by
  -- The three ways exclude one another by the name, so both facts are of the same way; only a scope
  -- set needs more, where two sorted lists of the same words are one.
  have hnames : scopesName ≠ ttlName := by decide
  cases h with
  | scopes hname hsorted hwords =>
    cases h' with
    | scopes _ hsorted' hwords' =>
      rw [hsorted.eq_of_mem_iff hsorted' fun word => (hwords word).trans (hwords' word).symm]
    | ttl hname' => exact absurd (hname.symm.trans hname') hnames
    | other hscopes => exact absurd hname hscopes
  | ttl hname =>
    cases h' with
    | scopes hname' => exact absurd (hname'.symm.trans hname) hnames
    | ttl => rfl
    | other _ httl => exact absurd hname httl
  | other hscopes httl =>
    cases h' with
    | scopes hname => exact absurd hname hscopes
    | ttl hname => exact absurd hname httl
    | other => rfl

/-- No text is blank and has a character that is not. -/
private theorem not_blank (h : ∃ c ∈ value.toList, Text.isBlank c = false) :
    ¬∀ c ∈ value.toList, Text.isBlank c := by
  obtain ⟨c, hc, hfalse⟩ := h
  intro hblank
  rw [hblank c hc] at hfalse
  cases hfalse

/-- What is refused is not proper. -/
theorem IsRefusedAs.not_isProper (h : IsRefusedAs name value fault) : ¬IsProper name value := by
  intro hproper
  cases h with
  | blank hblank => exact not_blank hproper.notBlank hblank
  | ttl _ hname hnot => exact hnot (hproper.ttl hname)

/-- A value is refused for one reason only. -/
theorem IsRefusedAs.unique {fault' : RequestFault} (h : IsRefusedAs name value fault)
    (h' : IsRefusedAs name value fault') : fault = fault' := by
  cases h with
  -- A text is blank or it is not, so the two reasons exclude each other.
  | blank hblank =>
    cases h' with
    | blank => rfl
    | ttl hnotBlank => exact absurd hblank (not_blank hnotBlank)
  | ttl hnotBlank =>
    cases h' with
    | blank hblank => exact absurd hblank (not_blank hnotBlank)
    | ttl => rfl

/-- A text is blank or has a character that is not. -/
private theorem exists_notBlank (h : ¬Text.isAllBlank value) :
    ∃ c ∈ value.toList, Text.isBlank c = false := by
  simpa [Text.isAllBlank] using h

/-- A value is kept, or refused. -/
theorem keptValue_cases (name value : String) :
    (∃ kept, keptValue name value = .ok kept ∧ IsProper name value ∧ IsKeptAs name value kept) ∨
      ∃ fault, keptValue name value = .error fault ∧ IsRefusedAs name value fault := by
  by_cases hblank : Text.isAllBlank value
  -- The code looks at blankness first, then at the name, and reads a number of seconds only under
  -- `ttl`.
  · exact .inr ⟨_, if_pos hblank, .blank (List.all_eq_true.mp hblank)⟩
  · have hnotBlank := exists_notBlank hblank
    by_cases hscopes : name = scopesName
    · -- There are words in a text that is not blank, so they are a scope set.
      obtain ⟨scopes, hread, helements⟩ :=
        Scopes.ofText_of_words (mt Text.words_eq_nil_iff.mp hblank)
      have hnotTtl : name ≠ ttlName := hscopes ▸ by decide
      refine .inl ⟨scopes.normalText, ?_, ⟨hnotBlank, fun httl => absurd httl hnotTtl⟩, ?_⟩
      · rw [keptValue, if_neg hblank, if_pos hscopes, hread]
      · refine .scopes hscopes scopes.sorted fun word => ?_
        rw [helements, Scopes.mem_normalOrder]
    · by_cases httl : name = ttlName
      · cases hread : Text.positiveSeconds? value with
        | none =>
          refine .inr ⟨.invalidTtl value, ?_, .ttl hnotBlank httl ?_⟩
          · rw [keptValue, if_neg hblank, if_neg hscopes, if_pos httl, hread]
          · rintro ⟨n, hdecimal⟩
            rw [Text.positiveSeconds?_eq_some_iff.mpr hdecimal] at hread
            cases hread
        | some n =>
          have hdecimal := Text.positiveSeconds?_eq_some_iff.mp hread
          refine .inl ⟨Text.trim value, ?_, ⟨hnotBlank, fun _ => ⟨n, hdecimal⟩⟩, .ttl httl⟩
          rw [keptValue, if_neg hblank, if_neg hscopes, if_pos httl, hread]
      · refine .inl ⟨value, ?_, ⟨hnotBlank, fun h => absurd h httl⟩, .other hscopes httl⟩
        rw [keptValue, if_neg hblank, if_neg hscopes, if_neg httl]

/-- A value is kept if it is proper. -/
theorem keptValue_eq_ok_iff :
    keptValue name value = .ok kept ↔ IsProper name value ∧ IsKeptAs name value kept := by
  rcases keptValue_cases name value with ⟨kept', hkept, hproper, hkeptAs⟩ |
    ⟨fault, hfault, hrefused⟩
  · rw [hkept, Except.ok.injEq]
    constructor
    · rintro rfl
      exact ⟨hproper, hkeptAs⟩
    · exact fun h => hkeptAs.unique h.2
  · simp [hfault, hrefused.not_isProper]

/-- A value is refused if it is not proper. -/
theorem keptValue_eq_error_iff :
    keptValue name value = .error fault ↔ IsRefusedAs name value fault := by
  rcases keptValue_cases name value with ⟨kept, hkept, hproper, -⟩ | ⟨fault', hfault, hrefused⟩
  · simp only [hkept, reduceCtorEq, false_iff]
    exact fun h => h.not_isProper hproper
  · rw [hfault, Except.error.injEq]
    constructor
    · rintro rfl
      exact hrefused
    · exact hrefused.unique

/-! ## Options one after the other -/

/-- The last value of a name in a list. -/
def IsLast (pairs : List (String × String)) (name value : String) : Prop :=
  ∃ front rest, pairs = front ++ (name, value) :: rest ∧ ∀ pair ∈ rest, pair.1 ≠ name

/-- The last value in a longer list is the last one of the rest, or else the first one. -/
theorem isLast_cons_iff {pair : String × String} :
    IsLast (pair :: pairs) name value ↔
      IsLast pairs name value ∨ (pair = (name, value) ∧ ∀ other ∈ pairs, other.1 ≠ name) := by
  constructor
  · rintro ⟨front, rest, hpairs, hrest⟩
    -- The last one is in the rest unless nothing stands before it, and then the pair is the last.
    cases front with
    | nil =>
      obtain ⟨rfl, rfl⟩ := List.cons.inj hpairs
      exact .inr ⟨rfl, hrest⟩
    | cons first front =>
      obtain ⟨rfl, rfl⟩ := List.cons.inj hpairs
      exact .inl ⟨front, rest, rfl, hrest⟩
  · rintro (⟨front, rest, rfl, hrest⟩ | ⟨rfl, hrest⟩)
    · exact ⟨pair :: front, rest, rfl, hrest⟩
    · exact ⟨[], pairs, rfl, hrest⟩

/-- An option is taken in if its value is proper. -/
theorem put_eq_ok_iff {pair : String × String} :
    request.put pair = .ok next ↔
      ∃ kept, IsProper pair.1 pair.2 ∧ IsKeptAs pair.1 pair.2 kept ∧
        next = { request with options := request.options.insert pair.1 kept } := by
  unfold put
  -- The reader decides between the cases, and a value is kept in one way only.
  cases hkept : keptValue pair.1 pair.2 with
  | error fault =>
    simp only [reduceCtorEq, false_iff, not_exists]
    rintro kept ⟨hproper, hkeptAs, -⟩
    cases hkept.symm.trans (keptValue_eq_ok_iff.mpr ⟨hproper, hkeptAs⟩)
  | ok kept =>
    obtain ⟨hproper, hkeptAs⟩ := keptValue_eq_ok_iff.mp hkept
    simp only [Except.ok.injEq]
    constructor
    · rintro rfl
      exact ⟨kept, hproper, hkeptAs, rfl⟩
    · rintro ⟨kept', -, hkeptAs', rfl⟩
      rw [hkeptAs.unique hkeptAs']

/-- Options with proper values are taken in one after the other. -/
theorem exists_foldlM_put (h : ∀ pair ∈ pairs, IsProper pair.1 pair.2) (request : TokenRequest) :
    ∃ next, pairs.foldlM put request = .ok next := by
  -- Each proper pair is put, so the fold reaches the end.
  induction pairs generalizing request with
  | nil => exact ⟨request, rfl⟩
  | cons pair rest ih =>
    obtain ⟨hpair, hrest⟩ := List.forall_mem_cons.mp h
    rcases keptValue_cases pair.1 pair.2 with ⟨kept, hkept, -⟩ | ⟨_, -, hrefused⟩
    · rw [List.foldlM_cons, put, hkept]
      exact ih hrest _
    · exact absurd hpair hrefused.not_isProper

/-- Where options are taken in, their values are proper, and each name has what is kept of its last
value, or what it had. -/
theorem foldlM_put_eq_ok (h : pairs.foldlM put request = .ok next) :
    (∀ pair ∈ pairs, IsProper pair.1 pair.2) ∧ next.kind = request.kind ∧
      ∀ name kept, next.get? name = some kept ↔
        (∃ value, IsLast pairs name value ∧ IsKeptAs name value kept) ∨
          ((∀ pair ∈ pairs, pair.1 ≠ name) ∧ request.get? name = some kept) := by
  -- The induction is on the pairs, with the request that has been built so far free: what it has
  -- under a name counts only if no later pair names it.
  induction pairs generalizing request with
  | nil =>
    cases h
    refine ⟨nofun, rfl, fun name kept => ?_⟩
    simp [IsLast]
  | cons pair rest ih =>
    rw [List.foldlM_cons] at h
    cases hput : request.put pair with
    | error fault =>
      rw [hput] at h
      cases h
    | ok taken =>
      rw [hput] at h
      obtain ⟨kept₀, hproper, hkeptAs, rfl⟩ := put_eq_ok_iff.mp hput
      obtain ⟨hrest, hkind, hget⟩ := ih h
      refine ⟨List.forall_mem_cons.mpr ⟨hproper, hrest⟩, hkind, fun name kept => ?_⟩
      rw [hget, get?, NameMap.get?_insert]
      simp only [isLast_cons_iff, List.forall_mem_cons]
      obtain ⟨first, value₀⟩ := pair
      by_cases hname : name = first
      · subst hname
        -- The pair just put names the option: it is the last unless a later one names it too.
        constructor
        · rintro (⟨value, hlast, hkept⟩ | ⟨hnone, hkept⟩)
          · exact .inl ⟨value, .inl hlast, hkept⟩
          · rw [if_pos rfl] at hkept
            cases hkept
            exact .inl ⟨value₀, .inr ⟨rfl, hnone⟩, hkeptAs⟩
        · rintro (⟨value, hlast | ⟨hfirst, hnone⟩, hkept⟩ | ⟨⟨hne, -⟩, -⟩)
          · exact .inl ⟨value, hlast, hkept⟩
          · cases hfirst
            exact .inr ⟨hnone, by rw [if_pos rfl, hkeptAs.unique hkept]⟩
          · exact absurd rfl hne
      -- The pair names something else, so it says nothing of this option.
      · have hne : (first, value₀).1 ≠ name := fun heq => hname heq.symm
        have hfirst : ∀ value, (first, value₀) ≠ (name, value) := fun _ heq =>
          hne (congrArg Prod.fst heq)
        simp only [if_neg hname, hfirst, hne, false_and, or_false, ne_eq, not_false_eq_true,
          true_and, get?]

/-- The first value that is not proper is the one that is refused. -/
theorem foldlM_put_eq_error_iff :
    pairs.foldlM put request = .error fault ↔
      ∃ front pair rest, pairs = front ++ pair :: rest ∧
        (∀ other ∈ front, IsProper other.1 other.2) ∧ IsRefusedAs pair.1 pair.2 fault := by
  constructor
  · intro h
    -- The pairs before the first refused one are all put, so the induction adds each of them to the
    -- front.
    induction pairs generalizing request with
    | nil => cases h
    | cons pair rest ih =>
      rw [List.foldlM_cons] at h
      rcases keptValue_cases pair.1 pair.2 with ⟨kept, hkept, hproper, -⟩ |
        ⟨fault', hfault, hrefused⟩
      · rw [put, hkept] at h
        obtain ⟨front, other, rest, rfl, hfront, hrefused⟩ := ih h
        exact ⟨pair :: front, other, rest, rfl, List.forall_mem_cons.mpr ⟨hproper, hfront⟩,
          hrefused⟩
      · rw [put, hfault] at h
        cases h
        exact ⟨[], pair, rest, rfl, by simp, hrefused⟩
  · rintro ⟨front, pair, rest, rfl, hfront, hrefused⟩
    -- Proper pairs are put whatever the request holds, so the run gets as far as the refused pair.
    obtain ⟨taken, htaken⟩ := exists_foldlM_put hfront request
    rw [List.foldlM_append, htaken]
    simp only [List.foldlM_cons, put, keptValue_eq_error_iff.mpr hrefused]
    rfl

/-! ## The result -/

/-- Why a list of options makes no request of a kind. -/
inductive IsFaultOf (kind : TokenKind) (pairs : List (String × String)) : RequestFault → Prop where
  /-- The first name that the kind does not have is refused, whatever the values are. -/
  | name {front rest : List (String × String)} {pair : String × String}
      (hpairs : pairs = front ++ pair :: rest)
      (hfront : ∀ other ∈ front, other.1 ∈ kind.optionNames)
      (hname : pair.1 ∉ kind.optionNames) :
    IsFaultOf kind pairs (.unknownOption kind pair.1)
  /-- If there is none, the first value that is not proper is. -/
  | value {front rest : List (String × String)} {pair : String × String} {fault : RequestFault}
      (hnames : ∀ other ∈ pairs, other.1 ∈ kind.optionNames)
      (hpairs : pairs = front ++ pair :: rest)
      (hfront : ∀ other ∈ front, IsProper other.1 other.2)
      (hvalue : IsRefusedAs pair.1 pair.2 fault) :
    IsFaultOf kind pairs fault

/-- Names are all allowed if the kind has options of all of them. -/
theorem checkNames_fst_eq_ok_iff :
    checkNames kind (pairs.map (·.1)) = .ok () ↔ ∀ pair ∈ pairs, pair.1 ∈ kind.optionNames := by
  simp [checkNames_eq_ok_iff, TokenKind.allows]

/-- Otherwise the first one that is not is reported. -/
theorem checkNames_fst_eq_error_iff :
    checkNames kind (pairs.map (·.1)) = .error fault ↔
      ∃ front pair rest, pairs = front ++ pair :: rest ∧
        (∀ other ∈ front, other.1 ∈ kind.optionNames) ∧ pair.1 ∉ kind.optionNames ∧
        fault = .unknownOption kind pair.1 := by
  rw [checkNames, List.find?_map]
  -- `find?` gives the first name that the kind lacks, with what stands before it.
  constructor
  · intro h
    cases hfind : pairs.find? ((!kind.allows ·) ∘ (·.1)) with
    | none => rw [hfind] at h; cases h
    | some pair =>
      rw [hfind] at h
      obtain ⟨hpair, front, rest, rfl, hfront⟩ := List.find?_eq_some_iff_append.mp hfind
      refine ⟨front, pair, rest, rfl, fun other hother => ?_, ?_, (Except.error.inj h).symm⟩
      · simpa [TokenKind.allows] using hfront other hother
      · simpa [TokenKind.allows] using hpair
  · rintro ⟨front, pair, rest, rfl, hfront, hpair, rfl⟩
    have hfind : (front ++ pair :: rest).find? ((!kind.allows ·) ∘ (·.1)) = some pair := by
      refine List.find?_eq_some_iff_append.mpr ⟨?_, front, rest, rfl, fun other hother => ?_⟩
      · simpa [TokenKind.allows] using hpair
      · simpa [TokenKind.allows] using hfront other hother
    rw [hfind]
    rfl

/-- A list of options is refused for the fault that it has. -/
theorem ofPairs_eq_error_iff : ofPairs kind pairs = .error fault ↔ IsFaultOf kind pairs fault := by
  unfold ofPairs
  constructor
  -- Names are checked before any value is, so a fault of a name comes first.
  · intro h
    split at h
    next fault' hnames =>
      cases h
      obtain ⟨front, pair, rest, hpairs, hfront, hname, rfl⟩ :=
        checkNames_fst_eq_error_iff.mp hnames
      exact .name hpairs hfront hname
    next hnames =>
      obtain ⟨front, pair, rest, hpairs, hfront, hvalue⟩ := foldlM_put_eq_error_iff.mp h
      exact .value (checkNames_fst_eq_ok_iff.mp hnames) hpairs hfront hvalue
  · intro h
    cases h with
    | name hpairs hfront hname =>
      rw [checkNames_fst_eq_error_iff.mpr ⟨_, _, _, hpairs, hfront, hname, rfl⟩]
    | value hnames hpairs hfront hvalue =>
      rw [checkNames_fst_eq_ok_iff.mpr hnames]
      exact foldlM_put_eq_error_iff.mpr ⟨_, _, _, hpairs, hfront, hvalue⟩

/-- A list of options makes a request if the kind has them and their values are proper. -/
theorem exists_ofPairs_iff :
    (∃ request, ofPairs kind pairs = .ok request) ↔
      ∀ pair ∈ pairs, pair.1 ∈ kind.optionNames ∧ IsProper pair.1 pair.2 := by
  unfold ofPairs
  constructor
  · rintro ⟨request, h⟩
    split at h
    next => cases h
    next hnames =>
      exact fun pair hpair => ⟨checkNames_fst_eq_ok_iff.mp hnames pair hpair,
        (foldlM_put_eq_ok h).1 pair hpair⟩
  · intro h
    rw [checkNames_fst_eq_ok_iff.mpr fun pair hpair => (h pair hpair).1]
    exact exists_foldlM_put (fun pair hpair => (h pair hpair).2) _

/-- The names that a kind has are in the order of their bytes. -/
theorem bytes_lt_of_lt {name other : String} (hname : name ∈ kind.optionNames)
    (hother : other ∈ kind.optionNames) (hlt : name < other) :
    Text.bytes name < Text.bytes other := by
  have hall : ∀ kind ∈ TokenKind.all, ∀ name ∈ kind.optionNames, ∀ other ∈ kind.optionNames,
      name < other → Text.bytes name < Text.bytes other := by
    decide +kernel
  exact hall kind (by cases kind <;> decide) name hname other hother hlt

/-- What a list of options makes: a request if and only if the kind has all of them and all values
are proper, also those that a later one replaces.  The request has each name of the list once, in
the order of their bytes, with what is kept of its last value.  Otherwise the first name that the
kind does not have is reported, or else the first value that is not proper, as blank or as no
lifetime; no fault of scopes is, and no option that is missing. -/
theorem ofPairs_exact (kind : TokenKind) (pairs : List (String × String)) :
    ((∃ request, ofPairs kind pairs = .ok request) ↔
      ∀ pair ∈ pairs, pair.1 ∈ kind.optionNames ∧ IsProper pair.1 pair.2) ∧
    (∀ request, ofPairs kind pairs = .ok request →
      request.kind = kind ∧
      request.options.entries.Pairwise (fun a b => Text.bytes a.1 < Text.bytes b.1) ∧
      ∀ name kept, (name, kept) ∈ request.options.entries ↔
        ∃ value, IsLast pairs name value ∧ IsKeptAs name value kept) ∧
    (∀ fault, ofPairs kind pairs = .error fault ↔ IsFaultOf kind pairs fault) ∧
    (∀ fault, ofPairs kind pairs ≠ .error (.invalidScopes fault)) ∧
    (∀ kind' name, ofPairs kind pairs ≠ .error (.missingOption kind' name)) := by
  refine ⟨exists_ofPairs_iff, fun request h => ?_, fun fault => ofPairs_eq_error_iff, ?_, ?_⟩
  · have hallowed := exists_ofPairs_iff.mp ⟨request, h⟩
    unfold ofPairs at h
    split at h
    next => cases h
    next =>
      obtain ⟨-, hkind, hget⟩ := foldlM_put_eq_ok h
      have hentries : ∀ name kept, (name, kept) ∈ request.options.entries ↔
          ∃ value, IsLast pairs name value ∧ IsKeptAs name value kept := by
        intro name kept
        rw [NameMap.mem_entries_iff, ← get?, hget]
        simp [get?]
      -- Names that a kind allows are ASCII, where the order of the texts is that of their bytes.
      have hmem : ∀ entry ∈ request.options.entries, entry.1 ∈ kind.optionNames := by
        rintro ⟨name, kept⟩ hentry
        obtain ⟨value, ⟨front, rest, rfl, -⟩, -⟩ := (hentries name kept).mp hentry
        exact (hallowed (name, value) (by simp)).1
      refine ⟨hkind, ?_, hentries⟩
      exact request.options.sorted.imp_of_mem fun ha hb =>
        bytes_lt_of_lt (hmem _ ha) (hmem _ hb)
  · intro fault h
    cases ofPairs_eq_error_iff.mp h with
    | value _ _ _ hvalue => cases hvalue
  · intro kind' name h
    cases ofPairs_eq_error_iff.mp h with
    | value _ _ _ hvalue => cases hvalue

end BearerCache.TokenRequest

namespace BearerCache.Sample

/-- The later of two lifetimes counts, and scopes are put in order. -/
theorem options_of_list :
    ∃ request, TokenRequest.ofPairs .personal
        [("ttl", " 60 "), ("scopes", "b:2  a:1"), ("ttl", "+7 ")] = .ok request ∧
      ("ttl", "+7") ∈ request.options.entries ∧
      ("scopes", "a:1 b:2") ∈ request.options.entries := by
  obtain ⟨hmade, hrequest, -⟩ := TokenRequest.ofPairs_exact .personal
    [("ttl", " 60 "), ("scopes", "b:2  a:1"), ("ttl", "+7 ")]
  -- The later `ttl` counts, and it is kept with its sign as it was written, without blanks.
  have hsixty : Text.positiveSeconds? " 60 " = some 60 := by decide
  have hseven : Text.positiveSeconds? "+7 " = some 7 := by decide
  have hproper : ∀ pair ∈ [("ttl", " 60 "), ("scopes", "b:2  a:1"), ("ttl", "+7 ")],
      pair.1 ∈ TokenKind.personal.optionNames ∧ TokenRequest.IsProper pair.1 pair.2 := by
    simp only [List.forall_mem_cons, List.not_mem_nil, false_imp_iff, implies_true, and_true]
    refine ⟨⟨by decide, ⟨'6', by decide, by decide⟩, fun _ =>
        ⟨60, Text.positiveSeconds?_eq_some_iff.mp hsixty⟩⟩,
      ⟨by decide, ⟨'b', by decide, by decide⟩, fun h => absurd h (by decide)⟩,
      ⟨by decide, ⟨'7', by decide, by decide⟩, fun _ =>
        ⟨7, Text.positiveSeconds?_eq_some_iff.mp hseven⟩⟩⟩
  obtain ⟨request, hrequest'⟩ := hmade.mpr hproper
  obtain ⟨-, -, hentries⟩ := hrequest request hrequest'
  refine ⟨request, hrequest', (hentries _ _).mpr ⟨"+7 ", ?_, .ttl rfl⟩, (hentries _ _).mpr
    ⟨"b:2  a:1", ?_, ?_⟩⟩
  · exact ⟨[("ttl", " 60 "), ("scopes", "b:2  a:1")], [], rfl, nofun⟩
  · exact ⟨[("ttl", " 60 ")], [("ttl", "+7 ")], rfl, by decide⟩
  · have hwords : Text.words "b:2  a:1" = ["b:2", "a:1"] := by cbv
    have hkept : TokenRequest.IsKeptAs "scopes" "b:2  a:1" (" ".intercalate ["a:1", "b:2"]) :=
      .scopes rfl (by decide) (by simp [hwords, or_comm])
    exact hkept

end BearerCache.Sample
