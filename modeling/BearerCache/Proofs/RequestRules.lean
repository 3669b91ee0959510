import BearerCache.Proofs.DecimalText
import BearerCache.Proofs.OptionOrder

/-! # What requests consist of

A request is made from options, and then options are added to it and it is completed with
defaults, in any order and however often.  The options that are taken in are checked: they are
*in order*.  The defaults are not, beyond that an environment is not empty and a lifetime is
positive, so an environment of blanks and a lifetime of less than a second, which is written as
`0`, come into a request as they are.  No other option is ever out of order.

## Key results

- `keptValue_inOrder`: a value that is kept for an option is in order
- `Made.admitted`: what the options of a request are, whichever way it was made
- `made_wellFormed_iff`: all requests are well formed just when all defaults are proper
-/

namespace BearerCache

/-! ## Spans of whole seconds -/

namespace Span

/-- A number of seconds that fits in 64 bits is a span. -/
theorem ofSeconds?_eq_some {n : Int} (hmin : 0 < n) (hmax : n ≤ Text.int64Max) :
    ∃ span, ofSeconds? n = some span ∧ span.nanoseconds = n * nanosPerSecond := by
  have hrange : minSpanNanos ≤ n * nanosPerSecond + 0 ∧
      n * nanosPerSecond + 0 ≤ maxSpanNanos := by
    simp only [minSpanNanos, maxSpanNanos, nanosPerSecond, Text.int64Max] at hmax ⊢
    omega
  exact ⟨_, dif_pos hrange, Int.add_zero _⟩

/-- The whole seconds of a span that is not negative are its quotient by a second. -/
theorem wholeSeconds_eq {span : Span} (h : 0 ≤ span.nanoseconds) :
    span.wholeSeconds = span.nanoseconds / nanosPerSecond :=
  Int.tdiv_eq_ediv_of_nonneg h

/-- A span of a second or more has a positive number of whole seconds that fits in 64 bits. -/
theorem wholeSeconds_bounds {span : Span} (h : nanosPerSecond ≤ span.nanoseconds) :
    0 < span.wholeSeconds ∧ span.wholeSeconds ≤ Text.int64Max := by
  have hnonneg : 0 ≤ span.nanoseconds := Int.le_trans (by decide) h
  have hmax := span.inRange.2
  rw [wholeSeconds_eq hnonneg]
  simp only [maxSpanNanos, nanosPerSecond, Text.int64Max] at h hmax ⊢
  omega

/-- A positive span of less than a second has no whole second in it. -/
theorem wholeSeconds_eq_zero {span : Span} (hpos : 0 < span.nanoseconds)
    (hlt : span.nanoseconds < nanosPerSecond) : span.wholeSeconds = 0 := by
  rw [wholeSeconds_eq (Int.le_of_lt hpos)]
  exact Int.ediv_eq_zero_of_lt (Int.le_of_lt hpos) hlt

end Span

namespace TokenRequest

/-! ## Requests that are made -/

/-- The requests that can be made, where the defaults that they are completed with are from a set
of environments and lifetimes. -/
inductive Made (Default : String → Span → Prop) : TokenRequest → Prop where
  | ofPairs {kind pairs request} (h : ofPairs kind pairs = .ok request) : Made Default request
  | ofScopesText {scopes request} (h : ofScopesText scopes = .ok request) : Made Default request
  | accessManagement {partyUuid userId request}
      (h : accessManagement partyUuid userId = .ok request) : Made Default request
  | withOption {request name value next} (made : Made Default request)
      (h : request.withOption name value = .ok next) : Made Default next
  | withDefaults {request env ttl} (made : Made Default request) (h : Default env ttl) :
      Made Default (request.withDefaults env ttl)

/-- A request that can be served: its kind has all of its options, none of them is blank, its
scopes are the normal text of a scope set and its lifetime is a positive number of seconds. -/
structure WellFormed (request : TokenRequest) : Prop where
  allowed : ∀ name value, request.get? name = some value → request.kind.allows name
  notBlank : ∀ name value, request.get? name = some value → Text.isAllBlank value = false
  scopes : ∀ text, request.get? scopesName = some text →
    ∃ scopes, request.scopes? = some scopes ∧ scopes.normalText = text
  ttl : ∀ text, request.get? ttlName = some text →
    ∃ n span, Text.int64? text.toList = some n ∧ 0 < n ∧
      request.ttl? = some span ∧ span.nanoseconds = n * nanosPerSecond

/-- Defaults that can be taken in as they are: the environment is empty, and so not taken in, or
not blank, and the lifetime is not positive, and so not taken in, or a second at least. -/
structure ProperDefaults (env : String) (ttl : Span) : Prop where
  env : env = "" ∨ Text.isAllBlank env = false
  ttl : ttl.nanoseconds ≤ 0 ∨ nanosPerSecond ≤ ttl.nanoseconds

/-! ## Completing a request -/

theorem kind_orElse (request : TokenRequest) (name value : String) :
    (request.orElse name value).kind = request.kind := by
  unfold orElse
  split <;> rfl

/-- A value is given to one option, where it has none. -/
theorem get?_orElse (request : TokenRequest) (name value other : String) :
    (request.orElse name value).get? other =
      if other = name then some ((request.get? name).getD value) else request.get? other := by
  unfold orElse
  -- A given option stays; a missing one gets the value.
  split
  next hgiven =>
    obtain ⟨given, hvalue⟩ := Option.isSome_iff_exists.mp hgiven
    by_cases hname : other = name
    · rw [if_pos hname, hname]
      simp only [get?, hvalue, Option.getD_some]
    · rw [if_neg hname]
  next hmissing =>
    have hnone : request.get? name = none := Option.not_isSome_iff_eq_none.mp hmissing
    rw [get?, NameMap.get?_insert, hnone, Option.getD_none, get?]

/-- Whether there is a value to give or not, the kind stays. -/
theorem kind_ite_orElse (given : Bool) (request : TokenRequest) (name value : String) :
    (if given then request.orElse name value else request).kind = request.kind := by
  cases given
  · rfl
  · exact kind_orElse request name value

/-- A value is given to one option, where it has none and there is one to give. -/
theorem get?_ite_orElse (given : Bool) (request : TokenRequest) (name value other : String) :
    (if given then request.orElse name value else request).get? other =
      if other = name ∧ given then some ((request.get? name).getD value)
      else request.get? other := by
  cases given
  · simp
  · simpa using get?_orElse request name value other

theorem kind_withDefaults (request : TokenRequest) (env : String) (ttl : Span) :
    (request.withDefaults env ttl).kind = request.kind := by
  unfold withDefaults
  simp only [kind_ite_orElse]

/-- Defaults are the values of an environment and a lifetime that are not given. -/
theorem get?_withDefaults (request : TokenRequest) (env : String) (ttl : Span) (name : String) :
    (request.withDefaults env ttl).get? name =
      if name = ttlName ∧ request.kind.allows ttlName ∧ 0 < ttl.nanoseconds then
        some ((request.get? ttlName).getD (Text.decimal ttl.wholeSeconds))
      else if name = envName ∧ request.kind.allows envName ∧ env ≠ "" then
        some ((request.get? envName).getD env)
      else request.get? name := by
  have hnames : ttlName ≠ envName := by decide
  unfold withDefaults
  dsimp only
  -- The two names are different, so the second default does not touch the first one.
  rw [get?_ite_orElse, kind_ite_orElse, get?_ite_orElse, get?_ite_orElse]
  simp only [hnames, false_and, if_false, Bool.and_eq_true, bne_iff_ne, Span.isPositive,
    decide_eq_true_eq]

/-! ## Options one by one -/

/-- The value of an option is one that a request may have. -/
structure InOrder (name value : String) : Prop where
  notBlank : Text.isAllBlank value = false
  scopes : name = scopesName →
    ∃ scopes, Scopes.ofText value = .ok scopes ∧ scopes.normalText = value
  ttl : name = ttlName →
    ∃ n, Text.int64? value.toList = some n ∧ Text.positiveSeconds? value = some n

/-- An option that is not in order came in as a default: an environment of blanks, or a lifetime
of less than a second. -/
inductive Unchecked (Default : String → Span → Prop) : String → String → Prop where
  | env {env ttl} (h : Default env ttl) (hne : env ≠ "") (hblank : Text.isAllBlank env) :
      Unchecked Default envName env
  | ttl {env ttl} (h : Default env ttl) (hpos : 0 < ttl.nanoseconds)
      (hlt : ttl.nanoseconds < nanosPerSecond) : Unchecked Default ttlName "0"

/-- A value that is kept for an option is in order. -/
theorem keptValue_inOrder {name value kept : String} (h : keptValue name value = .ok kept) :
    InOrder name kept := by
  unfold keptValue at h
  -- The value is of one of three sorts, by its name.
  split at h
  next => cases h
  next hblank =>
    split at h
    next hscopes =>
      -- The scopes are written anew from the set that they are.
      split at h
      next => cases h
      next scopes hread =>
        cases h
        refine ⟨scopes.isAllBlank_normalText, fun _ => ⟨scopes, scopes.ofText_normalText, rfl⟩, ?_⟩
        intro httl
        exact absurd (hscopes.symm.trans httl) (by decide)
    next hscopes =>
      split at h
      next =>
        split at h
        next => cases h
        next n hread =>
          cases h
          refine ⟨?_, fun hname => absurd hname hscopes, fun _ => ⟨n, ?_, ?_⟩⟩
          · rw [Text.isAllBlank_trim]
            exact Bool.eq_false_iff.mpr hblank
          · exact Text.int64?_of_positiveSeconds? hread
          · rw [Text.positiveSeconds?_trim, hread]
      next httl =>
        cases h
        exact ⟨Bool.eq_false_iff.mpr hblank, fun hname => absurd hname hscopes,
          fun hname => absurd hname httl⟩

/-- A default environment is in order unless it is blank. -/
theorem inOrder_env {env : String} (h : Text.isAllBlank env = false) : InOrder envName env :=
  ⟨h, fun hname => absurd hname (by decide), fun hname => absurd hname (by decide)⟩

/-- A default lifetime of a second or more is in order. -/
theorem inOrder_ttl {ttl : Span} (h : nanosPerSecond ≤ ttl.nanoseconds) :
    InOrder ttlName (Text.decimal ttl.wholeSeconds) := by
  obtain ⟨hpos, hmax⟩ := Span.wholeSeconds_bounds h
  have hread := Text.positiveSeconds?_decimal hpos hmax
  exact ⟨Text.isAllBlank_of_positiveSeconds? hread, fun hname => absurd hname (by decide),
    fun _ => ⟨_, Text.int64?_decimal hpos hmax, hread⟩⟩

/-! ## Whole requests -/

variable {Default : String → Span → Prop} {request next : TokenRequest}

/-- The kind has all options of the request, and those that are not in order are defaults. -/
def Admitted (Default : String → Span → Prop) (request : TokenRequest) : Prop :=
  ∀ name value, request.get? name = some value →
    request.kind.allows name ∧ (InOrder name value ∨ Unchecked Default name value)

/-- A value can be given to an option of the kind if it is in order or a default. -/
theorem Admitted.insert (hadmitted : Admitted Default request) {name value : String}
    (hallowed : request.kind.allows name)
    (hvalue : InOrder name value ∨ Unchecked Default name value) :
    Admitted Default { request with options := request.options.insert name value } := by
  intro other given hgiven
  rw [get?, NameMap.get?_insert] at hgiven
  -- The name that is given now, or one that was given before.
  split at hgiven
  next heq =>
    cases hgiven
    rw [heq]
    exact ⟨hallowed, hvalue⟩
  next => exact hadmitted other given hgiven

theorem Admitted.put (hadmitted : Admitted Default request) {pair : String × String}
    (hallowed : request.kind.allows pair.1) (h : request.put pair = .ok next) :
    Admitted Default next ∧ next.kind = request.kind := by
  unfold TokenRequest.put at h
  split at h
  next => cases h
  next value hkept =>
    cases h
    exact ⟨hadmitted.insert hallowed (.inl (keptValue_inOrder hkept)), rfl⟩

theorem Admitted.foldlM_put {pairs : List (String × String)} (hadmitted : Admitted Default request)
    (hallowed : ∀ pair ∈ pairs, request.kind.allows pair.1)
    (h : pairs.foldlM TokenRequest.put request = .ok next) : Admitted Default next := by
  -- On the pairs; each is put into a request of the same kind.
  induction pairs generalizing request with
  | nil =>
    cases h
    exact hadmitted
  | cons pair rest ih =>
    obtain ⟨hpair, hrest⟩ := List.forall_mem_cons.mp hallowed
    rw [List.foldlM_cons] at h
    cases hput : request.put pair with
    | error fault =>
      rw [hput] at h
      cases h
    | ok taken =>
      rw [hput] at h
      obtain ⟨htaken, hkind⟩ := hadmitted.put hpair hput
      exact ih htaken (fun other hother => hkind ▸ hrest other hother) h

theorem admitted_ofPairs {kind : TokenKind} {pairs : List (String × String)}
    (h : TokenRequest.ofPairs kind pairs = .ok request) : Admitted Default request := by
  unfold TokenRequest.ofPairs at h
  split at h
  next => cases h
  next hnames =>
    refine Admitted.foldlM_put (fun name value hvalue => ?_) ?_ h
    · cases hvalue
    · exact fun pair hpair =>
        checkNames_eq_ok_iff.mp hnames pair.1 (List.mem_map_of_mem hpair)

theorem Admitted.withOption (hadmitted : Admitted Default request) {name value : String}
    (h : request.withOption name value = .ok next) : Admitted Default next := by
  unfold TokenRequest.withOption at h
  split at h
  next => cases h
  next hname =>
    exact (hadmitted.put (checkNames_eq_ok_iff.mp hname name List.mem_cons_self) h).1

/-- A default value is in order, or one that is not checked. -/
theorem inOrder_or_unchecked_env {env : String} {ttl : Span} (h : Default env ttl)
    (hne : env ≠ "") : InOrder envName env ∨ Unchecked Default envName env := by
  cases hblank : Text.isAllBlank env with
  | false => exact .inl (inOrder_env hblank)
  | true => exact .inr (.env h hne hblank)

theorem inOrder_or_unchecked_ttl {env : String} {ttl : Span} (h : Default env ttl)
    (hpos : 0 < ttl.nanoseconds) :
    InOrder ttlName (Text.decimal ttl.wholeSeconds) ∨
      Unchecked Default ttlName (Text.decimal ttl.wholeSeconds) := by
  rcases Int.lt_or_le ttl.nanoseconds nanosPerSecond with hlt | hle
  · -- No whole second remains, and that is written down.
    rw [Span.wholeSeconds_eq_zero hpos hlt]
    exact .inr (.ttl h hpos hlt)
  · exact .inl (inOrder_ttl hle)

theorem Admitted.withDefaults (hadmitted : Admitted Default request) {env : String} {ttl : Span}
    (h : Default env ttl) : Admitted Default (request.withDefaults env ttl) := by
  intro name value hvalue
  rw [kind_withDefaults]
  rw [get?_withDefaults] at hvalue
  -- A value is that of a default only if none was given under the name.
  split at hvalue
  next hname =>
    obtain ⟨rfl, hallowed, hpos⟩ := hname
    cases hgiven : request.get? ttlName with
    | some given => exact hadmitted _ _ (by rw [hgiven, ← hvalue, hgiven, Option.getD_some])
    | none =>
      rw [hgiven, Option.getD_none] at hvalue
      cases hvalue
      exact ⟨hallowed, inOrder_or_unchecked_ttl h hpos⟩
  next =>
    split at hvalue
    next hname =>
      obtain ⟨rfl, hallowed, hne⟩ := hname
      cases hgiven : request.get? envName with
      | some given => exact hadmitted _ _ (by rw [hgiven, ← hvalue, hgiven, Option.getD_some])
      | none =>
        rw [hgiven, Option.getD_none] at hvalue
        cases hvalue
        exact ⟨hallowed, inOrder_or_unchecked_env h hne⟩
    next => exact hadmitted name value hvalue

/-- The kind of a request has all of its options, and those that are not in order came in as
defaults. -/
theorem Made.admitted (h : Made Default request) : Admitted Default request := by
  induction h with
  | ofPairs h => exact admitted_ofPairs h
  | ofScopesText h => exact admitted_ofPairs h
  | accessManagement h => exact admitted_ofPairs h
  | withOption _ h ih => exact ih.withOption h
  | withDefaults _ h ih => exact ih.withDefaults h

/-- A request is well formed if its kind has all of its options and all of them are in order. -/
theorem wellFormed_of_inOrder
    (h : ∀ name value, request.get? name = some value →
      request.kind.allows name ∧ InOrder name value) : request.WellFormed where
  allowed name value hvalue := (h name value hvalue).1
  notBlank name value hvalue := (h name value hvalue).2.notBlank
  scopes text htext := by
    obtain ⟨scopes, hread, hnormal⟩ := (h _ _ htext).2.scopes rfl
    refine ⟨scopes, ?_, hnormal⟩
    rw [scopes?, htext, Option.bind_some, hread]
    rfl
  ttl text htext := by
    obtain ⟨n, hdigits, hread⟩ := (h _ _ htext).2.ttl rfl
    have hpos := Text.positiveSeconds?_pos hread
    obtain ⟨span, hspan, hnanos⟩ := Span.ofSeconds?_eq_some hpos (Text.positiveSeconds?_le hread)
    refine ⟨n, span, hdigits, hpos, ?_, hnanos⟩
    rw [ttl?, htext, Option.bind_some, hread, Option.bind_some, hspan]

/-- No default that is proper comes into a request unchecked. -/
theorem Unchecked.not_proper {name value : String} (h : Unchecked Default name value) :
    ∃ env ttl, Default env ttl ∧ ¬ProperDefaults env ttl := by
  -- A blank `env` and a lifetime below a second are the two defaults that nobody checks.
  cases h with
  | env h hne hblank =>
    refine ⟨_, _, h, fun hproper => ?_⟩
    rcases hproper.env with hempty | hnotBlank
    · exact hne hempty
    · rw [hnotBlank] at hblank
      cases hblank
  | ttl h hpos hlt =>
    refine ⟨_, _, h, fun hproper => ?_⟩
    have hproper := hproper.ttl
    omega

/-- A request is well formed if all defaults are proper. -/
theorem Made.wellFormed (hmade : Made Default request)
    (h : ∀ env ttl, Default env ttl → ProperDefaults env ttl) : request.WellFormed := by
  refine wellFormed_of_inOrder fun name value hvalue => ?_
  obtain ⟨hallowed, hinOrder | hunchecked⟩ := hmade.admitted name value hvalue
  · exact ⟨hallowed, hinOrder⟩
  · obtain ⟨env, ttl, hdefault, hnot⟩ := hunchecked.not_proper
    exact absurd (h env ttl hdefault) hnot

/-- The request of a platform that has only defaults. -/
theorem made_ofDefaults {env : String} {ttl : Span} (h : Default env ttl) :
    Made Default (withDefaults ⟨.platform, .empty⟩ env ttl) := by
  have hempty : TokenRequest.ofPairs .platform [] = .ok ⟨.platform, .empty⟩ := rfl
  exact .withDefaults (.ofPairs hempty) h

/-- If a request with only defaults is well formed, they are proper. -/
theorem properDefaults_of_wellFormed {env : String} {ttl : Span}
    (h : (withDefaults ⟨.platform, .empty⟩ env ttl).WellFormed) : ProperDefaults env ttl where
  env := by
    -- With the platform kind both names are allowed, so the defaults are the values that are found.
    refine or_iff_not_imp_left.mpr fun hne => h.notBlank envName env ?_
    have hplatform : TokenKind.platform.allows envName := by decide
    have hname : envName ≠ ttlName := by decide
    rw [get?_withDefaults, if_neg fun hand => hname hand.1, if_pos ⟨rfl, hplatform, hne⟩]
    rfl
  ttl := by
    by_contra hnot
    obtain ⟨hpos, hlt⟩ : 0 < ttl.nanoseconds ∧ ttl.nanoseconds < nanosPerSecond := by omega
    have hplatform : TokenKind.platform.allows ttlName := by decide
    have hvalue : (withDefaults ⟨.platform, .empty⟩ env ttl).get? ttlName = some "0" := by
      rw [get?_withDefaults, if_pos ⟨rfl, hplatform, hpos⟩, Span.wholeSeconds_eq_zero hpos hlt]
      rfl
    obtain ⟨n, span, hread, hn, -⟩ := h.ttl "0" hvalue
    have hzero : Text.int64? "0".toList = some 0 := by decide
    rw [hzero] at hread
    cases hread
    exact absurd hn (by decide)

/-- Whichever way a request is made, its kind has all of its options, and an option that is not in
order came in as a default.  All requests are well formed if and only if all defaults are
proper. -/
theorem made_wellFormed_iff (Default : String → Span → Prop) :
    (∀ request, Made Default request → Admitted Default request) ∧
    ((∀ request : TokenRequest, Made Default request → request.WellFormed) ↔
      ∀ env ttl, Default env ttl → ProperDefaults env ttl) := by
  refine ⟨fun request hmade => hmade.admitted, fun h env ttl hdefault => ?_,
    fun h request hmade => ?_⟩
  · exact properDefaults_of_wellFormed (h _ (made_ofDefaults hdefault))
  · exact hmade.wellFormed h

/-- An environment of one blank and a lifetime of half a second come into a request, which then
has a blank option and a lifetime that cannot be read. -/
theorem unchecked_defaults_kept :
    ∃ request, Made (fun _ _ => True) request ∧
      request.get? envName = some " " ∧ Text.isAllBlank " " ∧
      request.get? ttlName = some "0" ∧ request.ttl? = none ∧ ¬request.WellFormed := by
  have hkept : withDefaults ⟨.platform, .empty⟩ " " ⟨500000000, by decide⟩ =
      ⟨.platform, (NameMap.empty.insert envName " ").insert ttlName "0"⟩ := by decide
  -- Both defaults are taken over, and the request they make says that they were not proper.
  refine ⟨_, @made_ofDefaults _ " " ⟨500000000, by decide⟩ trivial, ?_⟩
  rw [hkept]
  refine ⟨by decide, by decide, by decide, by decide, fun hwell => ?_⟩
  have hproper : ProperDefaults " " ⟨500000000, by decide⟩ :=
    properDefaults_of_wellFormed (hkept ▸ hwell)
  have hblank : ¬(" " = "" ∨ Text.isAllBlank " " = false) := by decide
  exact hblank hproper.env

end TokenRequest

end BearerCache
