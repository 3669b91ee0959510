import BearerCache.Proofs.Provenance
import BearerCache.Proofs.WireQuery

/-! # The lifetime that is asked for and the one that is kept

The token generator is told the lifetime of a token in whole seconds, by an option of the canonical
request.  The rule for a lease goes by that option where it can be read, and by the usual lifetime
of the settings where it cannot.  So a lease lives as long as was asked for if the request says
so itself, or if the usual lifetime has no fraction of a second.  A fraction is cut off from what is
asked for, but not from what the rule says for a request that has not been completed.

## Key results

- `Ready.parameter?`: the parameters that are sent are the options of the canonical request
- `canonical_canonical`: a canonical request is its own canonical form
- `keepsLifetime_iff`: when the lifetimes of a request are the one that is asked for
-/

namespace BearerCache

/-- The value of a parameter in the query of a request. -/
def Http.Request.parameter? (wire : Http.Request) (name : String) : Option String :=
  (Text.Form.decode (String.ofList wire.queryChars)).lookup name

/-- Spans of as many nanoseconds are the same. -/
theorem Span.eq_of_nanoseconds {a b : Span} (h : a.nanoseconds = b.nanoseconds) : a = b := by
  cases a
  cases b
  cases h
  rfl

/-- From an instant to the one a span later it is that span. -/
theorem Instant.spanTo_of_add? {a b : Instant} {span : Span} (h : a.add? span = some b) :
    a.spanTo b = span := by
  have hsum : b.nanoseconds = a.nanoseconds + span.nanoseconds := ofNanoseconds?_nanoseconds h
  refine Span.eq_of_nanoseconds ?_
  show b.nanoseconds - a.nanoseconds = span.nanoseconds
  omega

/-- A span without a fraction is that of its whole seconds. -/
theorem Span.nanoseconds_of_subsecond {span : Span} (h : span.subsecond = 0) :
    span.nanoseconds = span.wholeSeconds * nanosPerSecond := by
  have hparts := Int.tmod_add_tdiv_mul span.nanoseconds nanosPerSecond
  rw [subsecond] at h
  rw [h, Int.zero_add] at hparts
  exact hparts.symm

namespace TokenRequest

/-- A lifetime that is given can be read exactly when its text is a positive number of seconds,
and is that number. -/
theorem ttl?_of_get? {request : TokenRequest} {text : String} {n : Int}
    (htext : request.get? ttlName = some text) (hread : Text.positiveSeconds? text = some n) :
    ∃ span, request.ttl? = some span ∧ span.nanoseconds = n * nanosPerSecond := by
  obtain ⟨span, hspan, hnanos⟩ :=
    Span.ofSeconds?_eq_some (Text.positiveSeconds?_pos hread) (Text.positiveSeconds?_le hread)
  exact ⟨span, by rw [ttl?, htext, Option.bind_some, hread, Option.bind_some, hspan], hnanos⟩

/-- A lifetime that can be read is given, as a positive number of seconds. -/
theorem exists_of_ttl? {request : TokenRequest} {span : Span} (h : request.ttl? = some span) :
    ∃ text n, request.get? ttlName = some text ∧ Text.positiveSeconds? text = some n ∧
      span.nanoseconds = n * nanosPerSecond := by
  obtain ⟨text, htext, h⟩ := Option.bind_eq_some_iff.mp h
  obtain ⟨n, hread, hspan⟩ := Option.bind_eq_some_iff.mp h
  refine ⟨text, n, htext, hread, ?_⟩
  rw [Span.ofNanoseconds?_nanoseconds hspan, Int.add_zero]

/-- Completing a request once more with the same defaults changes nothing. -/
theorem withDefaults_withDefaults (request : TokenRequest) (env : String) (ttl : Span) :
    (request.withDefaults env ttl).withDefaults env ttl = request.withDefaults env ttl := by
  have hnames : envName ≠ ttlName := by decide
  -- Both options have been set the first time, so there is nothing to set the second time.
  have hoptions : ((request.withDefaults env ttl).withDefaults env ttl).options =
      (request.withDefaults env ttl).options := by
    refine NameMap.ext fun name => ?_
    show ((request.withDefaults env ttl).withDefaults env ttl).get? name =
      (request.withDefaults env ttl).get? name
    rw [get?_withDefaults _ _ _ name, kind_withDefaults]
    split
    next h =>
      obtain ⟨rfl, h⟩ := h
      simp only [get?_withDefaults, true_and, if_pos h, Option.getD_some]
    next h =>
      split
      next h' =>
        obtain ⟨rfl, h'⟩ := h'
        simp only [get?_withDefaults, hnames, false_and, if_false, true_and, if_pos h',
          Option.getD_some]
      next => rfl
  have hkind := kind_withDefaults (request.withDefaults env ttl) env ttl
  generalize (request.withDefaults env ttl).withDefaults env ttl = twice at hoptions hkind ⊢
  generalize request.withDefaults env ttl = once at hoptions hkind ⊢
  obtain ⟨kind, options⟩ := twice
  cases hoptions
  cases hkind
  rfl

end TokenRequest

namespace GeneratorSettings

variable {settings : GeneratorSettings} {request : TokenRequest}

/-! ## What is sent -/

/-- A canonical request is its own canonical form. -/
theorem canonical_canonical (settings : GeneratorSettings) (request : TokenRequest) :
    settings.canonical (settings.canonical request) = settings.canonical request := by
  unfold canonical
  cases hendpoint : request.kind.endpoint? with
  | none => simp only [hendpoint]
  | some endpoint =>
    simp only [TokenRequest.kind_withDefaults, hendpoint, TokenRequest.withDefaults_withDefaults]

/-- The same is sent for a request and for its canonical form. -/
theorem wireRequest_canonical (settings : GeneratorSettings) (request : TokenRequest) :
    settings.wireRequest (settings.canonical request) = settings.wireRequest request := by
  unfold wireRequest
  rw [canonical_canonical, kind_canonical]

/-- The parameters that are sent are the options of the canonical request. -/
theorem Ready.parameter? (h : settings.Ready) {wire : Http.Request}
    (hwire : settings.wireRequest request = .ok wire) (name : String) :
    wire.parameter? name = (settings.canonical request).get? name := by
  rw [Http.Request.parameter?, h.queryChars hwire, TokenRequest.key, EntryKey.formChars_ofRequest,
    String.ofList_toList, Text.Form.decode_encode]
  rfl

/-- Every kind with an endpoint has a lifetime. -/
theorem allows_ttlName {kind : TokenKind} {endpoint : String}
    (h : kind.endpoint? = some endpoint) : kind.allows TokenRequest.ttlName := by
  cases kind <;> first | decide | cases h

/-- The lifetime of a canonical request is the one that is given, or else the usual one in whole
seconds. -/
theorem Ready.ttl_canonical (h : settings.Ready) {endpoint : String}
    (hendpoint : request.kind.endpoint? = some endpoint) :
    (settings.canonical request).get? TokenRequest.ttlName =
      some ((request.get? TokenRequest.ttlName).getD
        (Text.decimal settings.defaultTtl.wholeSeconds)) := by
  rw [canonical]
  simp only [hendpoint]
  rw [TokenRequest.get?_withDefaults, if_pos ⟨rfl, allows_ttlName hendpoint, h.defaultTtl⟩]

/-! ## What is kept -/

/-- For a request the token generator is asked for a lifetime of `n` seconds, and that is the
lifetime which the rule has for the request as it is and in its canonical form, and the lifetime
of every lease that a cache saves for it. -/
structure KeepsLifetime (settings : GeneratorSettings) (request : TokenRequest) (n : Int)
    (span : Span) : Prop where
  pos : 0 < n
  nanoseconds : span.nanoseconds = n * nanosPerSecond
  sent : ∃ wire text, settings.wireRequest request = .ok wire ∧
    settings.wireRequest (settings.canonical request) = .ok wire ∧
    wire.parameter? TokenRequest.ttlName = some text ∧ Text.positiveSeconds? text = some n
  rule : settings.rule request = .fixed span
  rule_canonical : settings.rule (settings.canonical request) = .fixed span
  saved : ∀ margin history number lease later state,
    Cache.Reaches (.ofFetcher settings.fetcher margin)
      (history ++ .saved number (settings.canonical request).key lease :: later) state →
    lease.issuedAt.spanTo lease.expiresAt = span

/-- The leases that are saved for a request live as long as the rule for its canonical form
says. -/
theorem span_of_saved {margin span : Span} {history later : List Cache.Event} {number : Nat}
    {lease : Lease} {state : Cache.State}
    (hrule : settings.rule (settings.canonical request) = .fixed span)
    (h : Cache.Reaches (.ofFetcher settings.fetcher margin)
      (history ++ .saved number (settings.canonical request).key lease :: later) state) :
    lease.issuedAt.spanTo lease.expiresAt = span := by
  obtain ⟨saved, hkey, hissued⟩ := h.issued_of_saved
  -- The key tells for which request the lease was issued.
  obtain rfl := TokenRequest.key_injective hkey
  have hlifetime : (Cache.Rules.ofFetcher settings.fetcher margin).lifetime
      (settings.canonical request) = .fixed span := hrule
  simp only [Cache.Issued, hlifetime] at hissued
  exact Instant.spanTo_of_add? hissued.2

/-- If the lifetime that is sent is a positive number of seconds, and the rule has that lifetime
for the request, it has it for the canonical form too, and for all that is saved. -/
theorem Ready.keepsLifetime (h : settings.Ready) {endpoint text : String} {n : Int} {span : Span}
    (hendpoint : request.kind.endpoint? = some endpoint)
    (htext : (settings.canonical request).get? TokenRequest.ttlName = some text)
    (hread : Text.positiveSeconds? text = some n) (hnanos : span.nanoseconds = n * nanosPerSecond)
    (hrule : settings.rule request = .fixed span) : settings.KeepsLifetime request n span := by
  -- What is sent is the text of the canonical request, and the rule comes from the same text.
  obtain ⟨front, -, hsent⟩ := h.wireRequest
  obtain ⟨wire, hwire, -⟩ := hsent request endpoint hendpoint
  have hcanonical : settings.rule (settings.canonical request) = .fixed span := by
    obtain ⟨read, httl, hnanos'⟩ := TokenRequest.ttl?_of_get? htext hread
    rw [GeneratorSettings.rule, lifetime, httl, Option.getD_some,
      Span.eq_of_nanoseconds (hnanos'.trans hnanos.symm)]
  exact
    { pos := Text.positiveSeconds?_pos hread
      nanoseconds := hnanos
      sent := ⟨wire, text, hwire, (wireRequest_canonical settings request).trans hwire,
        (h.parameter? hwire _).trans htext, hread⟩
      rule := hrule
      rule_canonical := hcanonical
      saved := fun _ _ _ _ _ _ hreaches => span_of_saved hcanonical hreaches }

/-- The token generator is asked for the lifetime that is kept just when the request gives a
lifetime that can be read, or gives none and the usual lifetime is one of whole seconds. -/
theorem keepsLifetime_iff (haccepted : settings.Accepted) (hkind : request.kind ≠ .maskinporten) :
    (∃ n span, settings.KeepsLifetime request n span) ↔
      request.ttl?.isSome ∨
        request.get? TokenRequest.ttlName = none ∧ settings.defaultTtl.subsecond = 0 := by
  have hready := haccepted.ready
  obtain ⟨endpoint, hendpoint⟩ := TokenKind.exists_endpoint hkind
  have hcanonical := hready.ttl_canonical hendpoint
  constructor
  · rintro ⟨n, span, hkeeps⟩
    cases httl : request.ttl? with
    | some given => exact .inl rfl
    | none =>
      refine .inr ?_
      -- The rule has the usual lifetime, and the parameter is the text that is given, if one is.
      have hrule := hkeeps.rule
      rw [rule, lifetime, httl, Option.getD_none] at hrule
      obtain rfl := LifetimeRule.fixed.inj hrule
      obtain ⟨wire, text, hwire, -, hparameter, hread⟩ := hkeeps.sent
      rw [hready.parameter? hwire, hcanonical] at hparameter
      constructor
      · cases htext : request.get? TokenRequest.ttlName with
        | none => rfl
        | some given =>
          rw [htext, Option.getD_some] at hparameter
          cases hparameter
          obtain ⟨read, hsome, -⟩ := TokenRequest.ttl?_of_get? htext hread
          cases httl.symm.trans hsome
      · rw [Span.subsecond, hkeeps.nanoseconds, Int.mul_tmod_left]
  · rintro (hgiven | ⟨hnone, hwhole⟩)
    -- The request has a text that is read, which is sent and kept as that many seconds.
    · obtain ⟨span, httl⟩ := Option.isSome_iff_exists.mp hgiven
      obtain ⟨text, n, htext, hread, hnanos⟩ := TokenRequest.exists_of_ttl? httl
      rw [htext, Option.getD_some] at hcanonical
      have hrule : settings.rule request = .fixed span := by
        rw [rule, lifetime, httl, Option.getD_some]
      exact ⟨n, span, hready.keepsLifetime hendpoint hcanonical hread hnanos hrule⟩
    -- It has none, and the usual lifetime has no fraction, so what is written is what is kept.
    · have hnanos := Span.nanoseconds_of_subsecond hwhole
      have hsecond : nanosPerSecond ≤ settings.defaultTtl.nanoseconds := by
        have hpositive := hready.defaultTtl
        simp only [nanosPerSecond] at hnanos ⊢
        omega
      obtain ⟨hpos, hmax⟩ := Span.wholeSeconds_bounds hsecond
      have hread := Text.positiveSeconds?_decimal hpos hmax
      rw [hnone, Option.getD_none] at hcanonical
      have hrule : settings.rule request = .fixed settings.defaultTtl := by
        rw [rule, lifetime, TokenRequest.ttl?, hnone, Option.bind_none, Option.getD_none]
      exact ⟨_, _, hready.keepsLifetime hendpoint hcanonical hread hnanos hrule⟩

end GeneratorSettings

namespace Sample

/-- A request without options gets the usual lifetime, which is an hour. -/
theorem keeps_hour : ∃ n span, settings.KeepsLifetime ⟨.platform, .empty⟩ n span :=
  (GeneratorSettings.keepsLifetime_iff settings_accepted (by decide)).mpr (.inr (by decide))

/-- The token generator with a usual lifetime of a second and a half. -/
def fractional : GeneratorSettings :=
  { settings with defaultTtl := ⟨1500000000, by decide⟩ }

theorem fractional_accepted : fractional.Accepted := by
  have hparse : Url.parse "http://[::1]/api" = .ok address := by decide
  have hbuild : GeneratorDraft.build { GeneratorDraft.ofUser "user" "pass" with
      baseUrl := some address, defaultTtl := ⟨1500000000, by decide⟩ } = .ok fractional := by decide
  exact .of_isRead rfl (.parse hparse) hbuild

/-- With that lifetime the token generator is asked for one second, for which the rule has a second
and a half, and no lifetime is kept. -/
theorem fraction_not_kept :
    fractional.Accepted ∧
      (fractional.canonical ⟨.personal, .empty⟩).get? TokenRequest.ttlName = some "1" ∧
      fractional.rule ⟨.personal, .empty⟩ = .fixed ⟨1500000000, by decide⟩ ∧
      fractional.rule (fractional.canonical ⟨.personal, .empty⟩) =
        .fixed ⟨1000000000, by decide⟩ ∧
      ¬∃ n span, fractional.KeepsLifetime ⟨.personal, .empty⟩ n span := by
  have hrule : fractional.rule ⟨.personal, .empty⟩ = .fixed ⟨1500000000, by decide⟩ := by decide
  have hcanonical : fractional.rule (fractional.canonical ⟨.personal, .empty⟩) =
      .fixed ⟨1000000000, by decide⟩ := by decide
  refine ⟨fractional_accepted, by decide, hrule, hcanonical, ?_⟩
  rintro ⟨n, span, hkeeps⟩
  -- The two rules would be the same lifetime, but the fraction is in one of them only.
  have hsame := (hrule.symm.trans hkeeps.rule).trans (hkeeps.rule_canonical.symm.trans hcanonical)
  exact absurd hsame (by decide)

end Sample

end BearerCache
