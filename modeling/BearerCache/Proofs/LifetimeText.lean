import BearerCache.Proofs.Construction
import BearerCache.Proofs.EndpointAddress
import BearerCache.Proofs.Lifetimes

/-! # Lifetimes that are given as texts

A lifetime comes in by the option of a request or by a variable of the environment.  Both take the
same texts for the same number of seconds: a decimal integer from one up that fits in 64 bits, with
a sign or none and with blanks around it.  The option refuses every other text; the variable counts
as not set then, and the usual lifetime of an hour is left.

## Main definitions

- `Text.IsLifetime`: the texts of lifetimes
- `GeneratorSettings.NamesUser`: variables with a user name and a password

## Key results

- `TokenRequest.ofPairs_ttl`: the request with a lifetime alone
- `GeneratorSettings.NamesUser.ofVariables_eq`: the settings that variables give
- `lifetime_inputs_agree`: one text, given in either way
-/

namespace BearerCache

/-- A text is a number of seconds: without blanks around it, it is a decimal integer from one up
that fits in 64 bits. -/
def Text.IsLifetime (text : String) (n : Int) : Prop :=
  IsDecimal (trim text).toList n ∧ 1 ≤ n ∧ n ≤ int64Max

/-- The whole seconds of a span that is made of some are these. -/
theorem Span.wholeSeconds_of_nanoseconds {span : Span} {n : Int}
    (h : span.nanoseconds = n * nanosPerSecond) : span.wholeSeconds = n := by
  rw [wholeSeconds, h]
  exact Int.mul_tdiv_cancel n (by decide)

/-! ## The option of a request -/

namespace TokenRequest

variable {text : String} {n : Int}

/-- The lifetime of a request is the span of the seconds that are read of its text. -/
theorem ttl?_eq {request : TokenRequest} {span : Span} (htext : request.get? ttlName = some text)
    (hread : Text.positiveSeconds? text = some n)
    (hnanos : span.nanoseconds = n * nanosPerSecond) : request.ttl? = some span := by
  obtain ⟨same, hsame, hsameNanos⟩ := ttl?_of_get? htext hread
  rw [hsame, Span.eq_of_nanoseconds (hsameNanos.trans hnanos.symm)]

/-- A text that is read as a number of seconds is kept as a lifetime, trimmed. -/
theorem keptValue_ttl (h : Text.positiveSeconds? text = some n) :
    keptValue ttlName text = .ok (Text.trim text) := by
  have hblank := Text.isAllBlank_of_positiveSeconds? h
  have hnames : ttlName ≠ scopesName := by decide
  simp only [keptValue, hblank, Bool.false_eq_true, if_false, hnames, if_true, h]

/-- The request with a lifetime alone. -/
theorem ofPairs_ttl (h : Text.positiveSeconds? text = some n) :
    ofPairs .platform [(ttlName, text)] =
      .ok ⟨.platform, NameMap.empty.insert ttlName (Text.trim text)⟩ := by
  have hnames : checkNames .platform [ttlName] = .ok () := by decide
  simp only [ofPairs, List.map_cons, List.map_nil, hnames, List.foldlM_cons, List.foldlM_nil, put,
    keptValue_ttl h]
  rfl

/-- The request that is made of the text of a lifetime has that lifetime. -/
theorem exists_ofPairs_of_read {span : Span} (h : Text.positiveSeconds? text = some n)
    (hnanos : span.nanoseconds = n * nanosPerSecond) :
    ∃ request, ofPairs .platform [(ttlName, text)] = .ok request ∧ request.ttl? = some span := by
  refine ⟨_, ofPairs_ttl h, ?_⟩
  have hkept : (TokenRequest.mk .platform (NameMap.empty.insert ttlName (Text.trim text))).get?
      ttlName = some (Text.trim text) := by
    rw [get?, NameMap.get?_insert, if_pos rfl]
  exact ttl?_eq hkept ((Text.positiveSeconds?_trim text).trans h) hnanos

/-- A request with a lifetime alone can be made just of the texts of lifetimes. -/
theorem exists_ofPairs_ttl_iff :
    (∃ request, ofPairs .platform [(ttlName, text)] = .ok request) ↔
      ∃ n, Text.IsLifetime text n := by
  constructor
  · intro h
    exact (exists_ofPairs_iff.mp h _ List.mem_cons_self).2.ttl rfl
  · rintro ⟨n, hlifetime⟩
    exact ⟨_, ofPairs_ttl (Text.positiveSeconds?_eq_some_iff.mpr hlifetime)⟩

end TokenRequest

/-! ## Variables -/

/-- Where no address is set, the usual one is as if it were. -/
theorem Settings.httpUrl_none {field usual : String} {url : Url} (h : Url.parse usual = .ok url) :
    httpUrl field none usual = httpUrl field (some url) usual := by
  simp only [httpUrl, h]
  rfl

/-- The value of a variable that is not blank is trimmed. -/
theorem Settings.requiredVariable_eq {lookup : String → Option String} {name value : String}
    (h : lookup name = some value) (hblank : Text.isAllBlank value = false) :
    requiredVariable lookup name = .ok (Text.trim value) := by
  -- Trimmed, a text that is not blank is not empty.
  have hne : Text.trim value ≠ "" := by
    intro hempty
    rw [← Text.isAllBlank_trim, hempty] at hblank
    cases hblank
  rw [requiredVariable, h, Option.map_some]
  split
  next heq => cases heq
  next heq => exact absurd (Option.some.inj heq) hne
  next heq => rw [Option.some.inj heq]

/-- The usual base address. -/
def GeneratorDraft.usualAddress : Url :=
  ⟨"https", "", none, some (.domain "altinn-testtools-token-generator.azurewebsites.net"), none,
    .segments ["api", ""], none, none⟩

theorem GeneratorDraft.parse_usualUrl : Url.parse usualUrl = .ok usualAddress := by
  decide +kernel

/-- Settings without an address are accepted with the usual one, with positive times. -/
theorem GeneratorDraft.build_of_none {draft : GeneratorDraft} (hbase : draft.baseUrl = none)
    (httl : 0 < draft.defaultTtl.nanoseconds) (htimeout : 0 < draft.requestTimeout.nanoseconds) :
    draft.build = .ok ⟨usualAddress, draft.username, draft.password, draft.defaultEnv,
      draft.defaultTtl, draft.requestTimeout⟩ := by
  have hset : draft.build = { draft with baseUrl := some usualAddress }.build := by
    simp only [build, hbase, Settings.httpUrl_none parse_usualUrl]
  have hnormal := Url.isNormal_of_isRead (.parse parse_usualUrl) (.inr rfl)
  exact hset.trans (build_of_http rfl hnormal httl htimeout)

namespace GeneratorSettings

/-- The variables have a user name and a password, which are not blank. -/
structure NamesUser (lookup : String → Option String) (username password : String) : Prop where
  lookup_username : lookup usernameVariable = some username
  lookup_password : lookup passwordVariable = some password
  username_not_blank : Text.isAllBlank username = false
  password_not_blank : Text.isAllBlank password = false

variable {lookup : String → Option String} {username password text : String} {n : Int} {span : Span}

/-- Variables with a user name and a password give settings, whatever the lifetime is. -/
theorem NamesUser.ofVariables_eq (h : NamesUser lookup username password) :
    ofVariables lookup = .ok ⟨GeneratorDraft.usualAddress, Text.trim username,
      ⟨Text.trim password⟩, GeneratorDraft.usualEnv,
      (((lookup ttlVariable).bind Text.positiveSeconds?).bind Span.ofSeconds?).getD
        GeneratorDraft.usualTtl,
      Settings.defaultTimeout⟩ := by
  -- The lifetime is positive in either case, so the checks of `build` are passed.
  have hpositive : 0 < ((((lookup ttlVariable).bind Text.positiveSeconds?).bind
      Span.ofSeconds?).getD GeneratorDraft.usualTtl).nanoseconds := by
    cases hread : (lookup ttlVariable).bind Text.positiveSeconds? with
    | none => decide
    | some n =>
      obtain ⟨text, -, hn⟩ := Option.bind_eq_some_iff.mp hread
      have hpos := Text.positiveSeconds?_pos hn
      obtain ⟨span, hspan, hnanos⟩ := Span.ofSeconds?_eq_some hpos (Text.positiveSeconds?_le hn)
      rw [Option.bind_some, hspan, Option.getD_some, hnanos]
      exact Int.mul_pos hpos (by decide)
  have htimeout : 0 < Settings.defaultTimeout.nanoseconds := by decide
  simp only [ofVariables, Settings.requiredVariable_eq h.lookup_username h.username_not_blank,
    Settings.requiredVariable_eq h.lookup_password h.password_not_blank, bind, Except.bind]
  rw [GeneratorDraft.build_of_none rfl hpositive htimeout]
  rfl

/-- Where the variable has the text of a lifetime, that is the usual one. -/
theorem NamesUser.exists_of_read (h : NamesUser lookup username password)
    (htext : lookup ttlVariable = some text) (hread : Text.positiveSeconds? text = some n)
    (hspan : Span.ofSeconds? n = some span) :
    ∃ settings, ofVariables lookup = .ok settings ∧ settings.defaultTtl = span := by
  refine ⟨_, h.ofVariables_eq, ?_⟩
  rw [htext, Option.bind_some, hread, Option.bind_some, hspan, Option.getD_some]

/-- Where the variable has another text, the usual lifetime is that of the drafts. -/
theorem NamesUser.exists_of_not_read (h : NamesUser lookup username password)
    (htext : lookup ttlVariable = some text) (hread : Text.positiveSeconds? text = none) :
    ∃ settings, ofVariables lookup = .ok settings ∧
      settings.defaultTtl = GeneratorDraft.usualTtl := by
  refine ⟨_, h.ofVariables_eq, ?_⟩
  rw [htext, Option.bind_some, hread, Option.bind_none, Option.getD_none]

/-- A request that does not say how long asks for the usual lifetime, and its text is read back as
the same span. -/
theorem Ready.canonical_of_unsaid {settings : GeneratorSettings} {request : TokenRequest}
    (h : settings.Ready) (hkind : request.kind ≠ .maskinporten)
    (hunsaid : request.get? TokenRequest.ttlName = none) (hpos : 1 ≤ n) (hmax : n ≤ Text.int64Max)
    (hnanos : settings.defaultTtl.nanoseconds = n * nanosPerSecond) :
    (settings.canonical request).get? TokenRequest.ttlName = some (Text.decimal n) ∧
      (settings.canonical request).ttl? = some settings.defaultTtl := by
  obtain ⟨endpoint, hendpoint⟩ := TokenKind.exists_endpoint hkind
  have hcanonical := h.ttl_canonical hendpoint
  rw [hunsaid, Option.getD_none, Span.wholeSeconds_of_nanoseconds hnanos] at hcanonical
  exact ⟨hcanonical,
    TokenRequest.ttl?_eq hcanonical (Text.positiveSeconds?_decimal hpos hmax) hnanos⟩

end GeneratorSettings

/-! ## Both ways -/

/-- A lifetime is taken from a text in the same way wherever it is given.  A request is made of it
just if it is a number of seconds; then that is the lifetime of the request, and settings from
variables with this text have it as the usual one, which is what is asked for when a request does
not say.  Settings from variables with any other text have the usual lifetime of an hour. -/
theorem lifetime_inputs_agree (text : String) :
    ((∃ request, TokenRequest.ofPairs .platform [(TokenRequest.ttlName, text)] = .ok request) ↔
      ∃ n, Text.IsLifetime text n) ∧
    (∀ n, Text.IsLifetime text n → ∃ span : Span, span.nanoseconds = n * nanosPerSecond ∧
      (∃ request, TokenRequest.ofPairs .platform [(TokenRequest.ttlName, text)] = .ok request ∧
        request.ttl? = some span) ∧
      ∀ lookup username password, GeneratorSettings.NamesUser lookup username password →
        lookup GeneratorSettings.ttlVariable = some text →
        ∃ settings, GeneratorSettings.ofVariables lookup = .ok settings ∧
          settings.defaultTtl = span ∧
          ∀ request : TokenRequest, request.kind ≠ .maskinporten →
            request.get? TokenRequest.ttlName = none →
            (settings.canonical request).get? TokenRequest.ttlName = some (Text.decimal n) ∧
            (settings.canonical request).ttl? = some span) ∧
    ((¬∃ n, Text.IsLifetime text n) → ∀ lookup username password,
      GeneratorSettings.NamesUser lookup username password →
      lookup GeneratorSettings.ttlVariable = some text →
      ∃ settings, GeneratorSettings.ofVariables lookup = .ok settings ∧
        settings.defaultTtl.nanoseconds = 3600 * nanosPerSecond) := by
  refine ⟨TokenRequest.exists_ofPairs_ttl_iff, fun n hlifetime => ?_,
    fun hnone lookup username password huser htext => ?_⟩
  · obtain ⟨-, hpos, hmax⟩ := id hlifetime
    have hread : Text.positiveSeconds? text = some n :=
      Text.positiveSeconds?_eq_some_iff.mpr hlifetime
    -- The option keeps the text and the variable only the span: both are the same `n` seconds.
    obtain ⟨span, hspan, hnanos⟩ := Span.ofSeconds?_eq_some hpos hmax
    refine ⟨span, hnanos, TokenRequest.exists_ofPairs_of_read hread hnanos,
      fun lookup username password huser htext => ?_⟩
    obtain ⟨settings, hsettings, rfl⟩ := huser.exists_of_read htext hread hspan
    have hready := (GeneratorSettings.Accepted.ofVariables hsettings).ready
    exact ⟨settings, hsettings, rfl, fun request hkind hunsaid =>
      hready.canonical_of_unsaid hkind hunsaid hpos hmax hnanos⟩
  -- A text that is no lifetime is as good as none.
  · have hread : Text.positiveSeconds? text = none := by
      refine Option.eq_none_iff_forall_ne_some.mpr fun n hn => hnone ⟨n, ?_⟩
      exact Text.positiveSeconds?_eq_some_iff.mp hn
    obtain ⟨settings, hsettings, husual⟩ := huser.exists_of_not_read htext hread
    exact ⟨settings, hsettings, congrArg Span.nanoseconds husual⟩

namespace Sample

/-- Variables with a user, a password and a lifetime. -/
def environment (lifetime : String) (name : String) : Option String :=
  [(GeneratorSettings.usernameVariable, " user"), (GeneratorSettings.passwordVariable, "pass"),
    (GeneratorSettings.ttlVariable, lifetime)].lookup name

theorem environment_namesUser (lifetime : String) :
    GeneratorSettings.NamesUser (environment lifetime) " user" "pass" :=
  ⟨rfl, rfl, by decide, by decide⟩

/-- A minute with a sign, zeros and blanks is one for the option, for the variable and for what is
asked for then; no seconds are not a lifetime. -/
theorem minute_in_both_ways :
    (∃ request span, TokenRequest.ofPairs .platform [("ttl", "\u3000+0060 ")] = .ok request ∧
      request.ttl? = some span ∧ span.nanoseconds = 60000000000) ∧
    (∃ settings, GeneratorSettings.ofVariables (environment "\u3000+0060 ") = .ok settings ∧
      (settings.canonical ⟨.personal, .empty⟩).get? "ttl" = some "60") ∧
    (¬∃ request, TokenRequest.ofPairs .platform [("ttl", "0")] = .ok request) ∧
    ∃ settings, GeneratorSettings.ofVariables (environment "0") = .ok settings ∧
      settings.defaultTtl.nanoseconds = 3600000000000 := by
  have hread : Text.positiveSeconds? "\u3000+0060 " = some 60 := by decide
  have hnone : Text.positiveSeconds? "0" = none := by decide
  have hnot : ¬∃ n, Text.IsLifetime "0" n := by
    rintro ⟨n, hn⟩
    rw [Text.positiveSeconds?_eq_some_iff.mpr hn] at hnone
    cases hnone
  obtain ⟨-, hagree, -⟩ := lifetime_inputs_agree "\u3000+0060 "
  obtain ⟨hmade, -, hdefault⟩ := lifetime_inputs_agree "0"
  -- The blanks, the sign and the zeros belong to the text but not to the number.
  obtain ⟨span, hnanos, ⟨request, hrequest, httl⟩, hvariables⟩ :=
    hagree 60 (Text.positiveSeconds?_eq_some_iff.mp hread)
  obtain ⟨settings, hsettings, -, hcanonical⟩ :=
    hvariables _ _ _ (environment_namesUser "\u3000+0060 ") rfl
  refine ⟨⟨request, span, hrequest, httl, hnanos⟩, ⟨settings, hsettings, ?_⟩, mt hmade.mp hnot,
    hdefault hnot _ _ _ (environment_namesUser "0") rfl⟩
  exact (hcanonical ⟨.personal, .empty⟩ (by decide) rfl).1

end Sample

end BearerCache
