import BearerCache.Proofs.CalendarEnd
import BearerCache.Proofs.FurtherOptions

/-! # The canonical form of a request

The token generator completes a request with the usual environment and the usual lifetime before
it is sent, and the cache does so before it looks for an entry.  What a request says stays, and a
request that is completed again stays as it is, so what is fetched through the cache is what is
fetched without it.  Whether a request leaves a usual value out or spells it out makes no
difference, unless that value would not be taken as an option.

## Key results

- `TokenRequest.withDefaults_congr`: requests that differ in usual values only are completed to the
  same request
- `get_asks_as_fetch`: a look-up by itself that finds no fresh lease leaves the network as a fetch
  of its request does
- `HasProperDefaults.exists_withOptions`: usual values can be spelled out
- `canonical_laws`: the laws of the canonical form
-/

namespace BearerCache

namespace TokenRequest

variable {request a b : TokenRequest} {env name value : String} {ttl : Span}

/-- Requests of one kind with the same options are the same. -/
theorem eq_of_get? (hkind : a.kind = b.kind) (h : ∀ name, a.get? name = b.get? name) : a = b := by
  obtain ⟨kind, options⟩ := a
  obtain ⟨kind', options'⟩ := b
  cases hkind
  cases NameMap.ext h
  rfl

/-- What a request says stays when it is completed. -/
theorem get?_withDefaults_of_get? (h : request.get? name = some value) :
    (request.withDefaults env ttl).get? name = some value := by
  rw [get?_withDefaults]
  split
  next hname => rw [← hname.1, h, Option.getD_some]
  next =>
    split
    next hname => rw [← hname.1, h, Option.getD_some]
    next => exact h

/-- Only an environment and a lifetime are added. -/
theorem get?_of_get?_withDefaults (h : (request.withDefaults env ttl).get? name = some value) :
    request.get? name = some value ∨ name = envName ∨ name = ttlName := by
  rw [get?_withDefaults] at h
  split at h
  next hname => exact .inr (.inr hname.1)
  next =>
    split at h
    next hname => exact .inr (.inl hname.1)
    next => exact .inl h

/-- Requests that differ only in whether they have a usual value or none are completed to the same
request. -/
theorem withDefaults_congr (hkind : a.kind = b.kind) (hallowsEnv : b.kind.allows envName)
    (hallowsTtl : b.kind.allows ttlName) (hne : env ≠ "") (hpos : 0 < ttl.nanoseconds)
    (henv : (a.get? envName).getD env = (b.get? envName).getD env)
    (httl : (a.get? ttlName).getD (Text.decimal ttl.wholeSeconds) =
      (b.get? ttlName).getD (Text.decimal ttl.wholeSeconds))
    (hother : ∀ name, name ≠ envName → name ≠ ttlName → a.get? name = b.get? name) :
    a.withDefaults env ttl = b.withDefaults env ttl := by
  refine eq_of_get? (by rw [kind_withDefaults, kind_withDefaults, hkind]) fun name => ?_
  have hnames : envName ≠ ttlName := by decide
  rw [get?_withDefaults, get?_withDefaults, hkind]
  -- Only the two names with a usual value are asked for differently in the two forms.
  by_cases hisTtl : name = ttlName
  · simp only [hisTtl, hallowsTtl, hpos, and_self, if_true, httl]
  · by_cases hisEnv : name = envName
    · simp only [hisEnv, hnames, hallowsEnv, hne, false_and, if_false, ne_eq, not_false_eq_true,
        and_self, if_true, henv]
    · simp only [hisTtl, hisEnv, false_and, if_false]
      exact hother name hisEnv hisTtl

/-- An option that the kind has is added as it is, if that is what is kept of its value. -/
theorem withOption_of_keptValue (hallowed : request.kind.allows name)
    (hkept : keptValue name value = .ok value) :
    request.withOption name value =
      .ok { request with options := request.options.insert name value } := by
  have hcheck : checkNames request.kind [name] = .ok () :=
    checkNames_eq_ok_iff.mpr fun other hother => List.mem_singleton.mp hother ▸ hallowed
  rw [withOption, hcheck]
  simp only [put, hkept]

end TokenRequest

/-- Every kind with an endpoint has an environment. -/
theorem GeneratorSettings.allows_envName {kind : TokenKind} {endpoint : String}
    (h : kind.endpoint? = some endpoint) : kind.allows TokenRequest.envName := by
  cases kind <;> first | decide | cases h

namespace GeneratorSettings

variable {settings : GeneratorSettings} {request : TokenRequest}

/-! ## Completing -/

/-- A request of a kind that the token generator does not serve stays as it is. -/
theorem canonical_of_maskinporten (h : request.kind = .maskinporten) :
    settings.canonical request = request := by
  have hnone : request.kind.endpoint? = none := by rw [h]; rfl
  simp only [canonical, hnone]

/-- What a request says is in its canonical form. -/
theorem get?_canonical_of_get? {name value : String} (h : request.get? name = some value) :
    (settings.canonical request).get? name = some value := by
  unfold canonical
  split
  · exact h
  · exact TokenRequest.get?_withDefaults_of_get? h

/-- Nothing but an environment and a lifetime is added to a request, and nothing at all to one that
the token generator does not serve. -/
theorem get?_of_get?_canonical {name value : String}
    (h : (settings.canonical request).get? name = some value) :
    request.get? name = some value ∨ request.kind ≠ .maskinporten ∧
      (name = TokenRequest.envName ∨ name = TokenRequest.ttlName) := by
  by_cases hkind : request.kind = .maskinporten
  · rw [canonical_of_maskinporten hkind] at h
    exact .inl h
  · obtain ⟨endpoint, hendpoint⟩ := TokenKind.exists_endpoint hkind
    simp only [canonical, hendpoint] at h
    exact (TokenRequest.get?_of_get?_withDefaults h).imp_right fun hname => ⟨hkind, hname⟩

/-! ## Fetching through a cache -/

/-- A fetch of the canonical form of a request is a fetch of the request. -/
theorem fetch_canonical (settings : GeneratorSettings) (request : TokenRequest)
    (network : Http.Network) :
    settings.fetch (settings.canonical request) network = settings.fetch request network := by
  simp only [fetch, fetchBody, wireRequest_canonical, kind_canonical]

/-- A look-up asks for the canonical form of the request that it began with. -/
theorem canonical_of_asked {margin : Span} {past later : List Cache.Event} {state : Cache.State}
    {number : Nat} {other : TokenRequest} {askedAt : Instant}
    (h : Cache.Reaches (.ofFetcher settings.fetcher margin)
      (past ++ .asked number other askedAt :: later) state)
    (hbegan : .began number request ∈ past) : other = settings.canonical request := by
  obtain ⟨before, after, hbefore, hhappens⟩ := h.split
  obtain ⟨gate, hcall⟩ := hhappens.asked
  exact hbefore.request_eq _ hcall _ hbegan rfl _ rfl

/-- A look-up by itself that finds no fresh lease leaves the network as a fetch of its request
does, and has a failure of that fetch as its result. -/
theorem get_asks_as_fetch {ledger : Cache.Ledger Http.Network} {margin : Span}
    {session : Cache.Session Http.Network}
    (h : Cache.Mirrors settings.fetcher margin ledger session)
    (hmissed : session.state.freshLease? (settings.canonical request).key margin.clamped
      session.clock.now = some none) :
    (session.get request).2.source = (settings.fetch request session.source).2 ∧
      ∀ failure, (settings.fetch request session.source).1 = .error failure →
        (session.get request).1 = .ended (.error failure) := by
  have hrules := h.rules_eq
  -- The session does what a ledger does, and of the ledger it is known that a miss is one fetch.
  have hnow : session.clock.now = ledger.now := congrArg Clock.now h.clock_eq
  rw [hnow, Cache.State.freshLease?_of_store rfl] at hmissed
  have hfresh : session.state.store.freshLease? (session.rules.canonical request).key
      session.rules.margin ledger.now = some none := by
    rw [hrules]
    exact hmissed
  have hagrees := h.get_of_miss hfresh
  -- The token generator answers at once, so the fetch ends at the instant at which it has begun.
  have hlatency : ledger.now.add? (settings.fetcher.call (settings.fetcher.canonical request)
      ledger.now ledger.source).1.latency = some ledger.now := ledger.now.add?_zero
  have hfetch := settings.fetch_canonical request ledger.source
  simp only [Cache.Ledger.fetch, hlatency] at hagrees
  obtain ⟨hreply, hmirrors⟩ := hagrees
  rw [h.source_eq, hmirrors.source_eq, hreply]
  refine ⟨congrArg Prod.snd hfetch, fun failure hfailed => ?_⟩
  -- What fails for the request fails for its canonical form, as they are one fetch.
  have hcall : (settings.fetcher.call (settings.fetcher.canonical request) ledger.now
      ledger.source).1.outcome = .failed failure := by
    show FetchEnd.ofResult (settings.fetch (settings.canonical request) ledger.source).1 =
      .failed failure
    rw [hfetch, hfailed]
    rfl
  rw [hcall]
  rfl

/-! ## Usual values that are spelled out -/

/-- The usual values as options: the environment, and the lifetime in whole seconds. -/
def usualValues (settings : GeneratorSettings) : List (String × String) :=
  [(TokenRequest.envName, settings.defaultEnv),
    (TokenRequest.ttlName, Text.decimal settings.defaultTtl.wholeSeconds)]

theorem mem_usualValues_iff {pair : String × String} :
    pair ∈ settings.usualValues ↔ pair = (TokenRequest.envName, settings.defaultEnv) ∨
      pair = (TokenRequest.ttlName, Text.decimal settings.defaultTtl.wholeSeconds) := by
  simp [usualValues]

/-- A usual value is implied by a request that has no other value for the option.  In particular
that is so if the request has none. -/
structure Implied (settings : GeneratorSettings) (request : TokenRequest)
    (pair : String × String) : Prop where
  usual : pair ∈ settings.usualValues
  eq : ∀ value, request.get? pair.1 = some value → value = pair.2

/-- The usual values can be taken as options: the environment is not blank and the lifetime is a
second at least. -/
structure HasProperDefaults (settings : GeneratorSettings) : Prop where
  env : Text.isAllBlank settings.defaultEnv = false
  ttl : nanosPerSecond ≤ settings.defaultTtl.nanoseconds

/-- Usual values for one option are the same. -/
theorem eq_of_mem_usualValues {pair other : String × String} (h : pair ∈ settings.usualValues)
    (hother : other ∈ settings.usualValues) (hname : other.1 = pair.1) : other = pair := by
  have hnames : TokenRequest.envName ≠ TokenRequest.ttlName := by decide
  rcases mem_usualValues_iff.mp h with rfl | rfl <;>
    rcases mem_usualValues_iff.mp hother with rfl | rfl
  · rfl
  · exact absurd hname hnames.symm
  · exact absurd hname hnames
  · rfl

/-- A kind that the token generator serves has an option for each usual value. -/
theorem allows_of_mem_usualValues {kind : TokenKind} {endpoint : String}
    (hendpoint : kind.endpoint? = some endpoint) {pair : String × String}
    (h : pair ∈ settings.usualValues) : kind.allows pair.1 := by
  rcases mem_usualValues_iff.mp h with rfl | rfl
  · exact allows_envName hendpoint
  · exact allows_ttlName hendpoint

/-- A usual value that is proper is kept as it is. -/
theorem HasProperDefaults.keptValue_of_mem (h : settings.HasProperDefaults)
    {pair : String × String} (husual : pair ∈ settings.usualValues) :
    TokenRequest.keptValue pair.1 pair.2 = .ok pair.2 := by
  -- The usual environment is kept as it is, unless it is blank, and so is a usual lifetime of a
  -- second and more.
  rcases mem_usualValues_iff.mp husual with rfl | rfl
  · have hscopes : TokenRequest.envName ≠ TokenRequest.scopesName := by decide
    have httl : TokenRequest.envName ≠ TokenRequest.ttlName := by decide
    rw [TokenRequest.keptValue, h.env]
    simp only [Bool.false_eq_true, if_false, if_neg hscopes, if_neg httl]
  · obtain ⟨hpos, hmax⟩ := Span.wholeSeconds_bounds h.ttl
    have hread := Text.positiveSeconds?_decimal hpos hmax
    have hscopes : TokenRequest.ttlName ≠ TokenRequest.scopesName := by decide
    rw [TokenRequest.keptValue, Text.isAllBlank_of_positiveSeconds? hread]
    simp only [Bool.false_eq_true, if_false, if_neg hscopes, if_true, hread,
      Text.trim_decimal hpos]

/-- A request with a further value that it implies has the same values otherwise, where the usual
ones stand for those that are left out. -/
theorem Implied.getD_insert {pair other : String × String} (h : settings.Implied request pair)
    (hother : other ∈ settings.usualValues) :
    ((request.options.insert pair.1 pair.2).get? other.1).getD other.2 =
      (request.get? other.1).getD other.2 := by
  rw [NameMap.get?_insert]
  split
  next hname =>
    -- The name has one usual value, so it is the one that is added.
    rw [eq_of_mem_usualValues h.usual hother hname, Option.getD_some]
    cases hvalue : request.get? pair.1 with
    | none => rfl
    | some value => exact (h.eq value hvalue).symm
  next => rfl

/-- A usual value that is implied by a request is still implied when another one has been spelled
out. -/
theorem Implied.insert {pair other : String × String} (h : settings.Implied request pair)
    (hother : settings.Implied request other) :
    settings.Implied { request with options := request.options.insert pair.1 pair.2 } other := by
  refine ⟨hother.usual, fun value hvalue => ?_⟩
  rw [TokenRequest.get?, NameMap.get?_insert] at hvalue
  split at hvalue
  next hname =>
    rw [eq_of_mem_usualValues h.usual hother.usual hname]
    exact (Option.some.inj hvalue).symm
  next => exact hother.eq value hvalue

/-- Spelling out a usual value that is implied leaves the canonical form as it is. -/
theorem HasProperDefaults.canonical_insert (h : settings.HasProperDefaults) {endpoint : String}
    (hendpoint : request.kind.endpoint? = some endpoint) {pair : String × String}
    (himplied : settings.Implied request pair) :
    settings.canonical { request with options := request.options.insert pair.1 pair.2 } =
      settings.canonical request := by
  -- A blank environment and a lifetime below a second are not proper, so neither default is left
  -- out.
  have hne : settings.defaultEnv ≠ "" := by
    intro heq
    have hblank := h.env
    rw [heq] at hblank
    cases hblank
  have hpos : 0 < settings.defaultTtl.nanoseconds := Int.lt_of_lt_of_le (by decide) h.ttl
  simp only [canonical, hendpoint]
  refine TokenRequest.withDefaults_congr rfl (allows_envName hendpoint)
    (allows_ttlName hendpoint) hne hpos (himplied.getD_insert (.head _))
    (himplied.getD_insert (.tail _ (.head _))) fun name hisEnv hisTtl => ?_
  -- The option that is spelled out has one of the two names that are looked at apart.
  have hname : name ≠ pair.1 := by
    rcases mem_usualValues_iff.mp himplied.usual with rfl | rfl
    · exact hisEnv
    · exact hisTtl
  rw [TokenRequest.get?, NameMap.get?_insert, if_neg hname]
  rfl

/-- Usual values that a request implies can be spelled out, one after the other, and its canonical
form stays as it is. -/
theorem HasProperDefaults.exists_withOptions (h : settings.HasProperDefaults) {endpoint : String}
    {given : List (String × String)} (himplied : ∀ pair ∈ given, settings.Implied request pair)
    (hendpoint : request.kind.endpoint? = some endpoint) :
    ∃ next, request.withOptions given = .ok next ∧
      settings.canonical next = settings.canonical request := by
  induction given generalizing request with
  | nil => exact ⟨request, rfl, rfl⟩
  | cons pair given ih =>
    have hfirst := himplied pair (.head given)
    have hadded := TokenRequest.withOption_of_keptValue
      (allows_of_mem_usualValues hendpoint hfirst.usual) (h.keptValue_of_mem hfirst.usual)
    -- What is left to be added is still implied once the first has been added.
    have hmore : ∀ other ∈ given, settings.Implied
        { request with options := request.options.insert pair.1 pair.2 } other :=
      fun other hother => hfirst.insert (himplied other (.tail pair hother))
    obtain ⟨next, hnext, hcanonical⟩ := ih hmore hendpoint
    refine ⟨next, ?_, hcanonical.trans (h.canonical_insert hendpoint hfirst)⟩
    rw [TokenRequest.withOptions, List.foldlM_cons, hadded]
    exact hnext

/-! ## The laws -/

/-- The canonical form of a request is of its kind and has its options; all it has besides are an
environment and a lifetime, and not even these for scopes.  It is its own canonical form.

A look-up that asks for a token asks for what a fetch of its request asks for, and one that finds
no fresh lease leaves the network as that fetch does.

Usual values that the request implies can be spelled out if they are proper, and that changes
neither its canonical form nor its entry. -/
theorem canonical_laws (haccepted : settings.Accepted) (request : TokenRequest) :
    (settings.canonical request).kind = request.kind ∧
    (∀ name value, request.get? name = some value →
      (settings.canonical request).get? name = some value) ∧
    (∀ name value, (settings.canonical request).get? name = some value →
      request.get? name = some value ∨ request.kind ≠ .maskinporten ∧
        (name = TokenRequest.envName ∨ name = TokenRequest.ttlName)) ∧
    settings.canonical (settings.canonical request) = settings.canonical request ∧
    (∀ margin past later state number other askedAt,
      Cache.Reaches (.ofFetcher settings.fetcher margin)
        (past ++ .asked number other askedAt :: later) state →
      .began number request ∈ past →
        (∀ network, settings.fetch other network = settings.fetch request network) ∧
        (request.kind ≠ .maskinporten → ∃ wire,
          settings.wireRequest other = .ok wire ∧ settings.wireRequest request = .ok wire)) ∧
    (∀ network margin now commands,
      let session :=
        ((Cache.Session.start settings.fetcher network margin (.manual now)).obeyAll commands).2
      session.state.freshLease? (settings.canonical request).key margin.clamped
        session.clock.now = some none →
        (session.get request).2.source = (settings.fetch request session.source).2 ∧
          ∀ failure, (settings.fetch request session.source).1 = .error failure →
            (session.get request).1 = .ended (.error failure)) ∧
    (request.kind ≠ .maskinporten → settings.HasProperDefaults →
      ∀ given, (∀ pair ∈ given, settings.Implied request pair) →
        ∃ next, request.withOptions given = .ok next ∧
          settings.canonical next = settings.canonical request ∧
          (settings.canonical next).key = (settings.canonical request).key) := by
  refine ⟨kind_canonical settings request, fun name value => get?_canonical_of_get?,
    fun name value => get?_of_get?_canonical, canonical_canonical settings request,
    fun margin past later state number other askedAt hreaches hbegan => ?_,
    fun network margin now commands => ?_, fun hkind hproper given himplied => ?_⟩
  -- Only the canonical form is ever asked for, under whatever name the look-up has.
  · obtain rfl := canonical_of_asked hreaches hbegan
    refine ⟨settings.fetch_canonical request, fun hkind => ?_⟩
    obtain ⟨endpoint, hendpoint⟩ := TokenKind.exists_endpoint hkind
    obtain ⟨front, -, hsent⟩ := haccepted.ready.wireRequest
    obtain ⟨wire, hwire, -⟩ := hsent request endpoint hendpoint
    exact ⟨wire, (settings.wireRequest_canonical request).trans hwire, hwire⟩
  · have hmirrors :=
      ((Cache.Mirrors.start settings.fetcher network margin now).obeyAll commands).2
    exact fun hmissed => get_asks_as_fetch hmirrors hmissed
  · obtain ⟨endpoint, hendpoint⟩ := TokenKind.exists_endpoint hkind
    obtain ⟨next, hnext, hcanonical⟩ := hproper.exists_withOptions himplied hendpoint
    exact ⟨next, hnext, hcanonical, congrArg TokenRequest.key hcanonical⟩

end GeneratorSettings

namespace Sample

/-- The usual environment and the usual hour, spelled out one after the other, make no difference,
and a first look-up on a network that answers nothing fails as the fetch does. -/
theorem usual_values_spelled_out :
    settings.canonical ⟨.platform, .empty⟩ =
        ⟨.platform, (NameMap.empty.insert "env" "yt01").insert "ttl" "3600"⟩ ∧
      (∃ next, TokenRequest.withOptions ⟨.platform, .empty⟩ [("ttl", "3600"), ("env", "yt01")] =
          .ok next ∧
        (settings.canonical next).key = (settings.canonical ⟨.platform, .empty⟩).key) ∧
      ((Cache.Session.start settings.fetcher (.replying .utf8 [] []) ⟨0, by decide⟩
        (.manual ⟨0, by decide⟩)).get ⟨.platform, .empty⟩).1 = .ended (.error .unreachable) := by
  obtain ⟨-, -, -, -, -, hmissed, hspelled⟩ :=
    GeneratorSettings.canonical_laws settings_accepted ⟨.platform, .empty⟩
  refine ⟨by decide, ?_, ?_⟩
  · obtain ⟨next, hnext, -, hkey⟩ := hspelled (by decide) ⟨by decide, by decide⟩
      -- Both pairs are usual values, and the request has nothing under these names.
      [("ttl", "3600"), ("env", "yt01")] fun pair hpair =>
        ⟨by revert pair; decide, fun value hvalue => by cases hvalue⟩
    exact ⟨next, hnext, hkey⟩
  · exact (hmissed (.replying .utf8 [] []) ⟨0, by decide⟩ ⟨0, by decide⟩ [] (by decide)).2
      .unreachable (by rfl)

end Sample

end BearerCache
