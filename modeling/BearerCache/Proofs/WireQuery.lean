import BearerCache.Fetch.Generator
import BearerCache.Proofs.AcceptedSettings
import BearerCache.Proofs.GrantScope
import BearerCache.Proofs.RequestRules
import Mathlib.Algebra.Group.Nat.Defs
import Mathlib.Data.List.Basic

/-! # What is asked for is what the key says

A request is sent to the token generator with the form of its canonical options as the query, and
the same form is the part of its key after the first bar.  So two requests have the same entry
just when the same address is asked.  A grant asks for the scopes of a request by their normal
text, which is what the request holds.

## Key results

- `Url.targetOf_name`: the address of an endpoint, with its query behind the first question mark
- `Ready.queryChars`: the query that is sent is the form in the key
- `Ready.key_eq_iff`: requests have the same entry when the same address is asked
- `entry_iff_wire`: both of this for all settings, and the same for grants
-/

namespace BearerCache

/-- The characters of the query of a request: those after the first question mark of its
address. -/
def Http.Request.queryChars (wire : Http.Request) : List Char :=
  (wire.target.toList.dropWhile (· != '?')).drop 1

namespace Url

/-! ## The text of an address -/

theorem not_mem_write_segments {list : List String} (h : ∀ segment ∈ list, IsSegment segment) :
    '?' ∉ (Path.segments list).write.toList := by
  rw [Path.write, String.toList_join, List.mem_flatMap]
  rintro ⟨written, hmem, hmark⟩
  obtain ⟨segment, hsegment, rfl⟩ := List.mem_map.mp hmem
  rw [String.toList_append, List.mem_append] at hmark
  rcases hmark with hslash | hmark
  · exact absurd hslash (by decide)
  · exact (h segment hsegment).not_mem hmark

theorem not_mem_portText (url : Url) : '?' ∉ url.portText.toList := by
  unfold portText
  split
  next port =>
    have hcolon : '?' ∉ (toString ":").toList := by decide
    simp [String.toList_append, not_mem_toDigits, hcolon]
  next => exact List.not_mem_nil

/-- The address of a name in a directory: the name, the first question mark and the query stand
at the end, and what is before them is the same for all names. -/
theorem targetOf_name {base : Url} (h : base.IsNormal) {list : List String}
    (hlist : ∀ segment ∈ list, IsSegment segment) :
    ∃ front : List Char, '?' ∉ front ∧ ∀ name query : String,
      (Http.targetOf { base with
        path := .segments (list ++ [name]), query := some query, fragment := none }).toList =
      front ++ (name.toList ++ '?' :: query.toList) := by
  obtain ⟨host, text, hhost, htext⟩ := h.host
  have hmark := Host.not_mem_write htext
  -- Neither the scheme nor the host nor the path has a question mark in it.
  have hscheme : '?' ∉ base.scheme.toList := by
    rcases h.scheme with heq | heq <;> rw [heq] <;> decide
  refine ⟨base.scheme.toList ++ "://".toList ++ host.write.toList ++ base.portText.toList ++
    (Path.segments list).write.toList ++ ['/'], ?_, fun name query => ?_⟩
  · simp [hscheme, hmark, not_mem_portText, not_mem_write_segments hlist]
  · simp [Http.targetOf, write, userInfo, pathText, queryText, fragmentText, portText, hhost,
      Path.write, String.join_append]

end Url

/-! ## Requests to the token generator -/

/-- The token generator has an endpoint for every kind but one. -/
theorem TokenKind.exists_endpoint {kind : TokenKind} (h : kind ≠ .maskinporten) :
    ∃ endpoint, kind.endpoint? = some endpoint := by
  cases kind with
  | personal | enterprise | platform => exact ⟨_, rfl⟩
  | maskinporten => exact absurd rfl h

/-- No endpoint has a question mark in it. -/
theorem TokenKind.not_mem_endpoint? {kind : TokenKind} {endpoint : String}
    (h : kind.endpoint? = some endpoint) : '?' ∉ endpoint.toList := by
  cases kind <;> cases h <;> decide

/-- An endpoint tells the kind. -/
theorem TokenKind.endpoint?_injective {a b : TokenKind} {endpoint : String}
    (ha : a.endpoint? = some endpoint) (hb : b.endpoint? = some endpoint) : a = b := by
  have hsame := ha.trans hb.symm
  cases a <;> cases b <;> first | rfl | exact absurd ha (by decide) | exact absurd hsame (by decide)

namespace GeneratorSettings

variable {settings : GeneratorSettings}

theorem kind_canonical (settings : GeneratorSettings) (request : TokenRequest) :
    (settings.canonical request).kind = request.kind := by
  unfold canonical
  split
  · rfl
  · exact TokenRequest.kind_withDefaults _ _ _

/-- What is asked for a request: the endpoint of its kind, in one directory for all requests, and
behind the first question mark the form in the key of its canonical form. -/
theorem Ready.wireRequest (h : settings.Ready) :
    ∃ front : List Char, '?' ∉ front ∧ ∀ request endpoint, request.kind.endpoint? = some endpoint →
      ∃ wire, settings.wireRequest request = .ok wire ∧ wire.method = "GET" ∧
        wire.isPlain = (settings.baseUrl.scheme == "http") ∧
        wire.target.toList =
          front ++ (endpoint.toList ++ '?' :: (settings.canonical request).key.formChars) := by
  obtain ⟨list, hdirectory⟩ := h.directory
  obtain ⟨segments, hsegments, -, hplain⟩ := h.isNormal.path
  have hlist : ∀ segment ∈ list, Url.IsSegment segment := by
    cases hsegments.symm.trans hdirectory
    exact fun segment hmem => hplain segment (List.mem_append_left _ hmem)
  obtain ⟨front, hfront, htarget⟩ := Url.targetOf_name h.isNormal hlist
  refine ⟨front, hfront, fun request endpoint hendpoint => ?_⟩
  -- The endpoint takes the place of the last segment of the directory.
  have hjoin := (Url.isName_of_endpoint? hendpoint).join h.isNormal.scheme hdirectory
  rw [List.dropLast_concat] at hjoin
  have hform : (settings.canonical request).key.formChars =
      (Text.Form.encode (settings.canonical request).options.entries).toList :=
    EntryKey.formChars_ofRequest _
  have hurl : settings.endpointUrl endpoint = .ok { settings.baseUrl with
      path := .segments (list ++ [endpoint]), query := none, fragment := none } := by
    rw [endpointUrl, hjoin]
    rfl
  refine ⟨Http.get { settings.baseUrl with
      path := .segments (list ++ [endpoint])
      query := some (Text.Form.encode (settings.canonical request).options.entries)
      fragment := none }
    [Http.basicHeader (Text.bytes settings.username) (Text.bytes settings.password.expose)],
    ?_, rfl, rfl, ?_⟩
  · simp only [GeneratorSettings.wireRequest, hendpoint, hurl]
    rfl
  · rw [hform]
    exact htarget endpoint _

/-- Only requests of kinds with an endpoint are sent. -/
theorem endpoint?_of_wireRequest {request : TokenRequest} {wire : Http.Request}
    (h : settings.wireRequest request = .ok wire) :
    ∃ endpoint, request.kind.endpoint? = some endpoint := by
  cases hendpoint : request.kind.endpoint? with
  | some endpoint => exact ⟨endpoint, rfl⟩
  | none =>
    simp only [GeneratorSettings.wireRequest, hendpoint] at h
    cases h

/-- The query that is sent is the form in the key of the canonical request. -/
theorem Ready.queryChars (h : settings.Ready) {request : TokenRequest} {wire : Http.Request}
    (hwire : settings.wireRequest request = .ok wire) :
    wire.queryChars = (settings.canonical request).key.formChars := by
  obtain ⟨front, hfront, hsent⟩ := h.wireRequest
  obtain ⟨endpoint, hendpoint⟩ := endpoint?_of_wireRequest hwire
  obtain ⟨sent, hsent, -, -, htarget⟩ := hsent request endpoint hendpoint
  cases hwire.symm.trans hsent
  -- So the first question mark is the one before the query.
  have hbefore : ∀ c ∈ front ++ endpoint.toList, (c != '?') = true := by
    intro c hc
    rw [bne_iff_ne]
    rintro rfl
    exact (List.mem_append.mp hc).elim hfront (TokenKind.not_mem_endpoint? hendpoint)
  rw [Http.Request.queryChars, htarget, ← List.append_assoc,
    List.dropWhile_append_of_pos hbefore]
  rfl

/-- Requests have the same entry if and only if the same address is asked for them. -/
theorem Ready.key_eq_iff (h : settings.Ready) {a b : TokenRequest} {wire other : Http.Request}
    (ha : settings.wireRequest a = .ok wire) (hb : settings.wireRequest b = .ok other) :
    (settings.canonical a).key = (settings.canonical b).key ↔ wire.target = other.target := by
  obtain ⟨front, -, hsent⟩ := h.wireRequest
  obtain ⟨endpoint, hendpoint⟩ := endpoint?_of_wireRequest ha
  obtain ⟨endpoint', hendpoint'⟩ := endpoint?_of_wireRequest hb
  obtain ⟨sent, hsentA, -, -, htarget⟩ := hsent a endpoint hendpoint
  obtain ⟨sent', hsentB, -, -, htarget'⟩ := hsent b endpoint' hendpoint'
  cases ha.symm.trans hsentA
  cases hb.symm.trans hsentB
  constructor
  -- The kinds are the same, and with them the endpoints.
  · intro hkey
    have hsame := TokenRequest.key_injective hkey
    have hkind : a.kind = b.kind := by
      rw [← kind_canonical settings a, hsame, kind_canonical]
    rw [hkind, hendpoint'] at hendpoint
    cases hendpoint
    rw [← String.toList_inj, htarget, htarget', hsame]
  · intro hsameTarget
    have hform : (settings.canonical a).key.formChars = (settings.canonical b).key.formChars := by
      rw [← h.queryChars ha, ← h.queryChars hb, Http.Request.queryChars, hsameTarget,
        Http.Request.queryChars]
    -- The queries are the same, so what is left before them is too.
    have hnames := congrArg String.toList hsameTarget
    rw [htarget, htarget', hform] at hnames
    have hendpoints := List.append_cancel_right (List.append_cancel_left hnames)
    rw [← String.toList_inj.mp hendpoints] at hendpoint'
    have hkind : (settings.canonical a).kind = (settings.canonical b).kind := by
      rw [kind_canonical, kind_canonical]
      exact TokenKind.endpoint?_injective hendpoint hendpoint'
    exact TokenRequest.key_eq_of_formChars hkind hform

/-- A plain request is the one that is sent. -/
theorem sent_fetch {request : TokenRequest} {wire : Http.Request}
    (hwire : settings.wireRequest request = .ok wire) (hplain : wire.isPlain)
    (decode : Http.Decoder) (replies : List Http.Reply) (sent : List Http.Request) :
    (settings.fetch request (.replying decode replies sent)).2.sent = sent ++ [wire] := by
  have hbody : (settings.fetchBody request (.replying decode replies sent)).2 =
      .replying decode replies.tail (sent ++ [wire]) := by
    simp only [fetchBody, hwire, Http.Network.send_of_isPlain hplain]
    split
    next => rfl
    next => split <;> rfl
  exact congrArg Http.Network.sent hbody

end GeneratorSettings

/-! ## Entries and what is sent for them -/

/-- For a request to the token generator, the query that is sent is the part after the first bar of
the key of its canonical form, and requests have the same entry if and only if the same address is
asked for them.  For scopes, the grant that is posted asks for them as the request has them, and
requests have the same entry if and only if their grants ask for the same scopes.  Over plain HTTP
that is the one request that a fetch sends. -/
theorem entry_iff_wire :
    (∀ settings : GeneratorSettings, settings.Accepted →
      ∀ request : TokenRequest, request.kind ≠ .maskinporten →
        ∃ wire, settings.wireRequest request = .ok wire ∧ wire.method = "GET" ∧
          wire.queryChars = (settings.canonical request).key.formChars ∧
          (settings.baseUrl.scheme = "http" → ∀ decode replies sent,
            (settings.fetch request (.replying decode replies sent)).2.sent = sent ++ [wire])) ∧
    (∀ settings : GeneratorSettings, settings.Accepted → ∀ a b wire other,
      settings.wireRequest a = .ok wire → settings.wireRequest b = .ok other →
        ((settings.canonical a).key = (settings.canonical b).key ↔ wire.target = other.target)) ∧
    (∀ (exchange : GrantExchange) (request : TokenRequest) (text : String),
      request.WellFormed → request.get? TokenRequest.scopesName = some text →
      ∀ now nonce wire, exchange.wireRequest? request now nonce = some (.ok wire) →
        (∀ scope, wire.AsksFor scope ↔ scope = text) ∧
        (exchange.settings.tokenUrl.scheme = "http" → ∀ decode replies sent,
          (exchange.fetch request now nonce (.replying decode replies sent)).2.sent =
            sent ++ [wire])) ∧
    (∀ (exchange : GrantExchange) (a b : TokenRequest) (wire other : Http.Request),
      a.WellFormed → b.WellFormed → exchange.Posts a wire → exchange.Posts b other →
        ((exchange.fetcher.canonical a).key = (exchange.fetcher.canonical b).key ↔
          ∃ scope, wire.AsksFor scope ∧ other.AsksFor scope)) := by
  -- An accepted configuration asks at the address of its endpoint, and sends what it has written.
  refine ⟨fun settings haccepted request hkind => ?_,
    fun settings haccepted a b wire other ha hb => ?_,
    fun exchange request text hwell htext now nonce wire hwire => ?_,
    fun exchange a b wire other hwell hwell' ha hb => ?_⟩
  · have hready := haccepted.ready
    obtain ⟨endpoint, hendpoint⟩ := TokenKind.exists_endpoint hkind
    obtain ⟨front, -, hsent⟩ := hready.wireRequest
    obtain ⟨wire, hwire, hmethod, hplain, -⟩ := hsent request endpoint hendpoint
    refine ⟨wire, hwire, hmethod, hready.queryChars hwire, fun hscheme => ?_⟩
    refine GeneratorSettings.sent_fetch hwire ?_
    rw [hplain, hscheme]
    rfl
  · exact haccepted.ready.key_eq_iff ha hb
  · have hposts : exchange.Posts request wire := ⟨now, nonce, hwire⟩
    exact ⟨hposts.asksFor_iff hwell htext, GrantExchange.sent_fetch hwire⟩
  · exact ha.key_eq_iff hb hwell hwell'

namespace Sample

/-- An address on this computer. -/
def address : Url :=
  ⟨"http", "", none, some (.ipv6 [0, 0, 0, 0, 0, 0, 0, 1]), none, .segments ["api"], none, none⟩

/-- A token generator at that address. -/
def settings : GeneratorSettings :=
  ⟨address.asDirectory, "user", ⟨"pass"⟩, GeneratorDraft.usualEnv, GeneratorDraft.usualTtl,
    Settings.defaultTimeout⟩

theorem settings_accepted : settings.Accepted := by
  have hparse : Url.parse "http://[::1]/api" = .ok address := by decide
  have hbuild : GeneratorDraft.build { GeneratorDraft.ofUser "user" "pass" with
      baseUrl := some address } = .ok settings := by decide
  exact .of_isRead rfl (.parse hparse) hbuild

/-- A key that signs, of the two greatest primes that are good for one. -/
def signingKey : RsaKey :=
  let p := 2 ^ 1024 - 105
  let q := 2 ^ 1024 - 179
  ⟨p * q, 65537, (1 + 54058 * ((p - 1) * (q - 1))) / 65537, p, q⟩

/-- An exchange of grants that are signed with that key. -/
def exchange : GrantExchange :=
  ⟨⟨address, "audience", ⟨"client", by decide⟩, ⟨"key", by decide⟩, ⟨""⟩,
      ExchangeDraft.usualLifetime, Settings.defaultTimeout⟩,
    ⟨⟨"client", by decide⟩, ⟨"key", by decide⟩, "audience", ExchangeDraft.usualLifetime,
      signingKey⟩⟩

/-- A request for two scopes. -/
def twoScopes : TokenRequest :=
  ⟨.maskinporten, NameMap.empty.insert TokenRequest.scopesName "a:1 b:2"⟩

theorem twoScopes_wellFormed : twoScopes.WellFormed := by
  have hmade : TokenRequest.ofScopesText " b:2 a:1  b:2" = .ok twoScopes := by decide +kernel
  exact (@TokenRequest.Made.ofScopesText (fun _ _ => False) _ _ hmade).wellFormed
    fun _ _ => False.elim

/-- Values are compared by evaluation, also where the errors beside them cannot be. -/
theorem eq_ok_of_toOption {ε α : Type} {result : Except ε α} {a : α}
    (h : result.toOption = some a) : result = .ok a := by
  cases result with
  | error fault => cases h
  | ok b => exact congrArg Except.ok (Option.some.inj h)

/-- A grant is signed for the request. -/
theorem wireRequest?_twoScopes :
    ∃ wire, exchange.wireRequest? twoScopes ⟨0, by decide⟩ [] = some (.ok wire) := by
  have hsigned : ((exchange.wireRequest? twoScopes ⟨0, by decide⟩ []).bind
      Except.toOption).isSome = true := by decide +kernel
  obtain ⟨wire, hwire⟩ := Option.isSome_iff_exists.mp hsigned
  obtain ⟨result, hresult, hwire⟩ := Option.bind_eq_some_iff.mp hwire
  exact ⟨wire, hresult.trans (congrArg some (eq_ok_of_toOption hwire))⟩

/-- Something is posted for the request. -/
theorem exchange_posts : ∃ wire, exchange.Posts twoScopes wire := by
  obtain ⟨wire, hwire⟩ := wireRequest?_twoScopes
  exact ⟨wire, _, _, hwire⟩

/-- The query for a request without options, and the scopes in the grant for another. -/
theorem wire_of_samples :
    (∃ wire, settings.wireRequest ⟨.platform, .empty⟩ = .ok wire ∧
      -- The form is the key's, which is computed.
      wire.queryChars = "env=yt01&ttl=3600".toList) ∧
    (∃ wire, exchange.Posts twoScopes wire ∧ ∀ scope, wire.AsksFor scope ↔ scope = "a:1 b:2") := by
  obtain ⟨hquery, -, hscopes, -⟩ := entry_iff_wire
  constructor
  · obtain ⟨wire, hwire, -, hchars, -⟩ :=
      hquery settings settings_accepted ⟨.platform, .empty⟩ (by decide)
    have hform : (settings.canonical ⟨.platform, .empty⟩).key.formChars =
        "env=yt01&ttl=3600".toList := by decide
    exact ⟨wire, hwire, hchars.trans hform⟩
  · obtain ⟨wire, now, nonce, hwire⟩ := exchange_posts
    have htext : twoScopes.get? TokenRequest.scopesName = some "a:1 b:2" := by decide
    obtain ⟨hasks, -⟩ :=
      hscopes exchange twoScopes _ twoScopes_wellFormed htext now nonce wire hwire
    exact ⟨wire, ⟨now, nonce, hwire⟩, hasks⟩

end Sample

end BearerCache
