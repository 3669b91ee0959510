import BearerCache.Proofs.DecimalText
import BearerCache.Proofs.WireQuery

/-! # What a fetch comes to

A fetch first finds out whether the request can be asked for at all.  If it cannot, nothing is
sent.  Otherwise one request is handed over, and the reply to it, whatever it is, decides how the
fetch ends: nothing is asked again and no redirection is followed, so the network has one reply
less and one request more.

Both fetchers treat a reply in the same way and differ in how a token is read from a body
(`FetchEnd.ofResponse`).  The text of the body is what the decoder of the network makes of all its
bytes, whichever decoder that is.

## Key results

- `concludes_ofResponse`: each end of a fetch, and exactly when it is reached
- `GeneratorSettings.handsOver`, `GrantExchange.handsOver`: a request that is handed over
- `one_request_one_outcome`: all fetches of both fetchers
-/

namespace BearerCache

/-! ## How a reply ends a fetch -/

/-- How a fetch for a kind of token ends with a response, where `read` reads a token from a body. -/
def FetchEnd.ofResponse (kind : TokenKind) (read : String → Except BodyFault String) :
    Option Http.Response → FetchEnd
  | none => .failed .unreachable
  | some response =>
    if response.status = 200 then
      match read response.body with
      | .ok text => .token ⟨text⟩
      | .error fault => .failed (.body fault)
    else .failed (.refused kind response.status response.body)

/-- The ends that a fetch can come to once its request is handed over, each with what it takes:
no whole reply, a status other than 200, or else what the body is read as.  The text of a body is
that of all its bytes, and of none with the two statuses that come without a body. -/
structure Concludes (kind : TokenKind) (read : String → Except BodyFault String)
    (decode : Http.Decoder) (reply? : Option Http.Reply) (outcome : FetchEnd) : Prop where
  unreachable : outcome = .failed .unreachable ↔ reply? = none ∨ reply? = some .lost
  refused : ∀ other status text, outcome = .failed (.refused other status text) ↔
    other = kind ∧ status ≠ 200 ∧ ∃ contentType body,
      reply? = some (.answer status contentType body) ∧
        text = decode contentType (if status = 204 ∨ status = 304 then [] else body)
  token : ∀ secret, outcome = .token secret ↔ ∃ contentType body,
    reply? = some (.answer 200 contentType body) ∧
      read (decode contentType body) = .ok secret.expose
  fault : ∀ fault, outcome = .failed (.body fault) ↔ ∃ contentType body,
    reply? = some (.answer 200 contentType body) ∧ read (decode contentType body) = .error fault

/-- A fetch that does not get a whole reply fails. -/
private theorem concludes_unreachable (kind : TokenKind) (read : String → Except BodyFault String)
    (decode : Http.Decoder) {reply? : Option Http.Reply}
    (h : reply? = none ∨ reply? = some .lost) :
    Concludes kind read decode reply? (.failed .unreachable) := by
  rcases h with rfl | rfl <;> constructor <;> simp

/-- What is answered with the status 200 is read. -/
private theorem concludes_read (kind : TokenKind) (read : String → Except BodyFault String)
    (decode : Http.Decoder) (contentType : Option String) (body : List UInt8) :
    Concludes kind read decode (some (.answer 200 contentType body))
      (.ofResponse kind read (some ⟨200, decode contentType body⟩)) := by
  -- Nothing is refused, as the status is what it should be.
  have hrefused (other : TokenKind) (status : Nat) (text : String) :
      ¬(other = kind ∧ status ≠ 200 ∧ ∃ type bytes,
        some (Http.Reply.answer 200 contentType body) = some (.answer status type bytes) ∧
          text = decode type (if status = 204 ∨ status = 304 then [] else bytes)) := by
    rintro ⟨-, hother, _, _, heq, -⟩
    cases heq
    exact hother rfl
  -- The body decides: a token in it is handed over, a fault in it ends the fetch.
  cases hread : read (decode contentType body) with
  | ok text =>
    refine ⟨?_, fun other status text => ?_, fun ⟨secret⟩ => ?_, fun fault => ?_⟩
    · simp [FetchEnd.ofResponse, hread]
    · simp only [FetchEnd.ofResponse, hread, hrefused, if_true, reduceCtorEq]
    · simp [FetchEnd.ofResponse, hread]
    · simp [FetchEnd.ofResponse, hread]
  | error fault =>
    refine ⟨?_, fun other status text => ?_, fun secret => ?_, fun fault => ?_⟩
    · simp [FetchEnd.ofResponse, hread]
    · simp only [FetchEnd.ofResponse, hread, hrefused, if_true, FetchEnd.failed.injEq,
        reduceCtorEq]
    · simp [FetchEnd.ofResponse, hread]
    · simp [FetchEnd.ofResponse, hread]

/-- What is answered with another status is refused, with the status and the whole body. -/
private theorem concludes_refused (kind : TokenKind) (read : String → Except BodyFault String)
    (decode : Http.Decoder) {status : Nat} (hstatus : status ≠ 200)
    (contentType : Option String) (body : List UInt8) :
    Concludes kind read decode (some (.answer status contentType body))
      (.failed (.refused kind status
        (decode contentType (if status = 204 ∨ status = 304 then [] else body)))) := by
  refine ⟨?_, fun other status' text => ?_, fun secret => ?_, fun fault => ?_⟩
  · simp
  -- The reply is one only, so the status and the text of the error are those it came with.
  · constructor
    · intro hend
      cases hend
      exact ⟨rfl, hstatus, contentType, body, rfl, rfl⟩
    · rintro ⟨rfl, -, _, _, heq, rfl⟩
      cases heq
      rfl
  · simp [hstatus]
  · simp [hstatus]

/-- Every reply, and that there is none, ends a fetch in one of these ways. -/
theorem concludes_ofResponse (kind : TokenKind) (read : String → Except BodyFault String)
    (decode : Http.Decoder) (reply? : Option Http.Reply) :
    Concludes kind read decode reply?
      (.ofResponse kind read (reply?.bind (Http.Reply.response? decode))) := by
  -- A host that does not answer, an answer that is lost, and one that arrives.
  match reply? with
  | none => exact concludes_unreachable kind read decode (.inl rfl)
  | some .lost => exact concludes_unreachable kind read decode (.inr rfl)
  | some (.answer status contentType body) =>
    -- Only 200 is read as a token; any other status is reported with its body.
    by_cases hstatus : status = 200
    · subst hstatus
      exact concludes_read kind read decode contentType body
    · have hrefused := concludes_refused kind read decode hstatus contentType body
      simpa [FetchEnd.ofResponse, hstatus, Http.Reply.response?, Http.receivedBody] using hrefused

/-! ## Fetches whose request is handed over -/

/-- A fetch for a kind of token hands one request over, and the reply to it ends the fetch: on a
network that answers nothing it fails, and on one that replies, there is one reply less and one
request more. -/
structure HandsOver (kind : TokenKind) (read : String → Except BodyFault String)
    (wire : Http.Request) (fetch : Http.Network → FetchEnd × Http.Network) : Prop where
  unreachable : fetch .unreachable = (.failed .unreachable, .unreachable)
  sent : ∀ decode replies sent, (fetch (.replying decode replies sent)).2 =
    .replying decode replies.tail (sent ++ [wire])
  concludes : ∀ decode replies sent,
    Concludes kind read decode replies.head? (fetch (.replying decode replies sent)).1

/-- The token of a plain body: the body without blanks around it, unless all of it is blank. -/
theorem Body.plainToken_eq_ok_iff {body token : String} :
    Body.plainToken body = .ok token ↔ Text.isAllBlank body = false ∧ token = Text.trim body := by
  have hempty : Text.trim body = "" ↔ Text.isAllBlank body := by
    rw [← String.toList_eq_nil_iff, Text.trim, String.toList_ofList, Text.trimChars_eq_nil_iff,
      Text.isAllBlank]
  -- A blank text is trimmed to nothing, and only a blank one.
  unfold plainToken
  split
  next htrim => simp [hempty.mp htrim]
  next htrim =>
    have hblank : Text.isAllBlank body = false := by simpa [hempty] using htrim
    simp [hblank, eq_comm]

namespace GeneratorSettings

variable {settings : GeneratorSettings} {request : TokenRequest}

/-- A kind without an endpoint has no request. -/
theorem fetch_of_endpoint?_eq_none (h : request.kind.endpoint? = none) (network : Http.Network) :
    settings.fetch request network =
      (.error (.setup (.unsupported "token generator" request.kind)), network) := by
  have hwire : settings.wireRequest request =
      .error (.unsupported "token generator" request.kind) := by
    simp only [wireRequest, h]
    rfl
  simp only [fetch, fetchBody, hwire]
  rfl

/-- The outcome of a fetch, and the network after it. -/
def outcome (settings : GeneratorSettings) (request : TokenRequest) (network : Http.Network) :
    FetchEnd × Http.Network :=
  (.ofResult (settings.fetch request network).1, (settings.fetch request network).2)

/-- The reply to a plain request ends the fetch. -/
private theorem outcome_replying {wire : Http.Request}
    (h : settings.wireRequest request = .ok wire) (hplain : wire.isPlain)
    (decode : Http.Decoder) (replies : List Http.Reply) (sent : List Http.Request) :
    settings.outcome request (.replying decode replies sent) =
      (.ofResponse request.kind Body.plainToken
        (replies.head?.bind (Http.Reply.response? decode)),
        .replying decode replies.tail (sent ++ [wire])) := by
  simp only [outcome, fetch, fetchBody, h, Http.Network.send_of_isPlain hplain]
  -- The reply is looked at in the order of the code: is there one, is its status 200, what is its
  -- body.
  cases replies.head?.bind (Http.Reply.response? decode) with
  | none => rfl
  | some response =>
    by_cases hstatus : response.status = 200
    · simp only [hstatus, if_true, FetchEnd.ofResponse]
      cases hread : Body.plainToken response.body <;>
        simp [Except.bind, Except.map, Except.mapError, hread, FetchEnd.ofResult]
    · simp [hstatus, FetchEnd.ofResponse, Except.bind, FetchEnd.ofResult]

/-- A plain request is handed over. -/
theorem handsOver {wire : Http.Request} (h : settings.wireRequest request = .ok wire)
    (hplain : wire.isPlain) :
    HandsOver request.kind Body.plainToken wire (settings.outcome request) where
  unreachable := by
    simp only [outcome, fetch, fetchBody, h, Http.Network.send]
    rfl
  sent decode replies sent := by rw [outcome_replying h hplain]
  concludes decode replies sent := by
    rw [outcome_replying h hplain]
    exact concludes_ofResponse _ _ _ _

end GeneratorSettings

namespace GrantExchange

variable {exchange : GrantExchange} {request : TokenRequest} {now : Instant} {nonce : List UInt8}

/-- A fetch that fails before its request is made leaves the network as it is. -/
theorem fetch_of_wireRequest?_error {failure : Failure}
    (h : exchange.wireRequest? request now nonce = some (.error failure))
    (network : Http.Network) :
    exchange.fetch request now nonce network = (.failed failure, network) := by
  simp only [fetch, h]

/-- The reply to a plain request ends the fetch. -/
private theorem fetch_replying {wire : Http.Request}
    (h : exchange.wireRequest? request now nonce = some (.ok wire)) (hplain : wire.isPlain)
    (decode : Http.Decoder) (replies : List Http.Reply) (sent : List Http.Request) :
    exchange.fetch request now nonce (.replying decode replies sent) =
      (.ofResponse request.kind Body.accessToken
        (replies.head?.bind (Http.Reply.response? decode)),
        .replying decode replies.tail (sent ++ [wire])) := by
  simp only [fetch, h, Http.Network.send_of_isPlain hplain]
  -- As for the generator, with the other reader of the body.
  cases replies.head?.bind (Http.Reply.response? decode) with
  | none => rfl
  | some response =>
    by_cases hstatus : response.status = 200
    · simp only [hstatus, if_true, FetchEnd.ofResponse]
      cases Body.accessToken response.body <;> rfl
    · simp [hstatus, FetchEnd.ofResponse]

/-- A plain request is handed over. -/
theorem handsOver {wire : Http.Request}
    (h : exchange.wireRequest? request now nonce = some (.ok wire)) (hplain : wire.isPlain) :
    HandsOver request.kind Body.accessToken wire (exchange.fetch request now nonce) where
  unreachable := by simp only [fetch, h, Http.Network.send]
  sent decode replies sent := by rw [fetch_replying h hplain]
  concludes decode replies sent := by
    rw [fetch_replying h hplain]
    exact concludes_ofResponse _ _ _ _

end GrantExchange

/-! ## All fetches -/

/-- A fetch over plain HTTP hands over one request, or none.

The token generator has no request just for the kind of a machine client.  The exchange has one
just for that kind, when there are scopes and, as long as the end of the grant can be said, when
the key signs.  A fetch without a request fails and leaves the network as it is.  The other
fetches take one reply for their one request, and end with a token just when the status is 200 and
the body holds one; for the token generator that is the body without blanks around it, if it is
not blank.  With another status they fail with the whole text of the body, whatever decoder it is
that reads bodies. -/
theorem one_request_one_outcome :
    (∀ settings : GeneratorSettings, settings.Accepted → settings.baseUrl.scheme = "http" →
      ∀ request : TokenRequest,
        (request.kind = .maskinporten → ∀ network, settings.fetch request network =
          (.error (.setup (.unsupported "token generator" request.kind)), network)) ∧
        (request.kind ≠ .maskinporten → ∃ wire, settings.wireRequest request = .ok wire ∧
          HandsOver request.kind Body.plainToken wire (settings.outcome request))) ∧
    (∀ body token, Body.plainToken body = .ok token ↔
      Text.isAllBlank body = false ∧ token = Text.trim body) ∧
    (∀ exchange : GrantExchange, exchange.settings.tokenUrl.scheme = "http" →
      ∀ (request : TokenRequest) (now : Instant) (nonce : List UInt8),
        Text.int64Min ≤ now.unixSeconds + exchange.signer.lifetime.wholeSeconds →
        now.unixSeconds + exchange.signer.lifetime.wholeSeconds ≤ Text.int64Max →
        (request.kind ≠ .maskinporten → ∀ network, exchange.fetch request now nonce network =
          (.failed (.setup (.unsupported "maskinporten" request.kind)), network)) ∧
        (request.kind = .maskinporten → request.scopes? = none →
          ∀ network, exchange.fetch request now nonce network =
            (.failed (.request (.missingOption request.kind TokenRequest.scopesName)),
              network)) ∧
        (∀ scopes, request.kind = .maskinporten → request.scopes? = some scopes →
          (exchange.signer.sign? scopes now nonce = some (.error .signing) ∧
            ∀ network, exchange.fetch request now nonce network =
              (.failed (.setup .signing), network)) ∨
          ∃ grant wire, exchange.signer.sign? scopes now nonce = some (.ok grant) ∧
            exchange.wireRequest? request now nonce = some (.ok wire) ∧
            HandsOver request.kind Body.accessToken wire (exchange.fetch request now nonce))) := by
  refine ⟨fun settings haccepted hscheme request => ⟨fun hkind => ?_, fun hkind => ?_⟩,
    fun body token => Body.plainToken_eq_ok_iff,
    fun exchange hscheme request now nonce hmin hmax =>
      ⟨fun hkind => ?_, fun hkind hscopes => ?_, fun scopes hkind hscopes => ?_⟩⟩
  · exact GeneratorSettings.fetch_of_endpoint?_eq_none (by rw [hkind]; rfl)
  · obtain ⟨endpoint, hendpoint⟩ := TokenKind.exists_endpoint hkind
    obtain ⟨front, -, hsent⟩ := haccepted.ready.wireRequest
    obtain ⟨wire, hwire, -, hplain, -⟩ := hsent request endpoint hendpoint
    have hisPlain : wire.isPlain := by simp [hplain, hscheme]
    exact ⟨wire, hwire, GeneratorSettings.handsOver hwire hisPlain⟩
  · refine GrantExchange.fetch_of_wireRequest?_error ?_
    simp [GrantExchange.wireRequest?, hkind]
  · refine GrantExchange.fetch_of_wireRequest?_error ?_
    simp [GrantExchange.wireRequest?, hkind, hscopes]
  · -- Only the key can fail now.
    rcases exchange.signer.sign?_cases scopes nonce ⟨hmin, hmax⟩ with
      hsign | ⟨claims, grant, -, -, hsign⟩
    · refine .inl ⟨hsign, GrantExchange.fetch_of_wireRequest?_error ?_⟩
      simp [GrantExchange.wireRequest?, hkind, hscopes, hsign]
    · have hwire := GrantExchange.wireRequest?_of_sign? hkind hscopes hsign
      have hisPlain := GrantExchange.isPlain_of_wireRequest? hwire
      simp only [hscheme, beq_self_eq_true] at hisPlain
      exact .inr ⟨grant, _, hsign, hwire, GrantExchange.handsOver hwire hisPlain⟩

namespace Sample

/-- A network that gives one reply. -/
def replying (status : Nat) (body : List UInt8) : Http.Network :=
  .replying .utf8 [.answer status none body] []

/-- A body in JSON that holds a token. -/
def tokenBody : List UInt8 := Text.bytes "\x7b\"access_token\":\"t\"\x7d"

theorem accessToken_of_reply :
    Body.accessToken (Http.Decoder.utf8 none tokenBody) = .ok "t" :=
  eq_ok_of_toOption (by decide +kernel)

/-- Fetches of the samples: a kind that is not served, a status that is not 200, a body that is
trimmed, a kind that grants are not exchanged for, and a grant that is exchanged for a token. -/
theorem one_outcome_of_samples :
    (∀ network, settings.fetch twoScopes network =
      (.error (.setup (.unsupported "token generator" .maskinporten)), network)) ∧
    (∃ wire, settings.outcome ⟨.platform, .empty⟩ (replying 201 [0x20, 0x61]) =
      (.failed (.refused .platform 201 " a"), .replying .utf8 [] [wire])) ∧
    (settings.outcome ⟨.platform, .empty⟩ (replying 200 [0x20, 0x61])).1 = .token ⟨"a"⟩ ∧
    (∀ network, exchange.fetch ⟨.platform, .empty⟩ ⟨0, by decide⟩ [] network =
      (.failed (.setup (.unsupported "maskinporten" .platform)), network)) ∧
    ∃ wire, wire.AsksFor "a:1 b:2" ∧
      exchange.fetch twoScopes ⟨0, by decide⟩ [] (replying 200 tokenBody) =
        (.token ⟨"t"⟩, .replying .utf8 [] [wire]) := by
  obtain ⟨hgenerator, -, hexchange⟩ := one_request_one_outcome
  obtain ⟨wire, hwire, hserved⟩ :=
    (hgenerator settings settings_accepted rfl ⟨.platform, .empty⟩).2 (by decide)
  have hgrants (request : TokenRequest) :=
    hexchange exchange rfl request ⟨0, by decide⟩ [] (by decide) (by decide)
  refine ⟨(hgenerator settings settings_accepted rfl twoScopes).1 rfl, ⟨wire, ?_⟩, ?_,
    (hgrants ⟨.platform, .empty⟩).1 (by decide), ?_⟩
  -- The status 201 is refused, and the error has the body as it came, with its blank.
  · refine Prod.ext ?_ (hserved.sent _ _ _)
    refine ((hserved.concludes _ _ _).refused _ _ _).mpr ⟨rfl, by decide, none, _, rfl, ?_⟩
    decide +kernel
  -- The same body under status 200 is a token, without the blank.
  · refine ((hserved.concludes _ _ _).token _).mpr ⟨none, _, rfl, ?_⟩
    have htext : Http.Decoder.utf8 none [0x20, 0x61] = " a" := by decide +kernel
    rw [htext]
    rfl
  -- A grant is signed and posted, so of the two outcomes for the scopes it is the second.
  · obtain ⟨posted, hposted⟩ := wireRequest?_twoScopes
    obtain ⟨scopes, hscopes, hnormal⟩ := twoScopes_wellFormed.scopes "a:1 b:2" (by decide)
    rcases (hgrants twoScopes).2.2 scopes rfl hscopes with
      ⟨hunsigned, -⟩ | ⟨_, wire, -, hwire, hover⟩
    · -- Then nothing would be posted.
      have hkind : twoScopes.kind = .maskinporten := rfl
      simp [GrantExchange.wireRequest?, hkind, hscopes, hunsigned] at hposted
    · refine ⟨wire, hnormal ▸ GrantExchange.asksFor_of_wireRequest? hscopes hwire, ?_⟩
      refine Prod.ext ?_ (hover.sent _ _ _)
      exact ((hover.concludes _ _ _).token _).mpr ⟨none, _, rfl, accessToken_of_reply⟩

end Sample

end BearerCache
