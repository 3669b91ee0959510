import BearerCache.Proofs.EndpointAddress
import BearerCache.Proofs.WireQuery

/-! # The values of `Authorization`

A value of the header `Authorization` is added to those that are there, and replaces none of them.
So a secret that is presented is alone only where nothing was presented before it.  The token
generator is asked with the user name and the password of its settings, and if the base address has
a user in it too, with that one before them.

## Main definitions

- `GeneratorSettings.credentials`: the value that presents the user of the settings

## Key results

- `Http.foldlM_presentBearer`: what is presented after some secrets
- `Http.presented_alone_iff`: when the last secret is the only one that is presented
- `GeneratorSettings.Ready.authorization`: what the token generator is asked with
- `GeneratorSettings.credentials_alone_iff`: when that is the user of the settings alone
-/

namespace BearerCache

/-- The bytes of joined texts are those of the one and then those of the other. -/
theorem Text.bytes_append (s t : String) : bytes (s ++ t) = bytes s ++ bytes t := by
  simp only [bytes, String.toByteArray_append, ByteArray.data_append, Array.toList_append]

/-! ## Secrets -/

namespace Http

variable {before : List String} {secrets : List Secret}

/-- A text can be the value of a header if both of its parts can. -/
theorem isHeaderValue_append (s t : String) :
    isHeaderValue (s ++ t) = (isHeaderValue s && isHeaderValue t) := by
  rw [isHeaderValue, String.toList_append, List.all_append]
  rfl

/-- The value that presents a secret can be one of a header if the secret can. -/
theorem isHeaderValue_bearerHeader (secret : Secret) :
    isHeaderValue secret.bearerHeader = isHeaderValue secret.expose := by
  have hscheme : isHeaderValue "Bearer " := by decide
  rw [Secret.bearerHeader, isHeaderValue_append, hscheme, Bool.true_and]

/-- A secret is presented after the values that are there. -/
theorem presentBearer_eq_some {secret : Secret} (hbefore : ∀ value ∈ before, isHeaderValue value)
    (hsecret : isHeaderValue secret.expose) :
    presentBearer before secret = some (before ++ [secret.bearerHeader]) := by
  have hall : (before ++ [secret.bearerHeader]).all isHeaderValue := by
    rw [List.all_append, Bool.and_eq_true]
    refine ⟨List.all_eq_true.mpr hbefore, ?_⟩
    simpa [isHeaderValue_bearerHeader] using hsecret
  simp only [presentBearer, hall, if_true]

/-- Secrets that are presented one after the other are all there, after the values that were there
before. -/
theorem foldlM_presentBearer (hbefore : ∀ value ∈ before, isHeaderValue value)
    (hsecrets : ∀ secret ∈ secrets, isHeaderValue secret.expose) :
    secrets.foldlM presentBearer before = some (before ++ secrets.map Secret.bearerHeader) := by
  -- A secret that has been presented is one of the values before the next one.
  induction secrets generalizing before with
  | nil => simp
  | cons secret secrets ih =>
    obtain ⟨hsecret, hsecrets⟩ := List.forall_mem_cons.mp hsecrets
    have hnext : ∀ value ∈ before ++ [secret.bearerHeader], isHeaderValue value := by
      refine List.forall_mem_append.mpr ⟨hbefore, List.forall_mem_singleton.mpr ?_⟩
      rw [isHeaderValue_bearerHeader]
      exact hsecret
    rw [List.foldlM_cons, presentBearer_eq_some hbefore hsecret]
    simp only [Option.bind_eq_bind, Option.bind_some, ih hnext hsecrets, List.map_cons,
      List.append_assoc, List.singleton_append]

/-- Secrets are presented one after the other, all of which can be in a header.  Each of them is
there, after all that was there before, so the last one is alone if and only if nothing was there
and no other secret was presented. -/
theorem presented_alone_iff (before : List String) (front : List Secret) (last : Secret)
    (hbefore : ∀ value ∈ before, isHeaderValue value)
    (hsecrets : ∀ secret ∈ front ++ [last], isHeaderValue secret.expose) :
    ∃ values, (front ++ [last]).foldlM presentBearer before = some values ∧
      values = before ++ front.map Secret.bearerHeader ++ [last.bearerHeader] ∧
      (values = [last.bearerHeader] ↔ before = [] ∧ front = []) := by
  refine ⟨_, foldlM_presentBearer hbefore hsecrets, by simp, ?_⟩
  rw [List.map_append, List.map_singleton, ← List.append_assoc, List.append_left_eq_self,
    List.append_eq_nil_iff, List.map_eq_nil_iff]

end Http

namespace Sample

open Http

/-- A secret is presented for the second time, with another scheme before. -/
theorem renewed_after_basic :
    ∃ values, [⟨"old"⟩, ⟨"new"⟩].foldlM presentBearer ["Basic YTpi"] = some values ∧
      values = ["Basic YTpi", "Bearer old", "Bearer new"] ∧ values ≠ ["Bearer new"] := by
  obtain ⟨values, hvalues, hall, halone⟩ :=
    presented_alone_iff ["Basic YTpi"] [⟨"old"⟩] ⟨"new"⟩ (by decide) (by decide)
  exact ⟨values, hvalues, hall, fun h => absurd (halone.mp h).1 (by decide)⟩

/-- Where a value is there before, the secret that is presented does not replace it. -/
theorem earlier_value_stays :
    presentBearer ["Bearer old"] ⟨"new"⟩ = some ["Bearer old", "Bearer new"] ∧
    ¬∀ (before : List String) (front : List Secret) (last : Secret),
      (∀ value ∈ before, isHeaderValue value) →
      (∀ secret ∈ front ++ [last], isHeaderValue secret.expose) →
      (front ++ [last]).foldlM presentBearer before = some [last.bearerHeader] := by
  refine ⟨by decide, fun h => ?_⟩
  exact absurd (h ["Bearer old"] [] ⟨"new"⟩ (by decide) (by decide)) (by decide)

end Sample

/-! ## The user of the token generator -/

namespace Http

/-- An address has no credentials if there is no user in it. -/
theorem urlCredentials_eq_nil_iff {url : Url} : urlCredentials url = [] ↔ userOf? url = none := by
  unfold urlCredentials
  cases userOf? url <;> simp

/-- There is no user in an address without a user name and a password. -/
theorem userOf?_eq_none {url : Url} (husername : url.username = "")
    (hpassword : url.password = none) : userOf? url = none := by
  have hempty : partText? "" = some "" := by
    have hbytes : Url.unescape (Text.bytes "") = Text.bytes "" := by decide +kernel
    rw [partText?, hbytes, Text.ofBytes?_bytes]
  simp [userOf?, husername, hpassword, hempty]

/-- The value that presents a user name and a password holds the Base64 form of both with a colon
between them. -/
theorem basicHeader_bytes (username password : String) :
    basicHeader (Text.bytes username) (Text.bytes password) =
      "Basic " ++ Text.Base64.encodePadded .standard
        (Text.bytes (username ++ ":" ++ password)) := by
  have hcolon : Text.bytes ":" = [0x3A] := by decide +kernel
  rw [basicHeader, Text.bytes_append, Text.bytes_append, hcolon, List.append_assoc,
    List.singleton_append]

end Http

namespace GeneratorSettings

variable {settings : GeneratorSettings} {request : TokenRequest}

/-- The value that presents the user name and the password of settings. -/
def credentials (settings : GeneratorSettings) : String :=
  "Basic " ++ Text.Base64.encodePadded .standard
    (Text.bytes (settings.username ++ ":" ++ settings.password.expose))

/-- The token generator is asked with the user of the settings, after the one of the base address if
there is one in it. -/
theorem Ready.authorization (h : settings.Ready) (hkind : request.kind ≠ .maskinporten) :
    ∃ wire, settings.wireRequest request = .ok wire ∧
      wire.isPlain = (settings.baseUrl.scheme == "http") ∧
      wire.authorization = Http.urlCredentials settings.baseUrl ++ [settings.credentials] := by
  obtain ⟨endpoint, hendpoint⟩ := TokenKind.exists_endpoint hkind
  obtain ⟨list, hpath⟩ := h.directory
  have hurl := endpointUrl_eq h.isNormal.scheme hpath hendpoint
  -- The endpoint takes the place of the last segment, and user and password of the address stay.
  have hwire : settings.wireRequest request = .ok (Http.get
      { settings.baseUrl with
        path := .segments (list ++ [endpoint])
        query := some (Text.Form.encode (settings.canonical request).options.entries)
        fragment := none }
      [Http.basicHeader (Text.bytes settings.username) (Text.bytes settings.password.expose)]) := by
    simp only [GeneratorSettings.wireRequest, hendpoint, hurl]
    rfl
  refine ⟨_, hwire, rfl, ?_⟩
  rw [credentials, ← Http.basicHeader_bytes]
  rfl

/-- Nothing is sent for a request but what is asked for it. -/
theorem sent_fetchBody {wire : Http.Request} (h : settings.wireRequest request = .ok wire)
    (network : Http.Network) :
    (settings.fetchBody request network).2.sent = network.sent ∨
      (settings.fetchBody request network).2.sent = network.sent ++ [wire] := by
  -- Whatever becomes of the response, the network is the one that the request leaves.
  have hnetwork : (settings.fetchBody request network).2 = (network.send wire).2 := by
    simp only [fetchBody, h]
    split
    next => rfl
    next => split <;> rfl
  rw [hnetwork]
  exact Http.Network.sent_send wire network

/-- For every kind of token that it serves, the token generator is asked by one request, whether for
one token or for many.  The request presents the user of the settings, and before it the user that
the base address has in it, so it has one value of `Authorization` if and only if there is none in
the address. -/
theorem credentials_alone_iff (haccepted : settings.Accepted)
    (hkind : request.kind ≠ .maskinporten) :
    ∃ wire, settings.wireRequest request = .ok wire ∧
      (∀ network : Http.Network,
        ((settings.fetch request network).2.sent = network.sent ∨
          (settings.fetch request network).2.sent = network.sent ++ [wire]) ∧
        ((settings.fetchBulk request network).2.sent = network.sent ∨
          (settings.fetchBulk request network).2.sent = network.sent ++ [wire])) ∧
      (settings.baseUrl.scheme = "http" → ∀ decode replies sent,
        (settings.fetch request (.replying decode replies sent)).2.sent = sent ++ [wire]) ∧
      wire.authorization = Http.urlCredentials settings.baseUrl ++ [settings.credentials] ∧
      (wire.authorization = [settings.credentials] ↔ Http.userOf? settings.baseUrl = none) := by
  obtain ⟨wire, hwire, hplain, hvalues⟩ := haccepted.ready.authorization hkind
  refine ⟨wire, hwire, fun network => ⟨sent_fetchBody hwire network, sent_fetchBody hwire network⟩,
    fun hscheme => ?_, hvalues, ?_⟩
  · refine sent_fetch hwire ?_
    rw [hplain, hscheme]
    rfl
  -- The address adds a value exactly when there is a user in it.
  · rw [hvalues, List.append_left_eq_self, Http.urlCredentials_eq_nil_iff]

end GeneratorSettings

namespace Sample

/-- An address with a user and a password in it. -/
def namedAddress : Url :=
  ⟨"http", "u", some "p", some (.domain "gen.example"), none, .segments ["api"], none, none⟩

/-- A token generator at that address, with another user and password. -/
def namedSettings : GeneratorSettings :=
  { settings with baseUrl := namedAddress.asDirectory }

theorem namedSettings_accepted : namedSettings.Accepted := by
  have hparse : Url.parse "http://u:p@gen.example/api" = .ok namedAddress := by decide +kernel
  have hbuild : GeneratorDraft.build { GeneratorDraft.ofUser "user" "pass" with
      baseUrl := some namedAddress } = .ok namedSettings := by decide
  exact .of_isRead rfl (.parse hparse) hbuild

theorem userOf?_namedAddress : Http.userOf? namedAddress = some ("u", some "p") := by
  have huser : Url.unescape (Text.bytes "u") = Text.bytes "u" := by decide +kernel
  have hpassword : Url.unescape (Text.bytes "p") = Text.bytes "p" := by decide +kernel
  have hparts : Http.partText? "u" = some "u" ∧ Http.partText? "p" = some "p" := by
    rw [Http.partText?, huser, Http.partText?, hpassword]
    exact ⟨Text.ofBytes?_bytes _, Text.ofBytes?_bytes _⟩
  simp [Http.userOf?, namedAddress, hparts]

/-- A token generator at an address without a user is asked with that of the settings alone. -/
theorem credentials_of_settings :
    ∃ wire, settings.wireRequest ⟨.platform, .empty⟩ = .ok wire ∧
      wire.authorization = ["Basic dXNlcjpwYXNz"] := by
  have hkind : (TokenRequest.mk .platform .empty).kind ≠ .maskinporten := by decide
  obtain ⟨wire, hwire, -, -, -, halone⟩ :=
    GeneratorSettings.credentials_alone_iff settings_accepted hkind
  have hnone : Http.userOf? settings.baseUrl = none := Http.userOf?_eq_none rfl rfl
  have hvalue : settings.credentials = "Basic dXNlcjpwYXNz" := by decide +kernel
  exact ⟨wire, hwire, hvalue ▸ halone.mpr hnone⟩

/-- Settings with a user in the base address are accepted, and the token generator is asked with
both users. -/
theorem user_of_address_stays :
    namedSettings.Accepted ∧
    (∃ wire, namedSettings.wireRequest ⟨.platform, .empty⟩ = .ok wire ∧
      wire.authorization = ["Basic dTpw", "Basic dXNlcjpwYXNz"]) ∧
    ¬∀ settings : GeneratorSettings, settings.Accepted → ∀ request : TokenRequest,
      request.kind ≠ .maskinporten → ∃ wire, settings.wireRequest request = .ok wire ∧
        wire.authorization = [settings.credentials] := by
  -- The user of the address stands before the one of the settings.
  have hvalues : Http.urlCredentials namedSettings.baseUrl ++ [namedSettings.credentials] =
      ["Basic dTpw", "Basic dXNlcjpwYXNz"] := by
    have huser : Http.userOf? namedSettings.baseUrl = some ("u", some "p") :=
      userOf?_namedAddress
    rw [Http.urlCredentials, huser]
    decide +kernel
  have hkind : (TokenRequest.mk .platform .empty).kind ≠ .maskinporten := by decide
  obtain ⟨wire, hwire, -, hsent⟩ := namedSettings_accepted.ready.authorization hkind
  refine ⟨namedSettings_accepted, ⟨wire, hwire, hsent.trans hvalues⟩, fun h => ?_⟩
  -- If there were but one value, the two lists would have the same length.
  obtain ⟨other, hother, halone⟩ := h _ namedSettings_accepted ⟨.platform, .empty⟩ hkind
  cases hother.symm.trans hwire
  rw [hsent, hvalues] at halone
  exact absurd (congrArg List.length halone) (by simp)

end Sample

end BearerCache
