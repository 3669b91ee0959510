import BearerCache.Proofs.CanonicalScopes
import BearerCache.Proofs.GrantText
import BearerCache.Proofs.LongLabel
import BearerCache.Proofs.SettingsText
import BearerCache.Proofs.WireQuery

/-! # What is written in JSON is read back

Leases, settings, claims, scope sets, identifiers and keys are read back from their JSON as what
they were, and so they are written as the same text again.  The one exception is settings with an
address that no reader takes, because a label of its host has a Punycode that is too long.

A text that is read as an identifier or as a scope set is one that the check takes too.

## Key results

- `json_round_trip`: what is read back, and what the texts are that are read
-/

namespace BearerCache

/-! ## Round trips -/

namespace Json

section

variable {α β : Type} {reader : Reader α} {toJson : α → Value} {a : α}

/-- A value is read back from its JSON as an equal one, which is written as the same text again. -/
def RoundTrips (reader : Reader α) (toJson : α → Value) (a : α) : Prop :=
  ∃ again, reader.parse (Text.bytes (toJson a).write) = .ok again ∧ again = a ∧
    (toJson again).write = (toJson a).write

theorem Reads.roundTrips (h : Reads reader (toJson a) a) : RoundTrips reader toJson a :=
  ⟨a, h.parse, rfl, rfl⟩

theorem Refuses.not_roundTrips (h : Refuses reader (toJson a)) : ¬RoundTrips reader toJson a := by
  rintro ⟨again, hread, -⟩
  exact h.parse_ne_ok again hread

/-- What is read on a condition, and refused without it, is read back just on that condition. -/
theorem roundTrips_iff {condition : Bool} (hreads : condition → Reads reader (toJson a) a)
    (hrefuses : condition = false → Refuses reader (toJson a)) :
    RoundTrips reader toJson a ↔ condition := by
  cases condition with
  | true => exact iff_of_true (hreads rfl).roundTrips rfl
  | false => exact iff_of_false (hrefuses rfl).not_roundTrips Bool.false_ne_true

end

end Json

/-! ## Identifiers and scope sets that are read -/

section

variable {role : Role} {bs : List UInt8}

/-- What an identifier is: it has a character, no blank, and not too many characters. -/
theorem Identifier.spec (i : Identifier role) :
    i.text ≠ "" ∧ (∀ c ∈ i.text.toList, Text.isBlank c = false) ∧ i.text.toList.length ≤ 128 := by
  have hvalid := i.valid
  -- An identifier has passed its three checks, one after the other.
  unfold identifierFault? at hvalid
  split at hvalid
  next => cases hvalid
  next hne =>
    split at hvalid
    next => cases hvalid
    next hblank =>
      split at hvalid
      next => cases hvalid
      next hlength =>
        refine ⟨fun hempty => hne (by rw [hempty]; rfl), ?_, Nat.le_of_not_lt hlength⟩
        simpa using hblank

/-- What is read as an identifier is a text that is one. -/
theorem Identifier.ofText_of_parse {i : Identifier role} (h : (reader role).parse bs = .ok i) :
    Json.Reader.text.parse bs = .ok i.text ∧ ofText role i.text = .ok i := by
  obtain ⟨text, hread, hof⟩ := Json.Reader.parse_checked_eq_ok_iff.mp h
  rw [ofText_eq_ok hof]
  exact ⟨hread, hof⟩

/-- What is read as a scope set is a text of its scopes. -/
theorem Scopes.ofText_of_parse {scopes : Scopes} (h : reader.parse bs = .ok scopes) :
    ∃ text, Json.Reader.text.parse bs = .ok text ∧ ofText text = .ok scopes :=
  parse_reader_eq_ok_iff.mp h

/-- The scopes of a text are its words. -/
theorem Scopes.mem_elements_of_ofText {text : String} {scopes : Scopes}
    (h : ofText text = .ok scopes) (s : String) : s ∈ scopes.elements ↔ s ∈ Text.words text :=
  ofList_eq_ok_iff.mp h s

end

/-! ## The data model -/

/-- Leases are read back from their documents. -/
theorem Lease.parse_document_iff (lease lease' : Lease) :
    LeaseDocument.reader.parse (Text.bytes lease.document.toJson.write) = .ok lease'.document ↔
      lease' = lease := by
  have hissued : lease.document.issuedAt.IsValid := Stamp.isValid_ofInstant lease.issuedAt
  have hexpires : lease.document.expiresAt.IsValid := Stamp.isValid_ofInstant lease.expiresAt
  have hread := (LeaseDocument.reads_toJson hissued hexpires).parse
  constructor
  · intro h
    exact document_injective (Except.ok.inj (h.symm.trans hread))
  · rintro rfl
    exact hread

/-- What is written in JSON is read back: leases with any stamps, settings that are accepted if
their address is short, claims, scope sets, identifiers and keys.  What is read as an identifier or
a scope set is a text from which the check makes it. -/
theorem json_round_trip :
    (∀ document : LeaseDocument, document.issuedAt.IsValid → document.expiresAt.IsValid →
      Json.RoundTrips LeaseDocument.reader LeaseDocument.toJson document) ∧
    (∀ lease lease' : Lease,
      LeaseDocument.reader.parse (Text.bytes lease.document.toJson.write) = .ok lease'.document ↔
        lease' = lease) ∧
    (∀ settings : GeneratorSettings, settings.Accepted →
      (Json.RoundTrips GeneratorSettings.reader GeneratorSettings.toJson settings ↔
        settings.baseUrl.isShort)) ∧
    (∀ settings : ExchangeSettings, settings.Accepted →
      (Json.RoundTrips ExchangeSettings.reader ExchangeSettings.toJson settings ↔
        settings.tokenUrl.isShort)) ∧
    (∀ claims : GrantClaims, (Text.int64Min ≤ claims.iat ∧ claims.iat ≤ Text.int64Max) →
      (Text.int64Min ≤ claims.exp ∧ claims.exp ≤ Text.int64Max) →
      Json.RoundTrips GrantClaims.reader GrantClaims.toJson claims) ∧
    (∀ scopes, Json.RoundTrips Scopes.reader Scopes.toJson scopes) ∧
    (∀ role (i : Identifier role), Json.RoundTrips (Identifier.reader role) Identifier.toJson i) ∧
    (∀ key, Json.RoundTrips EntryKey.reader EntryKey.toJson key) ∧
    (∀ role bs (i : Identifier role), (Identifier.reader role).parse bs = .ok i →
      Json.Reader.text.parse bs = .ok i.text ∧ Identifier.ofText role i.text = .ok i ∧
        i.text ≠ "" ∧ (∀ c ∈ i.text.toList, Text.isBlank c = false) ∧
        i.text.toList.length ≤ 128) ∧
    (∀ bs scopes, Scopes.reader.parse bs = .ok scopes →
      ∃ text, Json.Reader.text.parse bs = .ok text ∧ Scopes.ofText text = .ok scopes ∧
        scopes.elements ≠ [] ∧ scopes.elements.Pairwise (· < ·) ∧
        (∀ s, s ∈ scopes.elements ↔ s ∈ Text.words text) ∧
        Scopes.ofText scopes.normalText = .ok scopes) := by
  refine ⟨fun document hissued hexpires => ?_, Lease.parse_document_iff,
    fun settings haccepted => ?_, fun settings haccepted => ?_, fun claims hiat hexp => ?_, fun scopes => ?_, fun role i => ?_,
    fun key => ?_, fun role bs i hparse => ?_, fun bs scopes hparse => ?_⟩
  -- Each kind of document has its own lemma; those with an address need its labels to be short.
  · exact (LeaseDocument.reads_toJson hissued hexpires).roundTrips
  · have hnormal := haccepted.ready.isNormal
    exact Json.roundTrips_iff (GeneratorSettings.reads_toJson hnormal)
      (GeneratorSettings.refuses_toJson hnormal)
  · exact Json.roundTrips_iff (ExchangeSettings.reads_toJson haccepted.isNormal)
      (ExchangeSettings.refuses_toJson haccepted.isNormal)
  · exact (GrantClaims.reads_toJson hiat hexp).roundTrips
  · exact scopes.reads_toJson.roundTrips
  · exact i.reads_toJson.roundTrips
  · exact Json.Reads.roundTrips ((Json.Reads.text key.text).map EntryKey.mk)
  · obtain ⟨hread, hof⟩ := Identifier.ofText_of_parse hparse
    exact ⟨hread, hof, i.spec⟩
  · obtain ⟨text, hread, hof⟩ := Scopes.ofText_of_parse hparse
    exact ⟨text, hread, hof, scopes.nonempty, scopes.sorted, Scopes.mem_elements_of_ofText hof,
      Scopes.ofText_normalText scopes⟩

namespace Sample

/-- The settings of the exchange come from a draft. -/
theorem exchange_accepted : exchange.settings.Accepted := by
  have hparse : Url.parse "http://[::1]/api" = .ok address := by decide
  have hbuild : ExchangeDraft.build { ExchangeDraft.ofClient ⟨"client", by decide⟩
      ⟨"key", by decide⟩ ⟨""⟩ with tokenUrl := some address, audience := some "audience" } =
      .ok exchange.settings := by decide
  refine .build (fun url hurl => ?_) hbuild
  cases hurl
  exact Url.IsRead.isProper (.parse hparse)

/-- A lease whose token has a quote in it, with an offset of an hour and a half. -/
def lateDocument : LeaseDocument :=
  ⟨⟨"a\"b"⟩, ⟨2024, 366, 23, 59, 59, 999999999, 1, 30, 0⟩, ⟨2025, 1, 0, 0, 0, 0, -1, -30, 0⟩⟩

/-- A lease, settings and claims are read back, and a text is read as an identifier. -/
theorem round_trips_of_samples :
    Json.RoundTrips LeaseDocument.reader LeaseDocument.toJson lateDocument ∧
    Json.RoundTrips GeneratorSettings.reader GeneratorSettings.toJson settings ∧
    Json.RoundTrips ExchangeSettings.reader ExchangeSettings.toJson exchange.settings ∧
    Json.RoundTrips GrantClaims.reader GrantClaims.toJson
      ⟨"audience", scopes, "client", 0, 120, "nonce"⟩ ∧
    Identifier.ofText .client "client" = .ok ⟨"client", by decide⟩ ∧
    ∃ text, Json.Reader.text.parse (Text.bytes (Json.Value.text "b:2 a:1 ").write) = .ok text ∧
      Scopes.ofText text = .ok scopes := by
  obtain ⟨hleases, -, hgenerator, hexchange, hclaims, -, -, -, hidentifiers, hscopes⟩ :=
    json_round_trip
  -- The identifier and the scopes are read from JSON that was written.
  have hclient := (Identifier.reads_toJson exchange.settings.clientId).parse
  have hwords : (Scopes.ofText "b:2 a:1 ").mapError ScopeFault.message = .ok scopes := by
    decide +kernel
  obtain ⟨text, htext, hof, -⟩ := hscopes _ _ ((Json.Reads.text "b:2 a:1 ").refine hwords).parse
  exact ⟨hleases lateDocument ⟨by decide, by decide⟩ ⟨by decide, by decide⟩,
    (hgenerator settings settings_accepted).mpr (by decide),
    (hexchange exchange.settings exchange_accepted).mpr (by decide),
    hclaims _ (by decide) (by decide), (hidentifiers _ _ _ hclient).2.1, text, htext, hof⟩

/-! ## Settings that are not read back -/

/-- Nine hundred ideographs that stand twenty apart. -/
def longLabel : List Char :=
  (List.range' 0x4E00 900 20).map Char.ofNat

/-- The address of the host with that one label, which is written in Punycode. -/
def longAddress : Url :=
  let name := 'x' :: 'n' :: '-' :: '-' :: Url.Punycode.encode longLabel
  ⟨"http", "", none, some (.domain (String.ofList name)), none, .segments [""], none, none⟩

/-- A token generator at that address. -/
def longSettings : GeneratorSettings :=
  ⟨longAddress, "user", ⟨"pass"⟩, GeneratorDraft.usualEnv, GeneratorDraft.usualTtl,
    Settings.defaultTimeout⟩

theorem isIdeograph_of_mem_longLabel : ∀ c ∈ longLabel, Text.isIdeograph c.toNat :=
  List.all_iff_forall_prop.mp (by decide +kernel)

/-- The address is read from a text with the label itself. -/
theorem longAddress_isRead : longAddress.IsRead := by
  have hne : longLabel ≠ [] := by simp [longLabel]
  have hlength : longLabel.length ≤ Url.Domain.longestWide := by
    simp [longLabel, Url.Domain.longestWide]
  exact .parse (Url.parse_http (Url.isHostText_of_ideographs hne isIdeograph_of_mem_longLabel)
    (Url.Host.ofText_of_ideographs hne hlength isIdeograph_of_mem_longLabel))

/-- The Punycode of the label is too long. -/
theorem longAddress_not_isShort : longAddress.isShort = false := by
  have hne : longLabel ≠ [] := by simp [longLabel]
  have hcodes : longLabel.map Char.toNat = List.range' 0x4E00 900 20 := by decide +kernel
  have hlong := Url.Punycode.length_encode (by decide) hcodes
  rw [Url.isShort, longAddress, Option.all_some, Url.Host.isShort, String.toList_ofList,
    Url.Domain.labels_encode_of_ideographs hne isIdeograph_of_mem_longLabel]
  refine Bool.eq_false_iff.mpr fun hshort => ?_
  rw [List.all_cons, List.all_nil, Bool.and_true] at hshort
  have hle : (Url.Punycode.encode longLabel).length ≤ 2000 := of_decide_eq_true hshort
  omega

/-- Settings with that address are accepted, and not read back. -/
theorem longSettings_refused :
    longSettings.Accepted ∧
      ¬Json.RoundTrips GeneratorSettings.reader GeneratorSettings.toJson longSettings := by
  have hbuild : GeneratorDraft.build { GeneratorDraft.ofUser "user" "pass" with
      baseUrl := some longAddress } = .ok longSettings := rfl
  have haccepted : longSettings.Accepted := .of_isRead rfl longAddress_isRead hbuild
  exact ⟨haccepted, (GeneratorSettings.refuses_toJson haccepted.ready.isNormal
    longAddress_not_isShort).not_roundTrips⟩

end Sample

end BearerCache
