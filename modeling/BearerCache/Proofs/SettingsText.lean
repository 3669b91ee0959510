import BearerCache.Proofs.AcceptedSettings
import BearerCache.Proofs.AddressText
import BearerCache.Proofs.TimeText

/-! # Settings are read back

Settings that are accepted have an address in its written form.  It is read back from JSON, and with
it the settings.  Only the host of the address may be in the way, by a label with a Punycode that is
too long to be read; then the settings are refused.

## Key results

- `GeneratorSettings.reads_toJson`, `ExchangeSettings.reads_toJson`: settings are read back
- `GeneratorSettings.refuses_toJson`, `ExchangeSettings.refuses_toJson`: settings are refused
-/

namespace BearerCache

/-- An address in its written form is read back from JSON. -/
theorem Url.IsNormal.reads_toJson {url : Url} (h : url.IsNormal) (hshort : url.isShort) :
    Json.Reads reader url.toJson url := by
  refine (Json.Reads.textAs "a string representing an URL" url.write).refine ?_
  rw [h.parse_write hshort]
  rfl

/-- An address in its written form is refused if its host is not short. -/
theorem Url.IsNormal.refuses_toJson {url : Url} (h : url.IsNormal) (hlong : url.isShort = false) :
    Json.Refuses reader url.toJson := by
  have hfault := congrArg
    (Except.mapError fun fault : Fault => s!"{fault.message}: {Text.quoted url.write}")
    (h.parse_write_of_long hlong)
  exact (Json.Reads.textAs "a string representing an URL" url.write).refine_error hfault

/-! ## The token generator -/

namespace GeneratorSettings

variable {settings : GeneratorSettings}

/-- Settings with an address in its written form are read back from JSON. -/
theorem reads_toJson (h : settings.baseUrl.IsNormal) (hshort : settings.baseUrl.isShort) :
    Json.Reads reader settings.toJson settings :=
  .record (.put rfl rfl (h.reads_toJson hshort) <| .put rfl rfl (.text settings.username) <|
    .put rfl rfl settings.password.reads_toJson <| .put rfl rfl (.text settings.defaultEnv) <|
    .put rfl rfl settings.defaultTtl.reads_toJson <|
    .put rfl rfl settings.requestTimeout.reads_toJson .nil) rfl

/-- Settings with an address that is refused are refused. -/
theorem refuses_toJson (h : settings.baseUrl.IsNormal) (hlong : settings.baseUrl.isShort = false) :
    Json.Refuses reader settings.toJson :=
  .record rfl rfl (h.refuses_toJson hlong)

end GeneratorSettings

/-! ## The grant exchange -/

/-- The text of an identifier is one. -/
theorem Identifier.ofText_text {role : Role} (i : Identifier role) :
    ofText role i.text = .ok i := by
  unfold ofText
  split
  next hfault => exact absurd (hfault.symm.trans i.valid) (by simp)
  next => rfl

/-- Identifiers are read back from JSON. -/
theorem Identifier.reads_toJson {role : Role} (i : Identifier role) :
    Json.Reads (reader role) i.toJson i := by
  refine (Json.Reads.text i.text).refine ?_
  rw [i.ofText_text]
  rfl

namespace ExchangeSettings

variable {settings : ExchangeSettings}

/-- Settings with an address in its written form are read back from JSON. -/
theorem reads_toJson (h : settings.tokenUrl.IsNormal) (hshort : settings.tokenUrl.isShort) :
    Json.Reads reader settings.toJson settings :=
  .record (.put rfl rfl (h.reads_toJson hshort) <| .put rfl rfl (.text settings.audience) <|
    .put rfl rfl settings.clientId.reads_toJson <| .put rfl rfl settings.keyId.reads_toJson <|
    .put rfl rfl settings.encodedJwk.reads_toJson <|
    .put rfl rfl settings.assertionLifetime.reads_toJson <|
    .put rfl rfl settings.requestTimeout.reads_toJson .nil) rfl

/-- Settings with an address that is refused are refused. -/
theorem refuses_toJson (h : settings.tokenUrl.IsNormal)
    (hlong : settings.tokenUrl.isShort = false) : Json.Refuses reader settings.toJson :=
  .record rfl rfl (h.refuses_toJson hlong)

end ExchangeSettings

end BearerCache
