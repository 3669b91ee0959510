import BearerCache.Proofs.NormalAddress
import BearerCache.Settings.Exchange

/-! # Settings that are accepted

Settings are accepted from a draft or from variables of the environment, which give a draft with the
usual address.  In either way the address is one of HTTP in its written form, with a slash at its end
if it is that of the token generator, and the lifetimes are positive.

A draft may hold any address in its written form.  So are those that have been read, and it does not
matter how an address has come to be: an address of which a part has been replaced is in its written
form too, if the part is.

## Key results

- `GeneratorSettings.Accepted.ready`: what the settings of the token generator are
- `ExchangeSettings.Accepted.isNormal`: what the address of the settings of an exchange is
-/

namespace BearerCache

namespace Settings

/-- An address that is taken is the given one or the usual one, and its scheme is one of HTTP. -/
theorem httpUrl_eq_ok {field usual : String} {url : Option Url} {taken : Url}
    (h : httpUrl field url usual = .ok taken) :
    (url = some taken ∨ Url.parse usual = .ok taken) ∧
      (taken.scheme = "http" ∨ taken.scheme = "https") := by
  cases url with
  | some url =>
    simp only [httpUrl, pure_bind] at h
    split at h
    next hscheme =>
      cases h
      exact ⟨.inl rfl, hscheme.1⟩
    next => cases h
  | none =>
    cases hparse : Url.parse usual with
    | error fault =>
      rw [httpUrl, hparse] at h
      cases h
    | ok url =>
      rw [httpUrl, hparse] at h
      simp only [Except.mapError, bind, Except.bind] at h
      split at h
      next hscheme =>
        cases h
        exact ⟨.inr rfl, hscheme.1⟩
      next => cases h

/-- An address that is taken is in its written form. -/
theorem isNormal_of_httpUrl {field usual : String} {url : Option Url} {taken : Url}
    (hproper : ∀ given, url = some given → given.IsProper)
    (h : httpUrl field url usual = .ok taken) : taken.IsNormal := by
  obtain ⟨hgiven, hscheme⟩ := httpUrl_eq_ok h
  rcases hgiven with hsome | husual
  · exact hproper taken hsome hscheme
  · exact Url.isNormal_of_isRead (.parse husual) hscheme

/-- A span that is taken is the given one, and positive. -/
theorem positive_eq_ok {field : String} {span taken : Span} (h : positive field span = .ok taken) :
    taken = span ∧ 0 < span.nanoseconds := by
  unfold positive at h
  split at h
  next hpositive =>
    cases h
    exact ⟨rfl, of_decide_eq_true hpositive⟩
  next => cases h

end Settings

/-! ## The token generator -/

namespace GeneratorSettings

/-- Settings that are accepted: from a draft with a proper address, if it has one, or from
variables. -/
inductive Accepted : GeneratorSettings → Prop where
  | build {draft : GeneratorDraft} {settings : GeneratorSettings}
      (hproper : ∀ url, draft.baseUrl = some url → url.IsProper)
      (h : draft.build = .ok settings) : Accepted settings
  | ofVariables {lookup : String → Option String} {settings : GeneratorSettings}
      (h : ofVariables lookup = .ok settings) : Accepted settings

/-- What the token generator needs of its settings: a base address that is reached by HTTP, with
a slash at its end, and a positive lifetime. -/
structure Ready (settings : GeneratorSettings) : Prop where
  isNormal : settings.baseUrl.IsNormal
  directory : ∃ list, settings.baseUrl.path = .segments (list ++ [""])
  defaultTtl : 0 < settings.defaultTtl.nanoseconds

variable {settings : GeneratorSettings}

/-- A draft with an address that has been read is accepted if settings are built of it. -/
theorem Accepted.of_isRead {draft : GeneratorDraft} {url : Url} (hbase : draft.baseUrl = some url)
    (hread : url.IsRead) (h : draft.build = .ok settings) : settings.Accepted := by
  refine .build (fun given hgiven => ?_) h
  obtain rfl := Option.some.inj (hbase.symm.trans hgiven)
  exact hread.isProper

/-- Settings that are built of a draft have all that the token generator needs. -/
theorem ready_of_build {draft : GeneratorDraft}
    (hproper : ∀ url, draft.baseUrl = some url → url.IsProper)
    (h : draft.build = .ok settings) : settings.Ready := by
  simp only [GeneratorDraft.build, bind, Except.bind, pure, Except.pure] at h
  split at h
  next => cases h
  next url hurl =>
  split at h
  next => cases h
  next ttl httl =>
  split at h
  next => cases h
  next =>
    -- All three checks have been passed, and only the slash at the end has still to be looked at.
    cases h
    obtain ⟨rfl, hpositive⟩ := Settings.positive_eq_ok httl
    have hurlNormal := Settings.isNormal_of_httpUrl hproper hurl
    obtain ⟨list, hpath, -⟩ := hurlNormal.path
    exact ⟨hurlNormal.asDirectory, Url.exists_path_asDirectory hpath, hpositive⟩

/-- Settings that are accepted have all that the token generator needs. -/
theorem Accepted.ready (h : settings.Accepted) : settings.Ready := by
  cases h with
  | build hproper h => exact ready_of_build hproper h
  | ofVariables h =>
    -- Variables give a draft without an address, so it is the usual one that is taken.
    simp only [GeneratorSettings.ofVariables, bind, Except.bind] at h
    split at h
    next => cases h
    split at h
    next => cases h
    next => exact ready_of_build (by rintro url ⟨⟩) h

end GeneratorSettings

/-! ## The grant exchange -/

namespace ExchangeSettings

/-- Settings that are accepted: from a draft with a proper address, if it has one, or from
variables. -/
inductive Accepted : ExchangeSettings → Prop where
  | build {draft : ExchangeDraft} {settings : ExchangeSettings}
      (hproper : ∀ url, draft.tokenUrl = some url → url.IsProper)
      (h : draft.build = .ok settings) : Accepted settings
  | ofVariables {lookup : String → Option String} {settings : ExchangeSettings}
      (h : ofVariables lookup = .ok settings) : Accepted settings

variable {settings : ExchangeSettings}

/-- The address of settings that are built of a draft is in its written form. -/
theorem isNormal_of_build {draft : ExchangeDraft}
    (hproper : ∀ url, draft.tokenUrl = some url → url.IsProper)
    (h : draft.build = .ok settings) : settings.tokenUrl.IsNormal := by
  simp only [ExchangeDraft.build, bind, Except.bind, pure, Except.pure] at h
  split at h
  next => cases h
  split at h
  next => cases h
  next url hurl =>
  split at h
  next => cases h
  split at h
  next => cases h
  next =>
    -- The audience, the address and both times have passed their checks.
    cases h
    exact Settings.isNormal_of_httpUrl hproper hurl

/-- The address of settings that are accepted is in its written form. -/
theorem Accepted.isNormal (h : settings.Accepted) : settings.tokenUrl.IsNormal := by
  cases h with
  | build hproper h => exact isNormal_of_build hproper h
  | ofVariables h =>
    simp only [ExchangeSettings.ofVariables, bind, Except.bind] at h
    iterate 5
      split at h
      next => cases h
    exact isNormal_of_build (by rintro url ⟨⟩) h

end ExchangeSettings

end BearerCache
