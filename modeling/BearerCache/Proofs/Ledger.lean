import BearerCache.Cache.Command
import Mathlib.Data.Finmap

/-! # The ledger

What a cache is to those who use it: a finite map from canonical requests to leases.  A ledger
writes no keys, looks at its map once, and knows neither steps nor gates.  It also notes every
fetch that it makes.

A ledger obeys the same commands as a session.  `Ledger.get` says what a look-up is to do: there
is a fetch, and only one, if nothing is entered for the request or the margin before its expiry
has begun, and else none.  Sums and differences that lead out of the calendar break a look-up
off.

## Key results

- `Ledger.obeyAll_recording`: a source of tokens that keeps a record of its fetches has the
  fetches that are noted
-/

namespace BearerCache

/-- How a look-up ends whose fetch was started at one instant and has ended at another. -/
def LifetimeRule.ending (rule : LifetimeRule) (askedAt now : Instant) : FetchEnd → Cache.Ending
  | .broken => .broken
  | .failed failure => .result (.error failure)
  | .token token =>
    match rule with
    | .fixed ttl =>
      -- The lifetime counts from the asking, not from the answer.
      match askedAt.add? ttl with
      | none => .broken
      | some expiresAt => .result (.ok ⟨token, askedAt, expiresAt⟩)
    | .expiryClaim =>
      -- Whether the token is still live is judged when it has come.
      match Expiry.ofLiveToken token.expose now with
      | .error fault => .result (.error (.expiry fault))
      | .ok expiresAt => .result (.ok ⟨token, askedAt, expiresAt⟩)

/-- A source of tokens that keeps a record of its fetches: for which request, and when. -/
def Fetcher.recording {σ : Type} (fetcher : Fetcher σ) :
    Fetcher (σ × List (TokenRequest × Instant)) where
  canonical := fetcher.canonical
  rule := fetcher.rule
  call request now kept :=
    let (call, source) := fetcher.call request now kept.1
    (call, (source, kept.2 ++ [(request, now)]))

namespace Cache

/-- Leases by the canonical requests that they are for. -/
abbrev Entries := Finmap fun _ : TokenRequest => Lease

/-- The entries after a look-up of a request has fetched. -/
def Entries.after (entries : Entries) (request : TokenRequest) : Ending → Entries
  | .result (.ok lease) => entries.insert request lease
  | .result (.error _) | .broken | .abandoned => entries

/-- A map of leases, with a clock and a source of tokens. -/
structure Ledger (σ : Type) where
  entries : Entries
  now : Instant
  source : σ
  /-- The fetches that were made: for which request, and when. -/
  fetches : List (TokenRequest × Instant)

namespace Ledger

variable {σ : Type}

/-- The ledger in which nothing is entered. -/
def start (source : σ) (now : Instant) : Ledger σ := ⟨∅, now, source, []⟩

/-- Fetches the lease of a canonical request.  Time passes while the fetch is under way. -/
def fetch (ledger : Ledger σ) (fetcher : Fetcher σ) (request : TokenRequest) :
    Reply × Ledger σ :=
  let (call, source) := fetcher.call request ledger.now ledger.source
  -- The fetch is made whatever comes of it.
  let asked := { ledger with
    source := source
    fetches := ledger.fetches ++ [(request, ledger.now)] }
  match ledger.now.add? call.latency with
  -- A clock that would be led out of the calendar stays.
  | none => (.broken, asked)
  | some now =>
    let ending := (fetcher.rule request).ending ledger.now now call.outcome
    (ending.reply, { asked with now := now, entries := ledger.entries.after request ending })

/-- The lease that is entered for a request, or else one that is fetched. -/
def get (ledger : Ledger σ) (fetcher : Fetcher σ) (margin : Span) (request : TokenRequest) :
    Reply × Ledger σ :=
  let request := fetcher.canonical request
  match ledger.entries.lookup request with
  | none => ledger.fetch fetcher request
  | some lease =>
    match lease.expiresAt.sub? margin with
    | none => (.broken, ledger)
    | some limit =>
      if limit ≤ ledger.now then ledger.fetch fetcher request
      else (.ended (.ok lease), ledger)

/-- Does what it is told. -/
def obey (fetcher : Fetcher σ) (margin : Span) (ledger : Ledger σ) :
    Command → Answer × Ledger σ
  | .get request =>
    let (reply, ledger) := ledger.get fetcher margin request
    (.reply reply, ledger)
  | .token request =>
    let (reply, ledger) := ledger.get fetcher margin request
    (.ofReply reply, ledger)
  | .peek request =>
    (.reply (.found (ledger.entries.lookup (fetcher.canonical request))), ledger)
  | .invalidate request =>
    let request := fetcher.canonical request
    (.reply (.found (ledger.entries.lookup request)),
      { ledger with entries := ledger.entries.erase request })
  | .size => (.size ledger.entries.keys.card, ledger)
  | .isEmpty => (.isEmpty (decide (ledger.entries = ∅)), ledger)
  | .setClock now => (.clock now, { ledger with now := now })
  | .advanceClock span =>
    match ledger.now.add? span with
    | none => (.reply .broken, ledger)
    | some now => (.clock now, { ledger with now := now })

/-- Does what it is told, one command after the other. -/
def obeyAll (fetcher : Fetcher σ) (margin : Span) (ledger : Ledger σ) :
    List Command → List Answer × Ledger σ
  | [] => ([], ledger)
  | command :: rest =>
    let (answer, ledger) := ledger.obey fetcher margin command
    let (answers, ledger) := ledger.obeyAll fetcher margin rest
    (answer :: answers, ledger)

/-! ## The cases of a look-up -/

variable {fetcher : Fetcher σ} {margin : Span} {ledger : Ledger σ} {request : TokenRequest}
  {lease : Lease} {limit : Instant}

theorem get_of_absent (habsent : ledger.entries.lookup (fetcher.canonical request) = none) :
    ledger.get fetcher margin request = ledger.fetch fetcher (fetcher.canonical request) := by
  simp only [get, habsent]

theorem get_of_broken (hlease : ledger.entries.lookup (fetcher.canonical request) = some lease)
    (hlimit : lease.expiresAt.sub? margin = none) :
    ledger.get fetcher margin request = (.broken, ledger) := by
  simp only [get, hlease, hlimit]

theorem get_of_stale (hlease : ledger.entries.lookup (fetcher.canonical request) = some lease)
    (hlimit : lease.expiresAt.sub? margin = some limit) (hstale : limit ≤ ledger.now) :
    ledger.get fetcher margin request = ledger.fetch fetcher (fetcher.canonical request) := by
  simp only [get, hlease, hlimit, if_pos hstale]

theorem get_of_fresh (hlease : ledger.entries.lookup (fetcher.canonical request) = some lease)
    (hlimit : lease.expiresAt.sub? margin = some limit) (hfresh : ¬limit ≤ ledger.now) :
    ledger.get fetcher margin request = (.ended (.ok lease), ledger) := by
  simp only [get, hlease, hlimit, if_neg hfresh]

/-! ## The fetches that are noted -/

/-- The ledger of a source of tokens that keeps a record of its fetches. -/
def recorded (ledger : Ledger σ) : Ledger (σ × List (TokenRequest × Instant)) :=
  { ledger with source := (ledger.source, ledger.fetches) }

theorem fetch_recording (request : TokenRequest) :
    ledger.recorded.fetch fetcher.recording request =
      (ledger.fetch fetcher request).map id recorded := by
  simp only [fetch, recorded, Fetcher.recording]
  cases ledger.now.add? (fetcher.call request ledger.now ledger.source).1.latency <;> rfl

theorem get_recording (request : TokenRequest) :
    ledger.recorded.get fetcher.recording margin request =
      (ledger.get fetcher margin request).map id recorded := by
  -- What is entered is the same, so both take the same of the four cases.
  have hentries : ledger.recorded.entries.lookup (fetcher.recording.canonical request) =
      ledger.entries.lookup (fetcher.canonical request) := rfl
  cases hlease : ledger.entries.lookup (fetcher.canonical request) with
  | none =>
    rw [get_of_absent hlease, get_of_absent (hentries.trans hlease)]
    exact fetch_recording _
  | some lease =>
    have hlease' := hentries.trans hlease
    cases hlimit : lease.expiresAt.sub? margin with
    | none =>
      rw [get_of_broken hlease hlimit, get_of_broken hlease' hlimit]
      rfl
    | some limit =>
      by_cases hstale : limit ≤ ledger.now
      · rw [get_of_stale hlease hlimit hstale, get_of_stale hlease' hlimit hstale]
        exact fetch_recording _
      · rw [get_of_fresh hlease hlimit hstale, get_of_fresh hlease' hlimit hstale]
        rfl

theorem obey_recording (command : Command) :
    ledger.recorded.obey fetcher.recording margin command =
      (ledger.obey fetcher margin command).map id recorded := by
  cases command with
  | get request | token request =>
    simp only [obey, get_recording]
    rfl
  | peek request | invalidate request | size | isEmpty | setClock now => rfl
  | advanceClock span =>
    simp only [obey, recorded]
    cases ledger.now.add? span <;> rfl

/-- A source of tokens that keeps a record of its fetches has the fetches that are noted. -/
theorem obeyAll_recording (commands : List Command) :
    ledger.recorded.obeyAll fetcher.recording margin commands =
      (ledger.obeyAll fetcher margin commands).map id recorded := by
  -- On the commands, each of which records what it asks for and nothing else.
  induction commands generalizing ledger with
  | nil => rfl
  | cons command rest ih =>
    simp only [obeyAll, obey_recording, Prod.map_fst, Prod.map_snd, id_eq, ih]
    rfl

end Ledger

end Cache

end BearerCache
