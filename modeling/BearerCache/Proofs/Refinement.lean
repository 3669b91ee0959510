import BearerCache.Proofs.EntryKeys
import BearerCache.Proofs.Sequential

/-! # A session is a ledger

A session that is told what to do answers as a ledger does.  A store keeps leases under the
texts of keys, a ledger under requests; `Entries.KeptIn` ties the two together, and it can
because no two requests have the same key.  `Mirrors` is what holds of a session and a ledger
between two commands.

## Key results

- `Entries.KeptIn.fetch?_key`, `Entries.KeptIn.size`: what is seen of a store
- `Mirrors.obey`: every command is answered alike and leads to a session and a ledger alike
- `Session.refines_ledger`: so are all commands that are given to an empty cache
-/

namespace BearerCache.Cache

variable {σ : Type}

/-! ## Entries and stores -/

/-- A store has the entries, each under the key of its request, and nothing else. -/
def Entries.KeptIn (entries : Entries) (store : Store) : Prop :=
  ∀ name lease, store.get? name = some lease ↔
    ∃ request : TokenRequest, request.key.text = name ∧ entries.lookup request = some lease

namespace Entries.KeptIn

variable {entries : Entries} {store : Store} {request : TokenRequest}

theorem empty : KeptIn ∅ .empty := by
  intro name lease
  simp

/-- The text of a key stands for one request. -/
theorem key_text_eq_iff {a b : TokenRequest} : a.key.text = b.key.text ↔ a = b := by
  constructor
  · intro htext
    have hkey : a.key = b.key := by
      cases ha : a.key
      cases hb : b.key
      rw [ha, hb] at htext
      exact congrArg EntryKey.mk htext
    exact TokenRequest.key_injective hkey
  · rintro rfl
    rfl

/-- Under the key of a request the store has its entry. -/
theorem fetch?_key (h : KeptIn entries store) (request : TokenRequest) :
    store.fetch? request.key = entries.lookup request := by
  ext lease
  rw [Store.fetch?, h]
  constructor
  · rintro ⟨other, htext, hlease⟩
    rwa [← key_text_eq_iff.mp htext]
  · intro hlease
    exact ⟨request, rfl, hlease⟩

/-- A store has as many leases as there are entries. -/
theorem size (h : KeptIn entries store) : store.size = entries.keys.card := by
  -- The names in the store are the texts of the keys of the entries.
  have hnames : store.names.toFinset =
      entries.keys.image fun request => request.key.text := by
    ext name
    simp only [List.mem_toFinset, NameMap.mem_names_iff, Finset.mem_image, Finmap.mem_keys,
      Finmap.mem_iff]
    constructor
    · rintro ⟨lease, hlease⟩
      obtain ⟨request, htext, hlookup⟩ := (h name lease).mp hlease
      exact ⟨request, ⟨lease, hlookup⟩, htext⟩
    · rintro ⟨request, ⟨lease, hlookup⟩, htext⟩
      exact ⟨lease, (h name lease).mpr ⟨request, htext, hlookup⟩⟩
  -- The keys are injective, so there are as many names as requests.
  calc store.size = store.names.length := (List.length_map _).symm
    _ = store.names.toFinset.card := (List.toFinset_card_of_nodup store.nodup_names).symm
    _ = (entries.keys.image fun request => request.key.text).card := by rw [hnames]
    _ = entries.keys.card := Finset.card_image_of_injective _ fun _ _ => key_text_eq_iff.mp

/-- What is written for one request, in the store and in the entries alike, is kept. -/
theorem write {entries' : Entries} {store' : Store} {value : Option Lease}
    (h : KeptIn entries store)
    (hstore : ∀ name, store'.get? name =
      if name = request.key.text then value else store.get? name)
    (hentries : ∀ other, entries'.lookup other =
      if other = request then value else entries.lookup other) :
    KeptIn entries' store' := by
  intro name lease
  rw [hstore]
  -- One name is changed, and it is that of this request alone.
  by_cases hname : name = request.key.text
  · rw [if_pos hname]
    constructor
    · intro hvalue
      exact ⟨request, hname.symm, by rw [hentries, if_pos rfl, hvalue]⟩
    · rintro ⟨other, htext, hlookup⟩
      rwa [hentries, if_pos (key_text_eq_iff.mp (htext.trans hname))] at hlookup
  · -- Under another name there is another request, for which nothing has changed.
    rw [if_neg hname, h]
    refine exists_congr fun other => and_congr_right fun htext => ?_
    have hne : other ≠ request := by
      rintro rfl
      exact hname htext.symm
    rw [hentries, if_neg hne]

/-- A lease is saved under the key of its request. -/
theorem save (h : KeptIn entries store) (request : TokenRequest) (lease : Lease) :
    KeptIn (entries.insert request lease) (store.save request.key lease) := by
  refine h.write (fun name => NameMap.get?_insert ..) fun other => ?_
  by_cases hother : other = request
  · rw [if_pos hother, hother, Finmap.lookup_insert]
  · rw [if_neg hother, Finmap.lookup_insert_of_ne _ hother]

/-- What is under the key of a request is taken away. -/
theorem remove (h : KeptIn entries store) (request : TokenRequest) :
    KeptIn (entries.erase request) (store.remove request.key) := by
  refine h.write (fun name => NameMap.get?_erase ..) fun other => ?_
  by_cases hother : other = request
  · rw [if_pos hother, hother, Finmap.lookup_erase]
  · rw [if_neg hother, Finmap.lookup_erase_ne hother]

/-- What a look-up that has fetched writes is entered. -/
theorem after (h : KeptIn entries store) (request : TokenRequest) (ending : Ending) :
    KeptIn (entries.after request ending) (store.after request.key ending) := by
  cases ending with
  | result outcome =>
    cases outcome with
    | ok lease => exact h.save request lease
    | error failure => exact h
  | broken | abandoned => exact h

end Entries.KeptIn

/-! ## Sessions and ledgers -/

/-- A session in which no call is under way is like a ledger. -/
structure Mirrors (fetcher : Fetcher σ) (margin : Span) (ledger : Ledger σ)
    (session : Session σ) : Prop where
  fetcher_eq : session.fetcher = fetcher
  rules_eq : session.rules = .ofFetcher fetcher margin
  clock_eq : session.clock = .manual ledger.now
  source_eq : session.source = ledger.source
  flights_eq : session.flights = []
  calls_eq : session.state.calls = []
  kept : ledger.entries.KeptIn session.state.store

/-- The scene of a session that is like a ledger and has some store. -/
def Ledger.scene (fetcher : Fetcher σ) (margin : Span) (ledger : Ledger σ) (store : Store) :
    Scene σ where
  fetcher := fetcher
  rules := .ofFetcher fetcher margin
  clock := .manual ledger.now
  source := ledger.source
  flights := []
  store := store
  calls := []

section Replies

variable {fetcher : Fetcher σ} {margin : Span} {ledger : Ledger σ} {session : Session σ}
  {store : Store} {request : TokenRequest}

theorem Mirrors.of_scene (hkept : ledger.entries.KeptIn store)
    (hscene : session.scene = ledger.scene fetcher margin store) :
    Mirrors fetcher margin ledger session where
  fetcher_eq := congrArg Scene.fetcher hscene
  rules_eq := congrArg Scene.rules hscene
  clock_eq := congrArg Scene.clock hscene
  source_eq := congrArg Scene.source hscene
  flights_eq := congrArg Scene.flights hscene
  calls_eq := congrArg Scene.calls hscene
  kept := by
    have hstore : session.state.store = store := congrArg Scene.store hscene
    rwa [hstore]

theorem Mirrors.scene_eq (h : Mirrors fetcher margin ledger session) :
    session.scene = ledger.scene fetcher margin session.state.store := by
  rw [Session.scene, h.fetcher_eq, h.rules_eq, h.clock_eq, h.source_eq, h.flights_eq, h.calls_eq]
  rfl

/-- A session has replied as a ledger has, and is like it. -/
def Agrees (fetcher : Fetcher σ) (margin : Span) (expected : Reply × Ledger σ)
    (replied : Reply × Session σ) : Prop :=
  replied.1 = expected.1 ∧ Mirrors fetcher margin expected.2 replied.2

theorem Agrees.of_seen {expected : Reply × Ledger σ} {replied : Reply × Session σ}
    (hkept : expected.2.entries.KeptIn store)
    (hseen : seen replied = (expected.1, expected.2.scene fetcher margin store)) :
    Agrees fetcher margin expected replied := by
  obtain ⟨hreply, hscene⟩ := Prod.mk.inj hseen
  exact ⟨hreply, .of_scene hkept hscene⟩

/-! ### Look-ups -/

/-- Whether a lease is fresh is seen in its entry. -/
theorem Mirrors.freshLease? (h : Mirrors fetcher margin ledger session) (request : TokenRequest) :
    session.state.store.freshLease? (session.rules.canonical request).key session.rules.margin
        ledger.now =
      match ledger.entries.lookup (fetcher.canonical request) with
      | none => some none
      | some lease =>
        (lease.isFreshAt? ledger.now margin.clamped).map fun isFresh =>
          if isFresh then some lease else none := by
  rw [h.rules_eq, ← h.kept.fetch?_key]
  rfl

/-- A look-up that finds no fresh lease fetches as the ledger does. -/
theorem Mirrors.get_of_miss (h : Mirrors fetcher margin ledger session)
    (hfresh : session.state.store.freshLease? (session.rules.canonical request).key
      session.rules.margin ledger.now = some none) :
    Agrees fetcher margin (ledger.fetch fetcher (fetcher.canonical request))
      (session.get request) := by
  have hcanonical : session.rules.canonical request = fetcher.canonical request := by
    rw [h.rules_eq]
    rfl
  cases hfetch : fetcher.call (fetcher.canonical request) ledger.now ledger.source with
  -- The two calls get the same answer; whether it comes in the calendar is the only case left.
  | mk fetch source =>
    have hfetch' : session.fetcher.call (session.rules.canonical request) ledger.now
        session.source = (fetch, source) := by
      rw [hcanonical, h.fetcher_eq, h.source_eq, hfetch]
    have hseen := Session.seen_get_of_miss h.clock_eq h.calls_eq h.flights_eq hfresh hfetch'
    rw [hcanonical, h.scene_eq] at hseen
    simp only [Ledger.fetch, hfetch]
    cases hlatency : ledger.now.add? fetch.latency with
    | none =>
      simp only [Scene.landed, hlatency] at hseen
      exact .of_seen h.kept hseen
    | some now =>
      simp only [Scene.landed, hlatency] at hseen
      exact .of_seen (h.kept.after (fetcher.canonical request) _) hseen

/-- A look-up has the result that it has in the ledger. -/
theorem Mirrors.get (h : Mirrors fetcher margin ledger session) (request : TokenRequest) :
    Agrees fetcher margin (ledger.get fetcher margin.clamped request) (session.get request) := by
  -- The cases are those of the ledger; in each the session sees the same lease, or none.
  have hfresh := h.freshLease? request
  cases hlease : ledger.entries.lookup (fetcher.canonical request) with
  | none =>
    rw [hlease] at hfresh
    rw [Ledger.get_of_absent hlease]
    exact h.get_of_miss hfresh
  | some lease =>
    rw [hlease] at hfresh
    cases hlimit : lease.expiresAt.sub? margin.clamped with
    | none =>
      simp only [Lease.isFreshAt?, hlimit, Option.map_none] at hfresh
      rw [Ledger.get_of_broken hlease hlimit]
      refine .of_seen h.kept ?_
      rw [Session.seen_get_of_broken h.clock_eq h.calls_eq h.flights_eq hfresh, h.scene_eq]
    | some limit =>
      by_cases hstale : limit ≤ ledger.now
      · have hnot : ¬ledger.now < limit := Int.not_lt.mpr hstale
        simp only [Lease.isFreshAt?, hlimit, Option.map_some, hnot, decide_false] at hfresh
        rw [Ledger.get_of_stale hlease hlimit hstale]
        exact h.get_of_miss hfresh
      · have hlt : ledger.now < limit := Int.not_le.mp hstale
        simp only [Lease.isFreshAt?, hlimit, Option.map_some, hlt, decide_true, if_true] at hfresh
        rw [Ledger.get_of_fresh hlease hlimit hstale]
        refine .of_seen h.kept ?_
        rw [Session.seen_get_of_hit h.clock_eq h.calls_eq h.flights_eq hfresh, h.scene_eq]

/-! ### The other commands -/

/-- What is seen of a request is its entry. -/
theorem Mirrors.peek (h : Mirrors fetcher margin ledger session) (request : TokenRequest) :
    session.peek request = .found (ledger.entries.lookup (fetcher.canonical request)) := by
  have hpeek : session.peek request =
      .found (session.state.store.fetch? (session.rules.canonical request).key) := rfl
  rw [hpeek, h.rules_eq, ← h.kept.fetch?_key]
  rfl

/-- An invalidation takes an entry away. -/
theorem Mirrors.invalidate (h : Mirrors fetcher margin ledger session) (request : TokenRequest) :
    Agrees fetcher margin
      (.found (ledger.entries.lookup (fetcher.canonical request)),
        { ledger with entries := ledger.entries.erase (fetcher.canonical request) })
      (session.invalidate request) := by
  -- The session keeps its records under the ledger's own requests.
  have hcanonical : session.rules.canonical request = fetcher.canonical request := by
    rw [h.rules_eq]
    rfl
  have hseen := Session.seen_invalidate request h.clock_eq h.calls_eq
  rw [hcanonical, h.scene_eq, h.kept.fetch?_key] at hseen
  exact .of_seen (h.kept.remove (fetcher.canonical request)) hseen

/-- Nothing is kept if nothing is entered. -/
theorem Mirrors.isEmpty (h : Mirrors fetcher margin ledger session) :
    (session.size == 0) = decide (ledger.entries = ∅) := by
  rw [Session.size, h.kept.size, Bool.eq_iff_iff, beq_iff_eq, decide_eq_true_iff,
    Finset.card_eq_zero]
  constructor
  · intro hkeys
    -- A ledger without keys is empty.
    refine Finmap.ext_lookup fun request => ?_
    rw [Finmap.lookup_empty, Finmap.lookup_eq_none, ← Finmap.mem_keys, hkeys]
    exact Finset.notMem_empty request
  · rintro hempty
    rw [hempty, Finmap.keys_empty]

/-- The clock is put to an instant. -/
theorem Mirrors.setClock (h : Mirrors fetcher margin ledger session) (now : Instant) :
    Mirrors fetcher margin { ledger with now := now } (session.setClock now) := by
  have hclock : (session.setClock now).clock = .manual now := by
    rw [Session.setClock, h.clock_eq]
    rfl
  exact { h with clock_eq := hclock }

end Replies

/-! ## Commands -/

section Commands

variable {fetcher : Fetcher σ} {margin : Span} {ledger : Ledger σ} {session : Session σ}

/-- Every command is answered as the ledger answers it, and leads to a session like the ledger. -/
theorem Mirrors.obey (h : Mirrors fetcher margin ledger session) (command : Command) :
    (session.obey command).1 = (ledger.obey fetcher margin.clamped command).1 ∧
      Mirrors fetcher margin (ledger.obey fetcher margin.clamped command).2
        (session.obey command).2 := by
  -- Each command is one of the ledger; only `advanceClock` can leave both as they are.
  cases command with
  | get request =>
    obtain ⟨hreply, hmirrors⟩ := h.get request
    exact ⟨congrArg Answer.reply hreply, hmirrors⟩
  | token request =>
    obtain ⟨hreply, hmirrors⟩ := h.get request
    exact ⟨congrArg Answer.ofReply hreply, hmirrors⟩
  | peek request => exact ⟨congrArg Answer.reply (h.peek request), h⟩
  | invalidate request =>
    obtain ⟨hreply, hmirrors⟩ := h.invalidate request
    exact ⟨congrArg Answer.reply hreply, hmirrors⟩
  | size => exact ⟨congrArg Answer.size h.kept.size, h⟩
  | isEmpty => exact ⟨congrArg Answer.isEmpty h.isEmpty, h⟩
  | setClock now => exact ⟨rfl, h.setClock now⟩
  | advanceClock span =>
    cases hnow : ledger.now.add? span with
    | none =>
      have hstays : session.advanceClock? span = none := by
        simp [Session.advanceClock?, Clock.advance?, h.clock_eq, Clock.manual, hnow]
      simp only [Session.obey, Ledger.obey, hstays, hnow]
      exact ⟨trivial, h⟩
    | some now =>
      have hmoves : session.advanceClock? span = some (session.setClock now) := by
        simp [Session.advanceClock?, Session.setClock, Clock.advance?, h.clock_eq, Clock.manual,
          hnow]
      simp only [Session.obey, Ledger.obey, hmoves, hnow]
      exact ⟨rfl, h.setClock now⟩

/-- All commands are answered as the ledger answers them. -/
theorem Mirrors.obeyAll (h : Mirrors fetcher margin ledger session) (commands : List Command) :
    (session.obeyAll commands).1 = (ledger.obeyAll fetcher margin.clamped commands).1 ∧
      Mirrors fetcher margin (ledger.obeyAll fetcher margin.clamped commands).2
        (session.obeyAll commands).2 := by
  induction commands generalizing ledger session with
  | nil => exact ⟨rfl, h⟩
  | cons command rest ih =>
    -- Session and ledger are alike after the first command, and so they are for the rest.
    obtain ⟨hanswer, hmirrors⟩ := h.obey command
    obtain ⟨hanswers, hmirrors'⟩ := ih hmirrors
    simp only [Session.obeyAll, Ledger.obeyAll, hanswer, hanswers, true_and]
    exact hmirrors'

/-- An empty cache is like the ledger in which nothing is entered. -/
theorem Mirrors.start (fetcher : Fetcher σ) (source : σ) (margin : Span) (now : Instant) :
    Mirrors fetcher margin (.start source now) (.start fetcher source margin (.manual now)) :=
  ⟨rfl, rfl, rfl, rfl, rfl, rfl, .empty⟩

/-- Whatever is asked of an empty cache, one call after the other, with the clock moved between
the calls and while fetches are under way: the answers are those of the ledger, the source of
tokens is left as the ledger leaves it, and the fetches that are made are those that the ledger
notes.

This holds of every fetcher, so also of one that keeps a record of its fetches, and there it is
the record that is the same. -/
theorem Session.refines_ledger (fetcher : Fetcher σ) (source : σ) (margin : Span) (now : Instant)
    (commands : List Command) :
    let session := (Session.start fetcher source margin (.manual now)).obeyAll commands
    let recorded :=
      (Session.start fetcher.recording (source, []) margin (.manual now)).obeyAll commands
    let ledger := (Ledger.start source now).obeyAll fetcher margin.clamped commands
    session.1 = ledger.1 ∧ session.2.source = ledger.2.source ∧
      recorded.1 = ledger.1 ∧ recorded.2.source = (ledger.2.source, ledger.2.fetches) := by
  intro session recorded ledger
  obtain ⟨hanswers, hmirrors⟩ :=
    -- The recording fetcher is another fetcher, for which the same holds; what it records are the
    -- requests.
    (Mirrors.start fetcher source margin now).obeyAll commands
  obtain ⟨hanswers', hmirrors'⟩ :=
    (Mirrors.start fetcher.recording (source, []) margin now).obeyAll commands
  have hrecorded : (Ledger.start (source, []) now).obeyAll fetcher.recording margin.clamped
      commands = ledger.map id Ledger.recorded :=
    (Ledger.start source now).obeyAll_recording commands
  refine ⟨hanswers, hmirrors.source_eq, ?_, ?_⟩
  · exact hanswers'.trans (congrArg Prod.fst hrecorded)
  · exact hmirrors'.source_eq.trans (congrArg (fun ended => ended.2.source) hrecorded)

end Commands

end BearerCache.Cache
