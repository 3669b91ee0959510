import BearerCache.Proofs.Steps
import Mathlib.Data.List.Induction

/-! # The store and the history

Only two events write to the store: a look-up saves a lease, or an invalidation removes one.  So
what is under a key can be read off a history: `held` goes through it and keeps the last write.
`Reaches.fetch?_store` says that the store holds just that.

## Key results

- `Reaches.fetch?_store`: the store is the replay of the writes
- `exists_saved_of_held`: what is held was saved and nothing was written since
- `Reaches.held_or_removed`: the last saved lease is held, or an invalidation took it away
-/

namespace BearerCache.Cache

variable {rules : Rules} {state : State} {history past after : List Event} {event : Event}
  {key : EntryKey} {lease : Lease}

/-- What an event leaves under a key, if it writes there. -/
def Event.write? (key : EntryKey) : Event → Option (Option Lease)
  | saved _ other lease => if other = key then some (some lease) else none
  | removed _ other _ => if other = key then some none else none
  | _ => none

/-- What is under a key after a history. -/
def held (history : List Event) (key : EntryKey) : Option Lease :=
  history.foldl (fun found event => (event.write? key).getD found) none

@[simp] theorem held_append_singleton :
    held (past ++ [event]) key = (event.write? key).getD (held past key) := by
  rw [held, List.foldl_append]
  rfl

/-- Events that do not write under a key leave what is there. -/
theorem held_append_of_unwritten (h : ∀ event ∈ after, event.write? key = none) :
    held (past ++ after) key = held past key := by
  induction after generalizing past with
  | nil => rw [List.append_nil]
  | cons event after ih =>
    rw [List.append_cons, ih fun other hother => h other (List.mem_cons_of_mem _ hother),
      held_append_singleton, h event List.mem_cons_self, Option.getD_none]

/-- An event writes a lease under a key only if it saves it there. -/
theorem Event.write?_eq_some_some_iff :
    event.write? key = some (some lease) ↔ ∃ number, event = .saved number key lease := by
  cases event <;> simp [write?]

/-- An event takes away what is under a key only if it removes it. -/
theorem Event.write?_eq_some_none_iff :
    event.write? key = some none ↔ ∃ number found, event = .removed number key found := by
  cases event <;> simp [write?]

/-- A saved lease is held as long as nothing is written under its key. -/
theorem held_of_saved {number : Nat} (h : ∀ event ∈ after, event.write? key = none) :
    held (past ++ .saved number key lease :: after) key = some lease := by
  rw [List.append_cons, held_append_of_unwritten h, held_append_singleton]
  simp [Event.write?]

/-- What is held was saved, and nothing has been written under its key since. -/
theorem exists_saved_of_held (h : held history key = some lease) :
    ∃ past number after, history = past ++ .saved number key lease :: after ∧
      ∀ event ∈ after, event.write? key = none := by
  -- From the right, as the last write is what counts.
  induction history using List.reverseRecOn with
  | nil => cases h
  | append_singleton history event ih =>
    rw [held_append_singleton] at h
    cases hwrite : event.write? key with
    -- The last event writes nothing there, so the save lies further back.
    | none =>
      rw [hwrite, Option.getD_none] at h
      obtain ⟨past, number, after, rfl, hafter⟩ := ih h
      refine ⟨past, number, after ++ [event], by simp, ?_⟩
      intro other hother
      rcases List.mem_append.mp hother with hold | hnew
      · exact hafter other hold
      · exact List.mem_singleton.mp hnew ▸ hwrite
    | some written =>
      rw [hwrite, Option.getD_some] at h
      obtain ⟨number, rfl⟩ := Event.write?_eq_some_some_iff.mp (h ▸ hwrite)
      exact ⟨history, number, [], rfl, by simp⟩

/-- What is held was held before some events, or one of them saved it. -/
theorem held_or_saved_of_held_append (h : held (past ++ after) key = some lease) :
    held past key = some lease ∨ ∃ number, .saved number key lease ∈ after := by
  obtain ⟨earlier, number, rest, hsplit, hrest⟩ := exists_saved_of_held h
  rcases List.append_eq_append_iff.mp hsplit with ⟨between, rfl, hafter⟩ | ⟨between, rfl, hrests⟩
  · exact .inr ⟨number, by simp [hafter]⟩
  · cases between with
    | nil =>
      rw [List.nil_append] at hrests
      exact .inr ⟨number, hrests ▸ List.mem_cons_self⟩
    | cons event between =>
      -- It was saved before, and nothing has been written since.
      obtain ⟨rfl, rfl⟩ := List.cons.inj hrests
      exact .inl (held_of_saved fun other hother => hrest other (List.mem_append_left _ hother))

/-! ## The store holds what the history says -/

/-- A step of a call writes to the store what its event says. -/
theorem CallStep.fetch?_apply {call : Call} {stage : Stage} {progress : Progress}
    (h : CallStep rules state call stage progress) :
    (state.apply call.key progress.effect).store.fetch? key =
      (progress.event.write? key).getD (state.store.fetch? key) := by
  cases h
  -- Only these two steps write; each touches the key of its own call and no other.
  case save gate lease =>
    simp only [State.apply, Store.fetch?_save, Event.write?]
    by_cases hkey : key = call.key
    · simp [hkey]
    · simp [hkey, Ne.symm hkey]
  case remove =>
    simp only [State.apply, Store.fetch?_remove, Event.write?]
    by_cases hkey : key = call.key
    · simp [hkey]
    · simp [hkey, Ne.symm hkey]
  all_goals simp [State.apply, Event.write?, Progress.quiet, Call.fail]

/-- The store holds under each key what was written there last. -/
theorem Reaches.fetch?_store (h : Reaches rules history state) (key : EntryKey) :
    state.store.fetch? key = held history key := by
  refine h.invariant (motive := fun history state => state.store.fetch? key = held history key)
    ?_ ?_
  · simp [State.initial, Store.fetch?, held]
  · intro past state event state' _ ih hhappens
    rw [held_append_singleton, ← ih]
    cases hhappens with
    -- Only steps of calls write to the store.
    | lookUp request | invalidate request | peek request => rfl
    | goOn hcall hstep => rw [State.store_advance, hstep.fetch?_apply]

/-- The lease that was saved last under a key is held, or an invalidation has removed it. -/
theorem Reaches.held_or_removed {number : Nat}
    (h : Reaches rules (past ++ .saved number key lease :: after) state)
    (hlast : ∀ other later, .saved other key later ∉ after) :
    held (past ++ .saved number key lease :: after) key = some lease ∨
      ∃ remover, .removed remover key (some lease) ∈ after := by
  -- The first write after the save decides.
  cases hfirst : after.find? fun event => (event.write? key).isSome with
  | none =>
    refine .inl (held_of_saved fun event hevent => ?_)
    simpa using List.find?_eq_none.mp hfirst event hevent
  | some event =>
    obtain ⟨hwritten, before, rest, rfl, hbefore⟩ := List.find?_eq_some_iff_append.mp hfirst
    obtain ⟨written, hwrite⟩ := Option.isSome_iff_exists.mp hwritten
    cases written with
    | some later =>
      -- It is not another save.
      obtain ⟨other, rfl⟩ := Event.write?_eq_some_some_iff.mp hwrite
      exact absurd (by simp) (hlast other later)
    | none =>
      -- It is a removal, and what it finds is the saved lease.
      obtain ⟨remover, found, rfl⟩ := Event.write?_eq_some_none_iff.mp hwrite
      rw [← List.cons_append, ← List.append_assoc] at h
      obtain ⟨earlier, _, hearlier, hhappens⟩ := h.split
      obtain ⟨_, _, _, hfound⟩ := hhappens.removed
      rw [hearlier.fetch?_store,
        held_of_saved fun event hevent => by simpa using hbefore event hevent] at hfound
      exact .inr ⟨remover, by simp [hfound]⟩

end BearerCache.Cache
