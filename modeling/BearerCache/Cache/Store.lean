import BearerCache.Lease.Basic
import BearerCache.NameMap
import BearerCache.Request.Key

/-! # Stores

The leases that are kept, each under its key.  A store keeps one lease per key and does not
ask whether it is fresh. -/

namespace BearerCache

/-- Leases under the texts of their keys. -/
abbrev Store := NameMap Lease

namespace Store

/-- The lease under a key. -/
def fetch? (store : Store) (key : EntryKey) : Option Lease :=
  store.get? key.text

/-- Puts a lease under a key, in place of the one that was there. -/
def save (store : Store) (key : EntryKey) (lease : Lease) : Store :=
  store.insert key.text lease

/-- Takes the lease under a key away. -/
def remove (store : Store) (key : EntryKey) : Store :=
  store.erase key.text

theorem fetch?_save (store : Store) (key other : EntryKey) (lease : Lease) :
    (store.save key lease).fetch? other = if other = key then some lease else store.fetch? other := by
  cases key
  cases other
  simp [fetch?, save, NameMap.get?_insert]

theorem fetch?_remove (store : Store) (key other : EntryKey) :
    (store.remove key).fetch? other = if other = key then none else store.fetch? other := by
  cases key
  cases other
  simp [fetch?, remove, NameMap.get?_erase]

/-- A store as it is shown in the description of a value. -/
def describe (store : Store) : String :=
  let entry (e : String × Lease) : String :=
    (EntryKey.mk e.1).describe ++ ": " ++ e.2.describe
  Text.wrapped "MemoryStore"
    (Text.described "RwLock"
      [("data", "\x7b" ++ ", ".intercalate (store.entries.map entry) ++ "\x7d")])

end Store

end BearerCache
