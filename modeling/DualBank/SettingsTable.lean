import DualBank.Bytes
import DualBank.Lookup

/-! Settings in memory: a value for some keys, each key in a space. -/

namespace DualBank

structure SettingsTable where
  entries : List ((String × String) × Bytes)
deriving DecidableEq

namespace SettingsTable

def empty : SettingsTable := ⟨[]⟩

def load (table : SettingsTable) (space key : String) : Option Bytes :=
  table.entries.lookup (space, key)

def delete (table : SettingsTable) (space key : String) : SettingsTable :=
  ⟨table.entries.filter (·.1 ≠ (space, key))⟩

def save (table : SettingsTable) (space key : String) (value : Bytes) : SettingsTable :=
  ⟨((space, key), value) :: (table.delete space key).entries⟩

theorem load_delete (table : SettingsTable) (space key otherSpace otherKey : String) :
    (table.delete space key).load otherSpace otherKey =
      if (otherSpace, otherKey) = (space, key) then none else table.load otherSpace otherKey :=
  Lookup.lookup_filter_ne table.entries (space, key) (otherSpace, otherKey)

theorem load_save (table : SettingsTable) (space key otherSpace otherKey : String)
    (value : Bytes) :
    (table.save space key value).load otherSpace otherKey =
      if (otherSpace, otherKey) = (space, key) then some value
      else table.load otherSpace otherKey := by
  have deleted := load_delete table space key otherSpace otherKey
  unfold load at deleted ⊢
  rw [save, Lookup.lookup_cons, deleted]
  by_cases same : (otherSpace, otherKey) = (space, key)
  · rw [if_pos same, if_pos same]
  · rw [if_neg same, if_neg same, if_neg same]

end SettingsTable

end DualBank
