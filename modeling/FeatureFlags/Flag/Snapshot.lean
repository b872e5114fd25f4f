import FeatureFlags.Flag.Definition

/-!
# `FeatureFlags.Flag.Snapshot` — the set of active flags that readers see

A snapshot holds the active flags of a listing in order, and an index of them by key.  Of several
active flags with one key, the first is indexed.
-/

namespace FeatureFlags

/-- The active flags of a listing, with an index by key. -/
structure Snapshot where
  flags : List Flag := []
  index : List (String × Flag) := []

namespace Snapshot

/-- The snapshot before anything was loaded. -/
def empty : Snapshot := {}

/-- Adds a flag to an index, unless its key is taken. -/
def indexFlag (index : List (String × Flag)) (flag : Flag) : List (String × Flag) :=
  if (index.lookup flag.key).isSome then index else index ++ [(flag.key, flag)]

/-- The snapshot of a listing. -/
def ofFlags (flags : List Flag) : Snapshot :=
  let active := flags.filter (·.active)
  ⟨active, active.foldl indexFlag []⟩

/-- The flag with the given key. -/
def get? (s : Snapshot) (key : String) : Option Flag := s.index.lookup key

/-- The number of flags. -/
def size (s : Snapshot) : Nat := s.flags.length

/-- The keys of the flags, in order. -/
def keys (s : Snapshot) : List String := s.flags.map (·.key)

end Snapshot

end FeatureFlags
