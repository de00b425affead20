import EventAtlas.NameSet

/-!
# Rosters

A roster lists values under distinct keys, in the order in which the keys were first entered.
Entering a key again replaces its value and keeps its place.
-/

namespace EventAtlas

/-- Values under distinct keys, in the order of entry. -/
structure Roster (κ α : Type) where
  entries : List (κ × α)
  distinct : (entries.map Prod.fst).Nodup

namespace Roster

variable {κ α : Type}

/-- The roster without entries. -/
def empty : Roster κ α where
  entries := []
  distinct := List.nodup_nil

instance : Inhabited (Roster κ α) := ⟨empty⟩

/-- The keys in order of entry. -/
def keys (roster : Roster κ α) : List κ :=
  roster.entries.map Prod.fst

/-- The values in order of entry. -/
def values (roster : Roster κ α) : List α :=
  roster.entries.map Prod.snd

/-- The number of entries. -/
def size (roster : Roster κ α) : Nat :=
  roster.entries.length

/-- The entries whose keys satisfy a condition. -/
def filterKeys (keep : κ → Bool) (roster : Roster κ α) : Roster κ α where
  entries := roster.entries.filter fun entry => keep entry.1
  distinct := by
    have part : ((roster.entries.filter fun entry => keep entry.1).map Prod.fst).Sublist
        (roster.entries.map Prod.fst) := List.filter_sublist.map Prod.fst
    exact part.nodup roster.distinct

variable [DecidableEq κ]

/-- The value under a key. -/
def get? (roster : Roster κ α) (key : κ) : Option α :=
  roster.entries.lookup key

/-- Replaces the value under a key and leaves the other entries alone. -/
def replaceIn (key : κ) (value : α) (entries : List (κ × α)) : List (κ × α) :=
  entries.map fun entry => if entry.1 = key then (key, value) else entry

/-- Replacing a value changes no key. -/
@[simp] theorem map_fst_replaceIn (key : κ) (value : α) (entries : List (κ × α)) :
    (replaceIn key value entries).map Prod.fst = entries.map Prod.fst := by
  unfold replaceIn
  rw [List.map_map]
  apply List.map_congr_left
  intro entry _
  by_cases same : entry.1 = key <;> simp [same]

/-- Enters a value under a key. -/
def put (roster : Roster κ α) (key : κ) (value : α) : Roster κ α :=
  if present : key ∈ roster.keys then
    { entries := replaceIn key value roster.entries
      distinct := by rw [map_fst_replaceIn]; exact roster.distinct }
  else
    { entries := roster.entries ++ [(key, value)]
      distinct := by
        rw [List.map_append, List.nodup_append]
        refine ⟨roster.distinct, by simp, ?_⟩
        intro a ha b hb
        simp only [List.map_cons, List.map_nil, List.mem_singleton] at hb
        subst hb
        exact fun same => present (same ▸ ha) }

/-- Enters a list of values under their keys, one after the other. -/
def ofList (entries : List (κ × α)) : Roster κ α :=
  entries.foldl (fun roster entry => roster.put entry.1 entry.2) empty

/-- The keys after entering: a new key comes last, a known one stays where it is. -/
theorem keys_put (roster : Roster κ α) (key : κ) (value : α) :
    (roster.put key value).keys =
      if key ∈ roster.keys then roster.keys else roster.keys ++ [key] := by
  unfold put
  split <;> simp [keys]

/-- The entries of a roster of names, in increasing order of the names. -/
def sorted (roster : Roster String α) : List (String × α) :=
  roster.entries.mergeSort fun left right => decide (left.1 ≤ right.1)

end Roster

end EventAtlas
