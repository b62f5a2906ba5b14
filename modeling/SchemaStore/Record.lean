/-!
# Records

A record maps names to values and remembers the order in which the names were
first put.  Putting a value under a known name keeps the place of the name.
-/

namespace SchemaStore

/-- Values by name, in order. -/
abbrev Record (α : Type) := List (String × α)

namespace Record

variable {α β : Type}

/-- The value under a name. -/
def get? (record : Record α) (key : String) : Option α :=
  (record.find? (·.1 == key)).map (·.2)

/-- Whether a name is present. -/
def has (record : Record α) (key : String) : Bool :=
  record.any (·.1 == key)

/-- The names in order. -/
def keys (record : Record α) : List String :=
  record.map (·.1)

def values (record : Record α) : List α :=
  record.map (·.2)

/-- Put a value under a name; a known name keeps its place. -/
def put (record : Record α) (key : String) (value : α) : Record α :=
  if record.has key then
    record.map fun entry => if entry.1 == key then (key, value) else entry
  else
    record ++ [(key, value)]

/-- Remove a name. -/
def erase (record : Record α) (key : String) : Record α :=
  record.filter (·.1 != key)

/-- Put entries one after the other. -/
def putAll (record : Record α) (entries : List (String × α)) : Record α :=
  entries.foldl (fun acc entry => acc.put entry.1 entry.2) record

/-- Apply a function to every value. -/
def mapValues (f : α → β) (record : Record α) : Record β :=
  record.map fun entry => (entry.1, f entry.2)

theorem has_eq_true_iff {record : Record α} {key : String} :
    record.has key = true ↔ key ∈ record.keys := by
  simp [has, keys]

theorem has_eq_isSome_get? (record : Record α) (key : String) :
    record.has key = (record.get? key).isSome := by
  rw [Bool.eq_iff_iff]
  simp [has, get?]

/-- Only a new name is added, and at the end. -/
theorem keys_put (record : Record α) (key : String) (value : α) :
    (record.put key value).keys =
      if record.has key then record.keys else record.keys ++ [key] := by
  unfold put
  split
  · simp only [keys, List.map_map]
    refine List.map_congr_left fun entry _ => ?_
    by_cases same : entry.1 = key <;> simp [same]
  · simp [keys]

private theorem get?_replaced (record : Record α) (key other : String) (value : α) :
    get? (record.map fun entry => if entry.1 == key then (key, value) else entry) other =
      if other = key ∧ record.has key then some value else record.get? other := by
  induction record with
  | nil => simp [get?, has]
  | cons entry rest induction =>
      simp only [get?, has, List.map_cons, List.any_cons, List.find?_cons] at induction ⊢
      by_cases first : entry.1 = key <;> by_cases asked : entry.1 = other <;> grind

/-- What was put is found under its name, and the other names keep their values. -/
theorem get?_put (record : Record α) (key other : String) (value : α) :
    (record.put key value).get? other =
      if other = key then some value else record.get? other := by
  unfold put
  split
  · rename_i known
    rw [get?_replaced]
    simp [known]
  · rename_i absent
    simp only [has, List.any_eq_true, not_exists, not_and] at absent
    simp only [get?, List.find?_append]
    by_cases asked : other = key
    · subst asked
      have missing : List.find? (fun entry => entry.1 == other) record = none :=
        List.find?_eq_none.mpr absent
      simp [missing]
    · simp [asked, Ne.symm asked]

theorem keys_erase (record : Record α) (key : String) :
    (record.erase key).keys = record.keys.filter (· != key) := by
  simp [erase, keys, List.filter_map, Function.comp_def]

@[simp] theorem keys_mapValues (f : α → β) (record : Record α) :
    (record.mapValues f).keys = record.keys := by
  simp [mapValues, keys, Function.comp_def]

end Record
end SchemaStore
