namespace SqlGateway

/-!
Tables that keep the order in which their keys were first put.  Putting a value
under a key that is there keeps the key's place; a key that was taken out goes to
the end when it is put again.
-/

/-- Keys with values, in the order in which the keys were first put. -/
structure Dictionary (α β : Type) where
  entries : List (α × β)
deriving Repr

namespace Dictionary

variable {α β : Type} [DecidableEq α]

def empty : Dictionary α β := ⟨[]⟩

instance : Inhabited (Dictionary α β) := ⟨empty⟩

def get? (table : Dictionary α β) (key : α) : Option β := table.entries.lookup key

def has (table : Dictionary α β) (key : α) : Bool := (table.get? key).isSome

def keys (table : Dictionary α β) : List α := table.entries.map Prod.fst

def size (table : Dictionary α β) : Nat := table.entries.length

/-- Entries with the value under the key replaced, or the pair put at the end. -/
def putEntry (key : α) (value : β) : List (α × β) → List (α × β)
  | [] => [(key, value)]
  | (first, old) :: rest =>
    if key == first then (first, value) :: rest else (first, old) :: putEntry key value rest

def put (table : Dictionary α β) (key : α) (value : β) : Dictionary α β :=
  ⟨putEntry key value table.entries⟩

def erase (table : Dictionary α β) (key : α) : Dictionary α β :=
  ⟨table.entries.filter fun entry => !(key == entry.1)⟩

/-- The table made by putting pairs one after the other. -/
def ofList (pairs : List (α × β)) : Dictionary α β :=
  pairs.foldl (fun table pair => table.put pair.1 pair.2) empty

theorem lookup_putEntry (key other : α) (value : β) (entries : List (α × β)) :
    (putEntry key value entries).lookup other =
      if other = key then some value else entries.lookup other := by
  induction entries with
  | nil =>
    by_cases same : other = key <;> simp [putEntry, same, List.lookup_cons]
    simp [beq_false_of_ne same]
  | cons entry rest ih =>
    obtain ⟨first, old⟩ := entry
    by_cases found : key = first
    · subst found
      by_cases same : other = key
      · simp [putEntry, same]
      · simp [putEntry, same, List.lookup_cons, beq_false_of_ne same]
    · by_cases same : other = first
      · subst same
        have apart : ¬ other = key := fun equal => found equal.symm
        simp [putEntry, found, apart]
      · simp [putEntry, found, List.lookup_cons, beq_false_of_ne same, ih]

/-- What is put under a key is found there, and nothing else changes. -/
theorem get?_put (table : Dictionary α β) (key other : α) (value : β) :
    (table.put key value).get? other = if other = key then some value else table.get? other :=
  lookup_putEntry key other value table.entries

theorem lookup_erase (key other : α) (entries : List (α × β)) :
    (entries.filter fun entry => !(key == entry.1)).lookup other =
      if other = key then none else entries.lookup other := by
  induction entries with
  | nil => simp
  | cons entry rest ih =>
    obtain ⟨first, old⟩ := entry
    by_cases found : key = first
    · subst found
      by_cases same : other = key
      · simp [same]
      · simpa [same, List.lookup_cons, beq_false_of_ne same] using ih
    · by_cases same : other = first
      · subst same
        have apart : ¬ other = key := fun equal => found equal.symm
        simp [found, apart]
      · simp [found, List.lookup_cons, beq_false_of_ne same, ih]

/-- A key that was taken out is not found, and nothing else changes. -/
theorem get?_erase (table : Dictionary α β) (key other : α) :
    (table.erase key).get? other = if other = key then none else table.get? other :=
  lookup_erase key other table.entries

theorem map_putEntry (key : α) (value : β) (entries : List (α × β)) :
    (putEntry key value entries).map Prod.fst =
      if key ∈ entries.map Prod.fst then entries.map Prod.fst
      else entries.map Prod.fst ++ [key] := by
  induction entries with
  | nil => rfl
  | cons entry rest inductionHypothesis =>
      obtain ⟨first, old⟩ := entry
      by_cases same : key = first
      · simp [putEntry, same]
      · simp only [putEntry, beq_false_of_ne same, Bool.false_eq_true, if_false, List.map_cons,
          inductionHypothesis, List.mem_cons, same, false_or]
        split <;> rfl

/-- A key keeps its place; a new one goes to the end. -/
theorem keys_put (table : Dictionary α β) (key : α) (value : β) :
    (table.put key value).keys =
      if key ∈ table.keys then table.keys else table.keys ++ [key] :=
  map_putEntry key value table.entries

theorem get?_of_not_mem_keys {table : Dictionary α β} {key : α} (absent : key ∉ table.keys) :
    table.get? key = none := by
  cases found : table.get? key with
  | none => rfl
  | some value =>
      have lookup : table.entries.lookup key = some value := found
      obtain ⟨before, after, split, -⟩ := List.lookup_eq_some_iff.mp lookup
      have member : (key, value) ∈ table.entries := split ▸ by simp
      exact absurd (List.mem_map_of_mem member) absent

end Dictionary
end SqlGateway
