/-!
Dictionaries: values under text keys, in the order of the keys.
-/

namespace GraphSearch

/-- Entries sorted by key, each key once. -/
abbrev Dictionary (α : Type) := List (String × α)

namespace Dictionary

/-- Puts a value under a key, in the place of the value that was there. -/
def insert {α : Type} (key : String) (value : α) : Dictionary α → Dictionary α
  | [] => [(key, value)]
  | (k, v) :: rest =>
    if key < k then (key, value) :: (k, v) :: rest
    else if key = k then (key, value) :: rest
    else (k, v) :: insert key value rest

/-- The dictionary of the entries, the last of those with equal keys. -/
def ofEntries {α : Type} (entries : List (String × α)) : Dictionary α :=
  entries.foldl (fun d entry => d.insert entry.1 entry.2) []

def get? {α : Type} (d : Dictionary α) (key : String) : Option α :=
  d.lookup key

@[simp] theorem get?_nil {α : Type} (key : String) : get? ([] : Dictionary α) key = none :=
  rfl

theorem get?_cons {α : Type} (k key : String) (v : α) (d : Dictionary α) :
    get? ((k, v) :: d) key = if key = k then some v else get? d key := by
  rw [get?, List.lookup_cons]
  by_cases h : key = k
  · simp [h]
  · simp [get?, h, beq_eq_false_iff_ne.mpr h]

/-- An insertion changes what is under its key and nothing else. -/
theorem get?_insert {α : Type} (key other : String) (value : α) (d : Dictionary α) :
    get? (d.insert key value) other = if other = key then some value else get? d other := by
  induction d with
  | nil => simp [insert, get?_cons]
  | cons entry rest ih =>
    obtain ⟨k, v⟩ := entry
    rw [insert]
    split
    · simp [get?_cons]
    · split
      · subst_vars
        simp only [get?_cons]
        split <;> simp_all
      · rename_i h
        simp only [get?_cons, ih]
        by_cases hk : other = k
        · subst hk
          simp [Ne.symm h]
        · simp [hk]

end Dictionary

end GraphSearch
