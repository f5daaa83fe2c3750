/-!
# Tables

A table maps keys to values and remembers the order in which the keys were
added.  Setting a key that is present replaces its value and keeps its rank.
-/

namespace CheckedScript

/-- Keys with their values, in the order of insertion; every key occurs once. -/
abbrev Table (κ α : Type) := List (κ × α)

namespace Table

variable {κ α : Type} [DecidableEq κ]

/-- The value of a key. -/
def get? : Table κ α → κ → Option α
  | [], _ => none
  | (key, value) :: table, wanted =>
      if key = wanted then some value else get? table wanted

/-- Give a key a value. -/
def set : Table κ α → κ → α → Table κ α
  | [], wanted, value => [(wanted, value)]
  | (key, old) :: table, wanted, value =>
      if key = wanted then (key, value) :: table
      else (key, old) :: set table wanted value

@[simp]
theorem get?_set (table : Table κ α) (key wanted : κ) (value : α) :
    (table.set key value).get? wanted =
      if key = wanted then some value else table.get? wanted := by
  induction table with
  | nil => simp [set, get?]
  | cons entry table inductionHypothesis =>
      obtain ⟨present, old⟩ := entry
      by_cases same : present = key
      · subst same
        by_cases found : present = wanted <;> simp [set, get?, found]
      · by_cases found : present = wanted
        · subst found
          simp [set, get?, same, Ne.symm same]
        · simp [set, get?, same, found, inductionHypothesis]

end Table

end CheckedScript
