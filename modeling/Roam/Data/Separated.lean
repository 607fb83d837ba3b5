import Mathlib.Data.List.Basic

/-!
# Fields between separators

Fields are written one after the other with a separator in between, and are read back
by splitting at it.  The number of fields that are read counts the separators, and so
it gives away every field that holds one.
-/

namespace Roam.Data

variable {Symbol : Type} [DecidableEq Symbol] (separator : Symbol)

theorem length_splitOn (symbols : List Symbol) :
    (symbols.splitOn separator).length = symbols.count separator + 1 := by
  induction symbols with
  | nil => rfl
  | cons symbol rest ih =>
      rw [List.splitOn_cons_eq_if_modifyHead, List.count_cons]
      split
      · rw [List.length_cons, ih]
      · rw [List.length_modifyHead, ih, Nat.add_zero]

/-- The separators in a text are those in between and those that stand in a field. -/
theorem count_intercalate (first : List Symbol) (rest : List (List Symbol)) :
    ([separator].intercalate (first :: rest)).count separator =
      rest.length + (first :: rest).flatten.count separator := by
  induction rest generalizing first with
  | nil => simp
  | cons second rest ih =>
      rw [List.intercalate_cons_cons, List.count_append, List.count_append, ih,
        List.count_singleton_self, List.length_cons]
      simp only [List.flatten_cons, List.count_append]
      omega

omit [DecidableEq Symbol] in
/-- Everything else that is written stands in a field. -/
theorem mem_intercalate_iff {symbol : Symbol} (other : symbol ≠ separator)
    (fields : List (List Symbol)) :
    symbol ∈ [separator].intercalate fields ↔ ∃ field ∈ fields, symbol ∈ field := by
  induction fields with
  | nil => simp
  | cons first rest ih =>
      cases rest with
      | nil => simp
      | cons second rest =>
          rw [List.intercalate_cons_cons, List.mem_append, List.mem_append, ih, List.mem_singleton,
            or_iff_left other]
          exact (List.exists_mem_cons_iff _ first (second :: rest)).symm

/-- As many fields are read as were written exactly if no field holds a separator. -/
theorem length_splitOn_intercalate_iff {fields : List (List Symbol)} (some : fields ≠ []) :
    (([separator].intercalate fields).splitOn separator).length = fields.length ↔
      ∀ field ∈ fields, separator ∉ field := by
  constructor
  · intro same field member
    obtain ⟨first, rest, rfl⟩ := List.exists_cons_of_ne_nil some
    rw [length_splitOn, count_intercalate, List.length_cons] at same
    have none : (first :: rest).flatten.count separator = 0 := by omega
    intro inside
    exact List.count_eq_zero.1 none (List.mem_flatten.2 ⟨field, member, inside⟩)
  · intro clean
    rw [List.splitOn_intercalate separator clean some]

end Roam.Data
