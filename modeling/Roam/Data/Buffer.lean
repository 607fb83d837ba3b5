import Mathlib.Data.List.Basic

/-!
# Fixed-capacity buffers

A buffer is an array whose length never changes.  A write outside the capacity
leaves the contents alone; whether such a write is attempted is a question for
the program that owns the buffer.
-/

namespace Roam.Data

variable {α : Type}

/-- An array of exactly `capacity` cells. -/
structure Buffer (α : Type) (capacity : Nat) where
  cells : List α
  length_cells : cells.length = capacity

namespace Buffer

variable {capacity : Nat}

instance [DecidableEq α] : DecidableEq (Buffer α capacity) := fun left right =>
  decidable_of_iff (left.cells = right.cells) (by cases left; cases right; simp)

/-- All cells equal. -/
def filled (capacity : Nat) (value : α) : Buffer α capacity :=
  ⟨List.replicate capacity value, List.length_replicate⟩

/-- Read one cell; outside the capacity the value is `default`. -/
def get [Inhabited α] (buffer : Buffer α capacity) (index : Nat) : α :=
  buffer.cells.getD index default

/-- Write one cell. -/
def set (buffer : Buffer α capacity) (index : Nat) (value : α) : Buffer α capacity :=
  ⟨buffer.cells.set index value, by rw [List.length_set, buffer.length_cells]⟩

/-- Copy a source to the front, as far as it fits; later cells keep their contents. -/
def load (buffer : Buffer α capacity) (source : List α) : Buffer α capacity :=
  ⟨source.take capacity ++ buffer.cells.drop source.length, by
    rw [List.length_append, List.length_take, List.length_drop, buffer.length_cells]
    omega⟩

/-- The first `count` cells. -/
def upTo (buffer : Buffer α capacity) (count : Nat) : List α :=
  buffer.cells.take count

@[simp]
theorem upTo_zero (buffer : Buffer α capacity) : buffer.upTo 0 = [] := rfl

theorem get_set_self [Inhabited α] (buffer : Buffer α capacity) (value : α) {index : Nat}
    (inside : index < capacity) : (buffer.set index value).get index = value := by
  have bound : index < buffer.cells.length := by rw [buffer.length_cells]; exact inside
  simp only [get, set, List.getD_eq_getElem?_getD, List.getElem?_set_self bound, Option.getD_some]

theorem get_set_of_ne [Inhabited α] (buffer : Buffer α capacity) (value : α) {index other : Nat}
    (ne : index ≠ other) : (buffer.set index value).get other = buffer.get other := by
  simp only [get, set, List.getD_eq_getElem?_getD, List.getElem?_set_ne ne]

theorem upTo_set (buffer : Buffer α capacity) (value : α) {index : Nat}
    (inside : index < capacity) :
    (buffer.set index value).upTo (index + 1) = buffer.upTo index ++ [value] := by
  have bound : index < buffer.cells.length := by rw [buffer.length_cells]; exact inside
  simp only [upTo, set, List.take_add_one, List.take_set_of_le (Nat.le_refl index),
    List.getElem?_set_self bound, Option.toList_some]

/-- A new first cell does not change the others. -/
theorem upTo_set_zero (buffer : Buffer α capacity) (value : α) (room : 0 < capacity) {count : Nat}
    (positive : 0 < count) :
    (buffer.set 0 value).upTo count = value :: (buffer.upTo count).drop 1 := by
  obtain ⟨cells, length⟩ := buffer
  obtain ⟨rest, rfl⟩ := Nat.exists_eq_succ_of_ne_zero (Nat.pos_iff_ne_zero.1 positive)
  cases cells with
  | nil =>
      subst length
      exact absurd room (Nat.lt_irrefl 0)
  | cons first cells => rfl

/-- What was loaded can be read back, and nothing older is in front of it. -/
theorem upTo_load (buffer : Buffer α capacity) {source : List α}
    (fits : source.length ≤ capacity) :
    (buffer.load source).upTo source.length = source := by
  simp only [upTo, load, List.take_of_length_le fits, List.take_left]

/-- What was loaded can be read back as far as it fits. -/
theorem upTo_load_take (buffer : Buffer α capacity) (source : List α) :
    (buffer.load source).upTo source.length = source.take capacity := by
  rcases Nat.le_total source.length capacity with fits | long
  · rw [buffer.upTo_load fits, List.take_of_length_le fits]
  · have nothing : buffer.cells.drop source.length = [] := by
      apply List.drop_of_length_le
      rw [buffer.length_cells]
      exact long
    simp only [upTo, load, nothing, List.append_nil]
    exact List.take_of_length_le (Nat.le_trans (List.length_take_le _ _) long)

theorem get_load_of_lt [Inhabited α] (buffer : Buffer α capacity) {source : List α}
    (fits : source.length ≤ capacity) {index : Nat} (inside : index < source.length) :
    (buffer.load source).get index = source.getD index default := by
  simp only [get, load, List.take_of_length_le fits, List.getD_eq_getElem?_getD,
    List.getElem?_append_left inside]

theorem get_load_of_le [Inhabited α] (buffer : Buffer α capacity) {source : List α}
    (fits : source.length ≤ capacity) {index : Nat} (outside : source.length ≤ index) :
    (buffer.load source).get index = buffer.get index := by
  simp only [get, load, List.take_of_length_le fits, List.getD_eq_getElem?_getD,
    List.getElem?_append_right outside, List.getElem?_drop, Nat.add_sub_cancel' outside]

/-- Behind a load the first cell is the first one loaded, if there is one. -/
theorem get_load_zero [Inhabited α] (buffer : Buffer α capacity) (source : List α)
    (room : 0 < capacity) :
    (buffer.load source).get 0 = source.head?.getD (buffer.get 0) := by
  cases source with
  | nil => simp [get, load]
  | cons value rest =>
      obtain ⟨more, rfl⟩ := Nat.exists_eq_succ_of_ne_zero (Nat.pos_iff_ne_zero.1 room)
      rfl

end Buffer

end Roam.Data
