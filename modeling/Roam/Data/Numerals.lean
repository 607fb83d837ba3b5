import Mathlib.Data.Nat.Digits.Defs

/-!
# Numerals

A number is printed as its digits in some base, the highest digit first, and read back
digit by digit.  How digits are written is left open; what matters is that the digits
below the base can be told from each other.
-/

namespace Roam.Data

variable {Symbol : Type}

/-- How digits are written and read. -/
structure Numerals (Symbol : Type) where
  base : Nat
  least : 2 ≤ base
  symbol : Nat → Symbol
  value : Symbol → Option Nat
  value_symbol : ∀ digit < base, value (symbol digit) = some digit

namespace Numerals

variable (numerals : Numerals Symbol)

/-- The digits of a number; zero has one. -/
def print (number : Nat) : List Symbol :=
  if number = 0 then [numerals.symbol 0]
  else ((Nat.digits numerals.base number).reverse).map numerals.symbol

/-- Read on behind the digits of the number so far. -/
def readOn (number : Nat) : List Symbol → Option Nat
  | [] => some number
  | symbol :: rest =>
      (numerals.value symbol).bind fun digit => readOn (number * numerals.base + digit) rest

/-- A text without digits is no number. -/
def read : List Symbol → Option Nat
  | [] => none
  | symbols => numerals.readOn 0 symbols

theorem readOn_map (number : Nat) (digits : List Nat) (small : ∀ digit ∈ digits, digit < numerals.base) :
    numerals.readOn number (digits.map numerals.symbol) =
      some (digits.foldl (fun number digit => number * numerals.base + digit) number) := by
  induction digits generalizing number with
  | nil => rfl
  | cons digit rest ih =>
      obtain ⟨first, later⟩ := List.forall_mem_cons.1 small
      rw [List.map_cons, readOn, numerals.value_symbol digit first]
      exact ih _ later

theorem print_ne_nil (number : Nat) : numerals.print number ≠ [] := by
  unfold print
  split
  · exact List.cons_ne_nil _ _
  · rename_i positive
    intro nothing
    rw [List.map_eq_nil_iff, List.reverse_eq_nil_iff] at nothing
    exact positive (Nat.digits_eq_nil_iff_eq_zero.1 nothing)

theorem read_of_ne_nil {symbols : List Symbol} (nonempty : symbols ≠ []) :
    numerals.read symbols = numerals.readOn 0 symbols := by
  cases symbols with
  | nil => exact absurd rfl nonempty
  | cons => rfl

/-- What was printed is read back. -/
theorem read_print (number : Nat) : numerals.read (numerals.print number) = some number := by
  rw [read_of_ne_nil _ (numerals.print_ne_nil number)]
  have least := numerals.least
  unfold print
  split
  · rename_i zero
    show (numerals.value (numerals.symbol 0)).bind _ = _
    rw [numerals.value_symbol 0 (by omega), zero, Option.bind_some, Nat.zero_mul]
    rfl
  · have small : ∀ digit ∈ (Nat.digits numerals.base number).reverse, digit < numerals.base :=
      fun digit member => Nat.digits_lt_base least (List.mem_reverse.1 member)
    rw [readOn_map _ _ _ small, List.foldl_reverse]
    have value := Nat.ofDigits_digits numerals.base number
    rw [Nat.ofDigits_eq_foldr] at value
    refine congrArg some (Eq.trans ?_ value)
    simp only [Nat.cast_id, Nat.mul_comm, Nat.add_comm]

end Numerals

end Roam.Data
