import Mathlib.Algebra.Group.Nat.Defs
import Mathlib.Tactic.Common

/-!
# Unsigned machine words as naturals

Words of width `w` are naturals below `2 ^ w`; sums and differences are reduced
after every operation, exactly as unsigned hardware arithmetic wraps. The two
exactness lemmas are the only route from a wrapped operation to the natural one,
and each names the bound that keeps the operation from wrapping.
-/
namespace Lib.Word

/-- Wrapping addition at width `w`. -/
def add (w a b : Nat) : Nat := (a + b) % 2 ^ w

/-- Wrapping subtraction at width `w`. -/
def sub (w a b : Nat) : Nat := (a + (2 ^ w - b % 2 ^ w)) % 2 ^ w

theorem add_exact {w a b : Nat} (h : a + b < 2 ^ w) : add w a b = a + b :=
  Nat.mod_eq_of_lt h

theorem sub_exact {w a b : Nat} (hb : b ≤ a) (ha : a < 2 ^ w) : sub w a b = a - b := by
  have hmod : b % 2 ^ w = b := Nat.mod_eq_of_lt (Nat.lt_of_le_of_lt hb ha)
  have hsplit : a + (2 ^ w - b) = (a - b) + 2 ^ w := by omega
  rw [sub, hmod, hsplit, Nat.add_mod_right]
  exact Nat.mod_eq_of_lt (by omega)

end Lib.Word
