import Mathlib.Algebra.Group.Nat.Defs
import Mathlib.Data.List.Basic
import Mathlib.Order.Monotone.Basic
import Mathlib.Tactic.Common

/-!
# Numbers written in a positional system

Digits are written without leading zeros, so different numbers look different and a larger
number is never shorter. Two numbers written next to each other, with nothing between them,
can then still be told apart from any two that are both at least as large.
-/
namespace Lib

variable {α : Type*}

/-- A way to write numbers down. -/
structure Numeral (write : Nat → List α) : Prop where
  injective : Function.Injective write
  length_mono : Monotone fun n => (write n).length

/-- Nothing between two numbers is needed when both of them only grow. -/
theorem Numeral.append_inj {write : Nat → List α} (h : Numeral write) {m m' n n' : Nat}
    (hm : m ≤ m') (hn : n ≤ n') (heq : write m ++ write n = write m' ++ write n') :
    m = m' ∧ n = n' := by
  have hlen := congrArg List.length heq
  rw [List.length_append, List.length_append] at hlen
  have hfirst : (write m).length ≤ (write m').length := h.length_mono hm
  have hsecond : (write n).length ≤ (write n').length := h.length_mono hn
  obtain ⟨hmm, hnn⟩ := List.append_inj heq (by omega)
  exact ⟨h.injective hmm, h.injective hnn⟩

/-- The defining equation of writing in base `b`: the last digit comes after the rest. -/
def Positional (b : Nat) (digit : Nat → α) (write : Nat → List α) : Prop :=
  ∀ n, write n = if n < b then [digit n] else write (n / b) ++ [digit (n % b)]

namespace Positional

variable {b : Nat} {digit : Nat → α} {write : Nat → List α}

theorem of_lt (h : Positional b digit write) {n : Nat} (hn : n < b) : write n = [digit n] := by
  rw [h n, if_pos hn]

theorem of_ge (h : Positional b digit write) {n : Nat} (hn : b ≤ n) :
    write n = write (n / b) ++ [digit (n % b)] := by
  rw [h n, if_neg (by omega)]

theorem length_of_lt (h : Positional b digit write) {n : Nat} (hn : n < b) :
    (write n).length = 1 := by
  rw [h.of_lt hn, List.length_singleton]

theorem length_of_ge (h : Positional b digit write) {n : Nat} (hn : b ≤ n) :
    (write n).length = (write (n / b)).length + 1 := by
  rw [h.of_ge hn, List.length_append, List.length_singleton]

theorem length_pos (h : Positional b digit write) (n : Nat) : 0 < (write n).length := by
  rcases Nat.lt_or_ge n b with hn | hn
  · rw [h.length_of_lt hn]
    exact Nat.one_pos
  · rw [h.length_of_ge hn]
    exact Nat.succ_pos _

/-- A number below a power of the base has at most as many digits as the exponent says. -/
theorem length_le (h : Positional b digit write) {k : Nat} :
    ∀ {n : Nat}, 0 < k → n < b ^ k → (write n).length ≤ k := by
  induction k with
  | zero => exact fun hk => absurd hk (Nat.lt_irrefl 0)
  | succ k ih =>
    intro n _ hn
    rcases Nat.lt_or_ge n b with hsmall | hlarge
    · rw [h.length_of_lt hsmall]
      exact Nat.le_add_left 1 k
    · have hk : 0 < k := by
        rcases Nat.eq_zero_or_pos k with rfl | hk
        · rw [Nat.zero_add, Nat.pow_one] at hn
          omega
        · exact hk
      have hrest : n / b < b ^ k := Nat.div_lt_of_lt_mul (by rwa [Nat.mul_comm, ← Nat.pow_succ])
      have hlen := ih hk hrest
      rw [h.length_of_ge hlarge]
      exact Nat.succ_le_succ hlen

theorem length_mono (h : Positional b digit write) (hb : 1 < b) :
    Monotone fun n => (write n).length := by
  intro m
  induction m using Nat.strong_induction_on with
  | _ m ih =>
    intro n hmn
    show (write m).length ≤ (write n).length
    rcases Nat.lt_or_ge m b with hm | hm
    · rw [h.length_of_lt hm]
      exact h.length_pos n
    · have hrest : (write (m / b)).length ≤ (write (n / b)).length :=
        ih (m / b) (Nat.div_lt_self (by omega) hb) (Nat.div_le_div_right hmn)
      rw [h.length_of_ge hm, h.length_of_ge (hm.trans hmn)]
      exact Nat.succ_le_succ hrest

theorem injective (h : Positional b digit write) (hb : 1 < b)
    (hdigit : ∀ i < b, ∀ j < b, digit i = digit j → i = j) : Function.Injective write := by
  intro m
  induction m using Nat.strong_induction_on with
  | _ m ih =>
    intro n heq
    rcases Nat.lt_or_ge m b with hm | hm <;> rcases Nat.lt_or_ge n b with hn | hn
    · rw [h.of_lt hm, h.of_lt hn] at heq
      exact hdigit m hm n hn (List.singleton_inj.mp heq)
    · -- one digit against at least two
      have hlen := congrArg List.length heq
      rw [h.length_of_lt hm, h.length_of_ge hn] at hlen
      have hpos := h.length_pos (n / b)
      omega
    · have hlen := congrArg List.length heq
      rw [h.length_of_ge hm, h.length_of_lt hn] at hlen
      have hpos := h.length_pos (m / b)
      omega
    · rw [h.of_ge hm, h.of_ge hn] at heq
      obtain ⟨hrest, hlast⟩ := List.append_inj' heq rfl
      have hquot : m / b = n / b := ih (m / b) (Nat.div_lt_self (by omega) hb) hrest
      have hrem : m % b = n % b :=
        hdigit _ (Nat.mod_lt _ (by omega)) _ (Nat.mod_lt _ (by omega)) (List.singleton_inj.mp hlast)
      rw [← Nat.div_add_mod m b, ← Nat.div_add_mod n b, hquot, hrem]

theorem numeral (h : Positional b digit write) (hb : 1 < b)
    (hdigit : ∀ i < b, ∀ j < b, digit i = digit j → i = j) : Numeral write where
  injective := h.injective hb hdigit
  length_mono := h.length_mono hb

end Positional

end Lib
