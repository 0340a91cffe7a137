import Mathlib.Data.List.Basic
import Mathlib.Data.List.Infix
import Mathlib.Tactic.Common

/-!
# The first occurrence of a pattern

`find pat text` is the least offset at which `pat` occurs in `text`. An occurrence at
offset `i` is a prefix of `text.drop i`, so the facts about occurrences in a text, in a
prefix of it and behind a prefix of it are facts about prefixes.
-/
namespace Lib.Search

variable {α : Type*}

/-- `pat` occurs in `text` at offset `i`. -/
def OccursAt (pat text : List α) (i : Nat) : Prop := i ≤ text.length ∧ pat <+: text.drop i

theorem OccursAt.le {pat text : List α} {i : Nat} (h : OccursAt pat text i) :
    i + pat.length ≤ text.length := by
  have hle := h.2.length_le
  have hi := h.1
  rw [List.length_drop] at hle
  omega

theorem occursAt_cons_succ {pat text : List α} {a : α} {i : Nat} :
    OccursAt pat (a :: text) (i + 1) ↔ OccursAt pat text i := by
  simp [OccursAt]

/-- An occurrence in a prefix is an occurrence in the whole. -/
theorem OccursAt.append {pat text : List α} {i : Nat} (h : OccursAt pat text i) (rest : List α) :
    OccursAt pat (text ++ rest) i := by
  refine ⟨by rw [List.length_append]; exact h.1.trans (Nat.le_add_right _ _), ?_⟩
  rw [List.drop_append_of_le_length h.1]
  exact h.2.trans (List.prefix_append _ _)

/-- An occurrence that ends inside a prefix is an occurrence in the prefix. -/
theorem OccursAt.of_append {pat text rest : List α} {i : Nat} (h : OccursAt pat (text ++ rest) i)
    (hend : i + pat.length ≤ text.length) : OccursAt pat text i := by
  have hi : i ≤ text.length := by omega
  refine ⟨hi, ?_⟩
  have hpre := h.2
  rw [List.drop_append_of_le_length hi] at hpre
  exact List.prefix_of_prefix_length_le hpre (List.prefix_append _ _)
    (by rw [List.length_drop]; omega)

variable [DecidableEq α]

instance (pat text : List α) (i : Nat) : Decidable (OccursAt pat text i) :=
  inferInstanceAs (Decidable (_ ∧ _))

/-- The least offset at which `pat` occurs. -/
def find (pat : List α) : List α → Option Nat
  | [] => if pat = [] then some 0 else none
  | a :: text => if pat <+: a :: text then some 0 else (find pat text).map (· + 1)

theorem find_eq_some {pat text : List α} {i : Nat} :
    find pat text = some i ↔ OccursAt pat text i ∧ ∀ j < i, ¬ OccursAt pat text j := by
  induction text generalizing i with
  | nil =>
    by_cases hpat : pat = []
    · simp only [find, hpat, ↓reduceIte, Option.some.injEq]
      constructor
      · rintro rfl
        exact ⟨⟨le_rfl, List.prefix_rfl⟩, fun j hj => absurd hj (Nat.not_lt_zero j)⟩
      · rintro ⟨⟨hi, -⟩, -⟩
        exact (Nat.le_zero.mp hi).symm
    · simp [find, hpat, OccursAt]
  | cons a text ih =>
    simp only [find]
    split
    · rename_i hpre
      have hzero : OccursAt pat (a :: text) 0 := ⟨Nat.zero_le _, hpre⟩
      constructor
      · rintro ⟨rfl⟩
        exact ⟨hzero, fun j hj => absurd hj (Nat.not_lt_zero j)⟩
      · rintro ⟨-, hleast⟩
        cases i with
        | zero => rfl
        | succ i => exact absurd hzero (hleast 0 (Nat.succ_pos i))
    · rename_i hpre
      have hzero : ¬ OccursAt pat (a :: text) 0 := fun h => hpre h.2
      rw [Option.map_eq_some_iff]
      constructor
      · rintro ⟨k, hk, rfl⟩
        obtain ⟨hocc, hleast⟩ := ih.mp hk
        refine ⟨occursAt_cons_succ.mpr hocc, fun j hj => ?_⟩
        cases j with
        | zero => exact hzero
        | succ j => rw [occursAt_cons_succ]; exact hleast j (by omega)
      · intro ⟨hocc, hleast⟩
        cases i with
        | zero => exact absurd hocc hzero
        | succ i =>
          refine ⟨i, ih.mpr ⟨occursAt_cons_succ.mp hocc, fun j hj => ?_⟩, rfl⟩
          rw [← occursAt_cons_succ (a := a)]
          exact hleast (j + 1) (by omega)

theorem find_eq_none {pat text : List α} :
    find pat text = none ↔ ∀ i, ¬ OccursAt pat text i := by
  constructor
  · intro h i hi
    -- the least occurrence would have been found
    induction i using Nat.strong_induction_on with
    | _ i ih =>
      have hsome := find_eq_some.mpr ⟨hi, fun j hj hocc => ih j hj hocc⟩
      rw [h] at hsome
      cases hsome
  · intro h
    cases hf : find pat text with
    | none => rfl
    | some i => exact absurd (find_eq_some.mp hf).1 (h i)

/-- A pattern with an element the text lacks does not occur. -/
theorem find_eq_none_of_notMem {pat text : List α} {a : α} (hpat : a ∈ pat) (htext : a ∉ text) :
    find pat text = none := by
  rw [find_eq_none]
  intro i hi
  exact htext (List.mem_of_mem_drop (hi.2.subset hpat))

/-- What follows a text does not move the first occurrence in it. -/
theorem find_append_of_some {pat text : List α} {i : Nat} (h : find pat text = some i)
    (rest : List α) : find pat (text ++ rest) = some i := by
  obtain ⟨hocc, hleast⟩ := find_eq_some.mp h
  refine find_eq_some.mpr ⟨hocc.append rest, fun j hj hearlier => hleast j hj ?_⟩
  have hend := hocc.le
  exact hearlier.of_append (by omega)

/-- `pat` neither occurs in `pre` nor starts to occur at its end. -/
def Clear (pat pre : List α) : Prop :=
  ∀ i < pre.length, ¬ pat <+: pre.drop i ∧ ¬ pre.drop i <+: pat

instance (pat pre : List α) : Decidable (Clear pat pre) :=
  inferInstanceAs (Decidable (∀ i < pre.length, _ ∧ _))

/-- A clear text in front is passed over. -/
theorem find_append_of_clear {pat pre : List α} (h : Clear pat pre) (text : List α) :
    find pat (pre ++ text) = (find pat text).map (· + pre.length) := by
  induction pre with
  | nil => simp
  | cons a pre ih =>
    have hhead := h 0 (Nat.succ_pos _)
    have htail : Clear pat pre := fun i hi => h (i + 1) (Nat.succ_lt_succ hi)
    have hpre : ¬ pat <+: a :: (pre ++ text) := by
      intro hpat
      rcases List.prefix_or_prefix_of_prefix hpat (List.prefix_append (a :: pre) text) with h' | h'
      · exact hhead.1 h'
      · exact hhead.2 h'
    simp only [List.cons_append, find, if_neg hpre, ih htail, Option.map_map, List.length_cons]
    congr 1

end Lib.Search
