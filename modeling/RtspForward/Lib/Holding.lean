import Mathlib.Tactic.Common

/-!
# Exclusive holding of resources

Holders take resources out of a pool and give them back; a resource that is given back can be
handed out again. `Discipline` says that whatever is held is in use and has one holder. An
exchange, in which one holder gives some of its resources back and gets some that are not in
use, keeps it; taking only and giving up everything are special cases.
-/
namespace Lib

variable {ι ρ : Type*} {holds holds' : ι → ρ → Prop} {inUse inUse' : ρ → Prop}

structure Discipline (holds : ι → ρ → Prop) (inUse : ρ → Prop) : Prop where
  in_use : ∀ a x, holds a x → inUse x
  unique : ∀ a b x, holds a x → holds b x → a = b

/-- The holder `a` gives `released` back and gets `acquired`. -/
structure Exchange (holds holds' : ι → ρ → Prop) (inUse inUse' : ρ → Prop) (a : ι)
    (released acquired : ρ → Prop) : Prop where
  released_held : ∀ x, released x → holds a x
  acquired_free : ∀ x, acquired x → ¬ inUse x
  inUse_iff : ∀ x, inUse' x ↔ (inUse x ∧ ¬ released x) ∨ acquired x
  self : ∀ x, holds' a x → (holds a x ∧ ¬ released x) ∨ acquired x
  others : ∀ b x, b ≠ a → holds' b x → holds b x

namespace Discipline

variable {a b : ι} {x : ρ} {released acquired : ρ → Prop}

/-- What somebody else holds is not released. -/
theorem not_released (h : Discipline holds inUse)
    (he : Exchange holds holds' inUse inUse' a released acquired) (hne : b ≠ a) (hb : holds b x) :
    ¬ released x :=
  fun hr => hne (h.unique b a x hb (he.released_held x hr))

/-- What is held after an exchange was held before and not released, or is new. -/
theorem origin (h : Discipline holds inUse)
    (he : Exchange holds holds' inUse inUse' a released acquired) (hb : holds' b x) :
    (holds b x ∧ ¬ released x) ∨ (b = a ∧ acquired x) := by
  by_cases hba : b = a
  · subst hba
    exact (he.self x hb).imp id fun hx => ⟨rfl, hx⟩
  · have hold := he.others b x hba hb
    exact .inl ⟨hold, h.not_released he hba hold⟩

theorem exchange (h : Discipline holds inUse)
    (he : Exchange holds holds' inUse inUse' a released acquired) : Discipline holds' inUse' where
  in_use b x hb := by
    rw [he.inUse_iff]
    rcases h.origin he hb with ⟨hold, hr⟩ | ⟨-, hx⟩
    · exact .inl ⟨h.in_use b x hold, hr⟩
    · exact .inr hx
  unique b c x hb hc := by
    rcases h.origin he hb with ⟨hb, -⟩ | ⟨rfl, hx⟩ <;> rcases h.origin he hc with ⟨hc, -⟩ | ⟨rfl, hx'⟩
    · exact h.unique b c x hb hc
    · exact absurd (h.in_use b x hb) (he.acquired_free x hx')
    · exact absurd (h.in_use c x hc) (he.acquired_free x hx)
    · rfl

end Discipline

end Lib
