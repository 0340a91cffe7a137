import Mathlib.Data.List.Basic
import Mathlib.Data.List.Infix
import Mathlib.Data.List.TakeWhile
import Mathlib.Tactic.Common

/-!
# Words and padding

A text is read by cutting off its longest front of one class of elements. The front is the
word that was written when what follows the word does not go on with the class.
-/
namespace Lib.Text

variable {α : Type*} {p : α → Bool}

/-- The text does not start with an element of the class. -/
def Stops (p : α → Bool) (text : List α) : Prop := ∀ a ∈ text.head?, p a = false

@[simp] theorem stops_nil : Stops p [] := by
  intro a ha
  cases ha

@[simp] theorem stops_cons {a : α} {text : List α} : Stops p (a :: text) ↔ p a = false := by
  simp [Stops]

theorem Stops.append {text rest : List α} (htext : Stops p text) (hrest : Stops p rest) :
    Stops p (text ++ rest) := by
  cases text with
  | nil => exact hrest
  | cons a text => exact stops_cons.mpr (stops_cons.mp htext)

theorem Stops.takeWhile {text : List α} (h : Stops p text) : text.takeWhile p = [] := by
  cases text with
  | nil => rfl
  | cons a text => rw [List.takeWhile_cons, if_neg (by simp [stops_cons.mp h])]

theorem Stops.dropWhile {text : List α} (h : Stops p text) : text.dropWhile p = text := by
  cases text with
  | nil => rfl
  | cons a text => rw [List.dropWhile_cons, if_neg (by simp [stops_cons.mp h])]

theorem takeWhile_append {word rest : List α} (hword : ∀ a ∈ word, p a = true)
    (hrest : Stops p rest) : (word ++ rest).takeWhile p = word := by
  rw [List.takeWhile_append_of_pos hword, hrest.takeWhile, List.append_nil]

theorem dropWhile_append {word rest : List α} (hword : ∀ a ∈ word, p a = true)
    (hrest : Stops p rest) : (word ++ rest).dropWhile p = rest := by
  rw [List.dropWhile_append_of_pos hword, hrest.dropWhile]

/-- The class stands at neither end of the text. -/
structure Trimmed (p : α → Bool) (text : List α) : Prop where
  front : Stops p text
  back : Stops p text.reverse

instance (text : List α) : Decidable (Stops p text) :=
  inferInstanceAs (Decidable (∀ a ∈ text.head?, p a = false))

instance (text : List α) : Decidable (Trimmed p text) :=
  decidable_of_iff (Stops p text ∧ Stops p text.reverse)
    ⟨fun h => ⟨h.1, h.2⟩, fun h => ⟨h.front, h.back⟩⟩

/-- Cutting the class off both ends of a padded text gives the text. -/
theorem trim_pad {before text after : List α} (hbefore : ∀ a ∈ before, p a = true)
    (hafter : ∀ a ∈ after, p a = true) (htext : Trimmed p text) :
    (((before ++ (text ++ after)).dropWhile p).reverse.dropWhile p).reverse = text := by
  have hafter' : ∀ a ∈ after.reverse, p a = true := fun a ha => hafter a (List.mem_reverse.mp ha)
  by_cases hnil : text = []
  · subst hnil
    have hall : ∀ a ∈ before ++ after, p a = true := by
      intro a ha
      rcases List.mem_append.mp ha with h | h
      · exact hbefore a h
      · exact hafter a h
    have hdrop := dropWhile_append hall stops_nil
    rw [List.append_nil] at hdrop
    rw [List.nil_append, hdrop]
    rfl
  · obtain ⟨a, text', rfl⟩ := List.exists_cons_of_ne_nil hnil
    have hstops : Stops p (a :: text' ++ after) := stops_cons.mpr (stops_cons.mp htext.front)
    rw [dropWhile_append hbefore hstops, List.reverse_append, dropWhile_append hafter' htext.back,
      List.reverse_reverse]

end Lib.Text
