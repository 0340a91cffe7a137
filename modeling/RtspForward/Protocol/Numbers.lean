import RtspForward.Lib.Text
import RtspForward.Protocol.RtspParser

/-!
# Numbers in a request

`strtol` reads the digits at the front of a text, behind an optional sign. An `int` is not
changed by saturation or by the cast to `int`.
-/
namespace RtspForward.RtspParser

open Lib

theorem not_isSpace_of_isDigit {b : UInt8} (h : isDigit b) : isSpace b = false := by
  simp only [isDigit, Bool.and_eq_true, decide_eq_true_eq, UInt8.le_iff_toNat_le] at h
  simp only [isSpace, Bool.or_eq_false_iff, decide_eq_false_iff_not, Bool.and_eq_false_iff,
    UInt8.le_iff_toNat_le, ← UInt8.toNat_inj]
  have h32 : (32 : UInt8).toNat = 32 := rfl
  have h13 : (13 : UInt8).toNat = 13 := rfl
  have h48 : (48 : UInt8).toNat = 48 := rfl
  omega

/-- The digits of a text that starts with them are read, with the sign in front. -/
theorem strtol_digits {digits rest : Bytes} (hne : digits ≠ []) (hdigits : ∀ b ∈ digits, isDigit b)
    (hrest : Text.Stops isDigit rest) :
    strtol (digits ++ rest) = (clampLong (digitsValue digits), rest) ∧
      strtol (45 :: (digits ++ rest)) = (clampLong (-digitsValue digits), rest) ∧
      strtol (43 :: (digits ++ rest)) = (clampLong (digitsValue digits), rest) := by
  have htake := Text.takeWhile_append hdigits hrest
  have hdrop := Text.dropWhile_append hdigits hrest
  obtain ⟨d, ds, rfl⟩ := List.exists_cons_of_ne_nil hne
  have hd := hdigits d (by simp)
  have hspace : Text.Stops isSpace (d :: ds ++ rest) := by
    simpa using not_isSpace_of_isDigit hd
  have hminus : d ≠ 45 := by
    intro h
    exact absurd (h ▸ hd) (by decide)
  have hplus : d ≠ 43 := by
    intro h
    exact absurd (h ▸ hd) (by decide)
  have hsign (b : UInt8) (hb : isSpace b = false) : Text.Stops isSpace (b :: (d :: ds ++ rest)) :=
    Text.stops_cons.mpr hb
  refine ⟨?_, ?_, ?_⟩
  · rw [strtol, hspace.dropWhile]
    simp only [List.cons_append] at htake hdrop ⊢
    simp [hminus, hplus, htake, hdrop]
  · rw [strtol, (hsign 45 (by decide)).dropWhile]
    simp only [List.cons_append] at htake hdrop ⊢
    simp [htake, hdrop]
  · rw [strtol, (hsign 43 (by decide)).dropWhile]
    simp only [List.cons_append] at htake hdrop ⊢
    simp [htake, hdrop]

/-- An `int` survives the way through a `long`. -/
theorem toInt_clampLong {n : Int} (hmin : -2 ^ 31 ≤ n) (hmax : n < 2 ^ 31) :
    toInt (clampLong n) = n := by
  have hclamp : clampLong n = n := by
    unfold clampLong
    omega
  rw [hclamp, toInt]
  apply Int.bmod_eq_of_le <;> omega

theorem cString_of_notMem {memory : Bytes} (h : 0 ∉ memory) : cString memory = memory := by
  have hall : ∀ b ∈ memory, decide (b ≠ 0) = true := by
    intro b hb
    rw [decide_eq_true_iff]
    intro hzero
    exact h (hzero ▸ hb)
  have htake := Text.takeWhile_append hall Text.stops_nil
  rwa [List.append_nil] at htake

theorem toInt_lt (v : Int) : toInt v < 2 ^ 31 := by
  have h := Int.bmod_lt (x := v) (m := 2 ^ 32) (by decide)
  exact h

/-- An optionally signed decimal, and the number it denotes. -/
inductive IsDecimal : Bytes → Int → Prop
  | unsigned (digits : Bytes) (hne : digits ≠ []) (hdigits : ∀ b ∈ digits, isDigit b) :
      IsDecimal digits (digitsValue digits)
  | plus (digits : Bytes) (hne : digits ≠ []) (hdigits : ∀ b ∈ digits, isDigit b) :
      IsDecimal (43 :: digits) (digitsValue digits)
  | minus (digits : Bytes) (hne : digits ≠ []) (hdigits : ∀ b ∈ digits, isDigit b) :
      IsDecimal (45 :: digits) (-digitsValue digits)

theorem IsDecimal.strtol {text : Bytes} {n : Int} (h : IsDecimal text n) :
    strtol text = (clampLong n, []) := by
  cases h with
  | unsigned _ hne hdigits =>
    have hread := (strtol_digits hne hdigits Text.stops_nil).1
    rwa [List.append_nil] at hread
  | plus digits hne hdigits =>
    have hread := (strtol_digits hne hdigits Text.stops_nil).2.2
    rwa [List.append_nil] at hread
  | minus digits hne hdigits =>
    have hread := (strtol_digits hne hdigits Text.stops_nil).2.1
    rwa [List.append_nil] at hread

theorem IsDecimal.zero_notMem {text : Bytes} {n : Int} (h : IsDecimal text n) : 0 ∉ text := by
  have hzero {digits : Bytes} (hdigits : ∀ b ∈ digits, isDigit b) : 0 ∉ digits :=
    fun hmem => absurd (hdigits 0 hmem) (by decide)
  cases h with
  | unsigned _ _ hdigits => exact hzero hdigits
  | plus _ _ hdigits | minus _ _ hdigits => simp [hzero hdigits]

theorem IsDecimal.ne_nil {text : Bytes} {n : Int} (h : IsDecimal text n) : text ≠ [] := by
  cases h with
  | unsigned _ hne _ => exact hne
  | plus | minus => simp

/-- A decimal is read as the `int` it is cast to. -/
theorem parseCSeq_of_isDecimal {value : Bytes} {n : Int} (h : IsDecimal value n) :
    parseCSeq value = toInt (clampLong n) := by
  simp [parseCSeq, cString_of_notMem h.zero_notMem, h.strtol, Ne.symm h.ne_nil]

/-- A text that `strtol` reads to its end is a decimal. -/
theorem isDecimal_of_strtol {text : Bytes} (hspace : Text.Stops isSpace text)
    (hne : (strtol text).2 ≠ text) (hend : (strtol text).2 = []) : ∃ n, IsDecimal text n := by
  simp only [strtol, hspace.dropWhile] at hne hend
  -- what follows the sign
  generalize hu : (if text.head? = some 45 ∨ text.head? = some 43 then text.tail else text) = u
    at hne hend
  by_cases htake : u.takeWhile isDigit = []
  · rw [if_pos htake] at hne
    exact absurd rfl hne
  rw [if_neg htake] at hend
  have hall : ∀ b ∈ u, isDigit b := List.dropWhile_eq_nil_iff.mp hend
  have hnil : u ≠ [] := by
    intro hnil
    exact htake (by rw [hnil]; rfl)
  cases text with
  | nil => exact absurd hu.symm hnil
  | cons b text =>
    simp only [List.head?_cons, Option.some.injEq, List.tail_cons] at hu
    by_cases hminus : b = 45
    · rw [if_pos (.inl hminus)] at hu
      rw [hminus]
      exact ⟨_, .minus text (hu ▸ hnil) (hu ▸ hall)⟩
    by_cases hplus : b = 43
    · rw [if_pos (.inr hplus)] at hu
      rw [hplus]
      exact ⟨_, .plus text (hu ▸ hnil) (hu ▸ hall)⟩
    · rw [if_neg (by tauto)] at hu
      exact ⟨_, .unsigned _ (hu ▸ hnil) (hu ▸ hall)⟩

theorem parseCSeq_of_not_isDecimal {value : Bytes} (hspace : Text.Stops isSpace value)
    (hzero : 0 ∉ value) (h : ∀ n, ¬ IsDecimal value n) : parseCSeq value = 0 := by
  unfold parseCSeq
  rw [cString_of_notMem hzero]
  apply if_neg
  intro hread
  obtain ⟨n, hn⟩ := isDecimal_of_strtol hspace hread.1 hread.2
  exact h n hn

end RtspForward.RtspParser
