import Mathlib.Data.List.Basic
import Mathlib.Data.Nat.ModEq
import Mathlib.Tactic.Common

/-!
# Circular windows over a fixed block of cells

A block of cells is an ordinary list of fixed length. `window` walks from a start
cell and wraps at the end of the block; `store` and `slice` are the contiguous
copies a program makes into and out of the block. The lemmas say when a walk is a
contiguous copy, how a walk splits at the end of the block, and that a contiguous
store right behind a window extends exactly that window. Nothing here assumes that
the cells outside a window have any particular contents.
-/
namespace Lib.Circular

variable {α : Type*}

/-- One contiguous copy of `data` over the cells from `pos` on. -/
def store (cells : List α) (pos : Nat) (data : List α) : List α :=
  cells.take pos ++ data ++ cells.drop (pos + data.length)

/-- One contiguous copy of `n` cells from `pos` on. -/
def slice (cells : List α) (pos n : Nat) : List α := (cells.drop pos).take n

theorem length_store {cells data : List α} {pos : Nat} (h : pos + data.length ≤ cells.length) :
    (store cells pos data).length = cells.length := by
  simp only [store, List.length_append, List.length_take, List.length_drop]
  omega

theorem length_slice {cells : List α} {pos n : Nat} (h : pos + n ≤ cells.length) :
    (slice cells pos n).length = n := by
  simp only [slice, List.length_take, List.length_drop]
  omega

/-- A store is read back unchanged from the cells it covered. -/
theorem slice_store {cells data : List α} {pos : Nat} (h : pos + data.length ≤ cells.length) :
    slice (store cells pos data) pos data.length = data := by
  have hpos : (cells.take pos).length = pos := by rw [List.length_take]; omega
  rw [slice, store, List.append_assoc, List.drop_left' hpos, List.take_left]

theorem getElem?_store {cells data : List α} {pos p : Nat} (h : pos + data.length ≤ cells.length)
    (hp : p < pos ∨ pos + data.length ≤ p) : (store cells pos data)[p]? = cells[p]? := by
  have hpos : (cells.take pos).length = pos := by rw [List.length_take]; omega
  rcases hp with hp | hp
  · rw [store, List.append_assoc, List.getElem?_append_left (by omega), List.getElem?_take_of_lt hp]
  · have hlen : (cells.take pos ++ data).length = pos + data.length := by
      rw [List.length_append, hpos]
    rw [store, List.getElem?_append_right (by omega), hlen, List.getElem?_drop]
    congr 1
    omega

variable [Inhabited α]

/-- The `n` cells met when walking from `start`, wrapping at the end of the block. -/
def window (cells : List α) (start n : Nat) : List α :=
  (List.range n).map fun i => cells.getD ((start + i) % cells.length) default

@[simp] theorem length_window (cells : List α) (start n : Nat) :
    (window cells start n).length = n := by
  simp [window]

@[simp] theorem window_zero (cells : List α) (start : Nat) : window cells start 0 = [] := rfl

theorem window_add (cells : List α) (start m n : Nat) :
    window cells start (m + n) = window cells start m ++ window cells (start + m) n := by
  simp only [window, List.range_add, List.map_append, List.map_map]
  congr 1
  apply List.map_congr_left
  intro i _
  simp [Nat.add_assoc]

/-- Only the residue of the start cell matters. -/
theorem window_mod (cells : List α) (start n : Nat) :
    window cells (start % cells.length) n = window cells start n := by
  apply List.map_congr_left
  intro i _
  rw [Nat.mod_add_mod]

theorem take_window (cells : List α) (start : Nat) {k n : Nat} (h : k ≤ n) :
    (window cells start n).take k = window cells start k := by
  obtain ⟨m, rfl⟩ := Nat.exists_eq_add_of_le h
  rw [window_add, List.take_left' (length_window _ _ _)]

theorem drop_window (cells : List α) (start : Nat) {k n : Nat} (h : k ≤ n) :
    (window cells start n).drop k = window cells (start + k) (n - k) := by
  obtain ⟨m, rfl⟩ := Nat.exists_eq_add_of_le h
  rw [window_add, List.drop_left' (length_window _ _ _), Nat.add_sub_cancel_left]

theorem getD_window (cells : List α) (start : Nat) {i n : Nat} (h : i < n) :
    (window cells start n).getD i default = cells.getD ((start + i) % cells.length) default := by
  simp [window, h]

/-- A walk that does not reach the end of the block is a contiguous copy. -/
theorem window_contiguous {cells : List α} {start n : Nat} (h : start + n ≤ cells.length) :
    window cells start n = slice cells start n := by
  apply List.ext_getElem
  · rw [length_window, length_slice h]
  · intro i hi _
    rw [length_window] at hi
    have hmod : (start + i) % cells.length = start + i := Nat.mod_eq_of_lt (by omega)
    have hlt : start + i < cells.length := by omega
    simp [window, slice, hmod, hlt]

/-- A walk across the end of the block is two contiguous copies. -/
theorem window_wrapped {cells : List α} {start n : Nat} (hs : start ≤ cells.length)
    (hn : cells.length ≤ start + n) (hle : n ≤ cells.length) :
    window cells start n =
      slice cells start (cells.length - start) ++ slice cells 0 (n - (cells.length - start)) := by
  have hsplit : n = (cells.length - start) + (n - (cells.length - start)) := by omega
  have hend : start + (cells.length - start) = cells.length := by omega
  have hrest : window cells cells.length (n - (cells.length - start)) =
      window cells 0 (n - (cells.length - start)) := by
    rw [← window_mod, Nat.mod_self]
  conv_lhs => rw [hsplit, window_add, hend, hrest]
  rw [window_contiguous (by omega), window_contiguous (by omega)]

/-- Offsets below one full turn denote distinct cells. -/
theorem offset_ne {len start a b : Nat} (ha : a < len) (hb : b < len) (hne : a ≠ b) :
    (start + a) % len ≠ (start + b) % len := by
  intro h
  have hab : a % len = b % len := Nat.ModEq.add_left_cancel' start h
  rw [Nat.mod_eq_of_lt ha, Nat.mod_eq_of_lt hb] at hab
  exact hne hab

/-- A contiguous store leaves every walk alone that stays, within one turn, off the
stored offsets. -/
theorem window_store_other {cells data : List α} {start n k m : Nat}
    (hroom : n + data.length ≤ cells.length)
    (hfit : (start + n) % cells.length + data.length ≤ cells.length)
    (hturn : k + m ≤ cells.length) (hoff : k + m ≤ n ∨ n + data.length ≤ k) :
    window (store cells ((start + n) % cells.length) data) (start + k) m =
      window cells (start + k) m := by
  apply List.map_congr_left
  intro i hi
  rw [List.mem_range] at hi
  rw [length_store hfit, List.getD_eq_getElem?_getD, List.getD_eq_getElem?_getD, Nat.add_assoc]
  congr 1
  apply getElem?_store hfit
  by_contra hin
  -- a stored cell is met at one offset of the turn only, and that one is excluded
  obtain ⟨j, hj⟩ := Nat.exists_eq_add_of_le (by omega : (start + n) % cells.length ≤
    (start + (k + i)) % cells.length)
  have hlt : (start + (k + i)) % cells.length < cells.length := Nat.mod_lt _ (by omega)
  have hmeet : (start + (n + j)) % cells.length = (start + (k + i)) % cells.length := by
    rw [hj, ← Nat.add_assoc, Nat.add_mod, Nat.mod_eq_of_lt (by omega : j < cells.length)]
    exact Nat.mod_eq_of_lt (by omega)
  exact offset_ne (by omega) (by omega) (by omega : n + j ≠ k + i) hmeet

/-- A contiguous store at offset `n` of a turn replaces exactly the stored offsets. -/
theorem window_store (cells data : List α) (start n : Nat)
    (hroom : n + data.length ≤ cells.length)
    (hfit : (start + n) % cells.length + data.length ≤ cells.length) :
    window (store cells ((start + n) % cells.length) data) start cells.length =
      (window cells start cells.length).take n ++ data ++
        (window cells start cells.length).drop (n + data.length) := by
  have hlen := length_store hfit
  have hsplit : cells.length = n + data.length + (cells.length - (n + data.length)) := by omega
  have hbefore : window (store cells ((start + n) % cells.length) data) start n =
      window cells start n :=
    window_store_other (k := 0) hroom hfit (by omega) (by omega)
  have hstored : window (store cells ((start + n) % cells.length) data) (start + n) data.length =
      data := by
    rw [← window_mod, hlen, window_contiguous (by rw [hlen]; exact hfit), slice_store hfit]
  have hafter : window (store cells ((start + n) % cells.length) data)
      (start + (n + data.length)) (cells.length - (n + data.length)) =
      window cells (start + (n + data.length)) (cells.length - (n + data.length)) :=
    window_store_other hroom hfit (by omega) (by omega)
  rw [take_window _ _ (by omega), drop_window _ _ hroom]
  conv_lhs => arg 3; rw [hsplit]
  rw [window_add, window_add, hbefore, hstored, hafter]

/-- A block is determined by one full turn over it. -/
theorem eq_of_turn {cells cells' : List α} (start : Nat) (hlen : cells.length = cells'.length)
    (h : window cells start cells.length = window cells' start cells'.length) :
    cells = cells' := by
  apply List.ext_getElem hlen
  intro p hp hp'
  -- the offset at which the turn meets cell `p`
  obtain ⟨i, hi, hmeet⟩ : ∃ i < cells.length, (start + i) % cells.length = p := by
    refine ⟨(p + (cells.length - start % cells.length)) % cells.length,
      Nat.mod_lt _ (by omega), ?_⟩
    have hs := Nat.mod_lt start (by omega : 0 < cells.length)
    rw [Nat.add_mod_mod, ← Nat.mod_add_mod]
    have hcancel : start % cells.length + (p + (cells.length - start % cells.length)) =
        p + cells.length := by omega
    rw [hcancel, Nat.add_mod_right, Nat.mod_eq_of_lt hp]
  have hget := congrArg (fun w => w.getD i default) h
  simp only [getD_window cells start hi, getD_window cells' start (hlen ▸ hi)] at hget
  rw [← hlen, hmeet] at hget
  simpa [hp, hp'] using hget

end Lib.Circular
