import RtspForward.Buffer.Refinement
import RtspForward.Lib.Search

/-!
# Searching the ring buffer

`FindSubstring` compares bytes modulo the size of the block; under the representation
invariant it is the search for the first occurrence in the logical contents.
-/
namespace RtspForward.RingBuffer

open Lib Lib.Circular Lib.Search

variable {r : RingBuffer} {pat : Bytes}

theorem searchLen_le (r : RingBuffer) (m : Nat) : r.searchLen m ≤ r.readableSize := by
  unfold searchLen
  split <;> omega

/-- The byte the inner loop looks at is the one of the logical contents. -/
theorem getElem?_contents (h : Valid r) {i : Nat} (hi : i < r.readableSize) :
    r.contents[i]? = some (r.buffer.getD ((r.readPos + i) % r.capacity) default) := by
  rw [contents, window, ← h.length_eq]
  simp [hi]

theorem matchesAt_iff (h : Valid r) {i : Nat} (hi : i + pat.length ≤ r.readableSize) :
    r.matchesAt pat i = true ↔ OccursAt pat r.contents i := by
  have hcap := h.capacity_lt
  have hread := h.readPos_lt
  have hle := h.readable_le
  have hpos : Word.add 64 r.readPos i % r.capacity < r.capacity := Nat.mod_lt _ h.capacity_pos
  have hbyte : ∀ j < pat.length, Word.add 64 (Word.add 64 r.readPos i % r.capacity) j % r.capacity =
      (r.readPos + (i + j)) % r.capacity := by
    intro j hj
    rw [Word.add_exact (by omega), Word.add_exact (by omega), Nat.mod_add_mod, Nat.add_assoc]
  simp only [matchesAt, List.all_eq_true, List.mem_range, OccursAt, List.prefix_iff_getElem?,
    List.getElem?_drop, length_contents]
  constructor
  · intro hall
    refine ⟨by omega, fun j hj => ?_⟩
    have hj' := hall j hj
    rw [hbyte j hj, beq_iff_eq] at hj'
    rw [getElem?_contents h (by omega), hj']
    simp [hj]
  · rintro ⟨-, hall⟩ j hj
    have hj' := hall j hj
    rw [getElem?_contents h (by omega)] at hj'
    rw [hbyte j hj, beq_iff_eq, Option.some.inj hj']
    simp [hj]

/-- `FindSubstring` is the search in the part of the contents it may look at. -/
theorem findSubstring_eq (h : Valid r) (hpat : pat ≠ []) (m : Nat) :
    r.findSubstring pat m = find pat (r.contents.take (r.searchLen m)) := by
  have hlen : 0 < pat.length := List.length_pos_iff.mpr hpat
  have hsearch := searchLen_le r m
  have hcap := h.capacity_lt
  have hle := h.readable_le
  have htext : (r.contents.take (r.searchLen m)).length = r.searchLen m := by
    rw [List.length_take, length_contents]
    omega
  have hocc : ∀ i, OccursAt pat (r.contents.take (r.searchLen m)) i ↔
      i + pat.length ≤ r.searchLen m ∧ OccursAt pat r.contents i := by
    intro i
    constructor
    · intro ho
      have hend := ho.le
      rw [htext] at hend
      refine ⟨hend, ?_⟩
      have hwhole := ho.append (r.contents.drop (r.searchLen m))
      rwa [List.take_append_drop] at hwhole
    · intro ⟨hend, ho⟩
      rw [← List.take_append_drop (r.searchLen m) r.contents] at ho
      exact ho.of_append (by rw [htext]; exact hend)
  unfold findSubstring
  simp only
  split
  · -- nothing readable
    rename_i hzero
    symm
    rw [find_eq_none]
    intro i ho
    have hend := ((hocc i).mp ho).1
    omega
  · split
    · symm
      rw [find_eq_none]
      intro i ho
      have hend := ((hocc i).mp ho).1
      omega
    · rename_i hlong
      rw [Word.sub_exact (by omega) (by omega)]
      have hmatch : ∀ i, i < r.searchLen m - pat.length + 1 →
          (r.matchesAt pat i = true ↔ OccursAt pat (r.contents.take (r.searchLen m)) i) := by
        intro i hi
        rw [matchesAt_iff h (by omega), hocc]
        exact ⟨fun ho => ⟨by omega, ho⟩, fun ho => ho.2⟩
      cases hf : find pat (r.contents.take (r.searchLen m)) with
      | none =>
        rw [List.find?_range_eq_none]
        intro i hi
        have hno := find_eq_none.mp hf i
        rw [← hmatch i hi] at hno
        simpa using hno
      | some i =>
        obtain ⟨ho, hleast⟩ := find_eq_some.mp hf
        have hend := ((hocc i).mp ho).1
        rw [List.find?_range_eq_some]
        refine ⟨(hmatch i (by omega)).mpr ho, List.mem_range.mpr (by omega), fun j hj => ?_⟩
        have hno := hleast j hj
        rw [← hmatch j (by omega)] at hno
        simpa using hno

/-- Without a limit the search looks at everything. -/
theorem findSubstring_all (h : Valid r) (hpat : pat ≠ []) :
    r.findSubstring pat 0 = find pat r.contents := by
  have hall : r.contents.take (r.searchLen 0) = r.contents :=
    List.take_of_length_le (by rw [length_contents]; exact Nat.le_refl _)
  rw [findSubstring_eq h hpat, hall]

end RtspForward.RingBuffer
