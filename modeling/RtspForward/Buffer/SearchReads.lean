import RtspForward.Buffer.Search

/-!
# What a search of the ring buffer looks at

`FindChar` hands two stretches of the block to `memchr`, `FindSubstring` walks the block
with two remainders. Both are the search in a prefix of the logical contents, and every
position either of them reads belongs to a readable byte. The buffer may be in any state
the public operations leave it in.
-/
namespace RtspForward.RingBuffer

open Lib Lib.Circular Lib.Search

variable {r r' : RingBuffer} {c : UInt8} {pat : Bytes} {m : Nat}

/-- A buffer some sequence of public operations leads to. `WritePtr` gives out the free
stretch behind the readable bytes, and `Produce` may confirm any size. -/
inductive Reachable : RingBuffer → Prop
  | create {capacity : Nat} {garbage : Nat → UInt8} {r : RingBuffer}
      (h : create capacity garbage = some r) : Reachable r
  | write {r : RingBuffer} (h : Reachable r) (data : Bytes) : Reachable (r.write data).1
  | store {r : RingBuffer} (h : Reachable r) {data : Bytes}
      (hfit : data.length ≤ r.contiguousWritableSize) :
      Reachable { r with buffer := store r.buffer r.writePos data }
  | produce {r : RingBuffer} (h : Reachable r) (size : Nat) : Reachable (r.produce size)
  | consume {r : RingBuffer} (h : Reachable r) (size : Nat) : Reachable (r.consume size)

theorem write_valid (h : Valid r) (data : Bytes) : Valid (r.write data).1 := by
  by_cases hfit : 0 < data.length ∧ data.length ≤ r.capacity - r.readableSize
  · exact (write_appended h hfit.1 hfit.2).2.valid
  · rw [(write_refused h hfit).1]
    exact h

theorem produce_valid (h : Valid r) (size : Nat) : Valid (r.produce size) := by
  have hcap := h.capacity_lt
  have hle := h.readable_le
  have hw := h.writePos_lt
  have hclamp : (if size > r.writableSize then r.writableSize else size) =
      min size (r.capacity - r.readableSize) := by
    rw [h.writableSize_eq]
    split <;> omega
  simp only [produce, hclamp]
  rw [Word.add_exact (by omega), Word.add_exact (by omega)]
  refine ⟨h.capacity_pos, hcap, h.length_eq, h.readPos_lt, ?_, ?_⟩
  · show r.readableSize + min size (r.capacity - r.readableSize) ≤ r.capacity
    omega
  · show (r.writePos + min size (r.capacity - r.readableSize)) % r.capacity =
      (r.readPos + (r.readableSize + min size (r.capacity - r.readableSize))) % r.capacity
    rw [h.writePos_eq, Nat.mod_add_mod, Nat.add_assoc]

theorem Reachable.valid (h : Reachable r) : Valid r := by
  induction h with
  | create h => exact (create_valid h).1
  | write _ data ih => exact write_valid ih data
  | @store r data _ hfit ih =>
    have hw := ih.writePos_lt
    rw [ih.contiguousWritableSize_eq] at hfit
    refine ⟨ih.capacity_pos, ih.capacity_lt, ?_, ih.readPos_lt, ih.readable_le, ih.writePos_eq⟩
    exact (length_store (by rw [ih.length_eq]; omega)).trans ih.length_eq
  | produce _ size ih => exact produce_valid ih size
  | consume _ size ih => exact consume_valid ih size

/-- The part of the contents a search may look at. -/
def searched (r : RingBuffer) (m : Nat) : Bytes := r.contents.take (r.searchLen m)

theorem length_searched (r : RingBuffer) (m : Nat) : (r.searched m).length = r.searchLen m := by
  rw [searched, List.length_take, length_contents]
  exact Nat.min_eq_left (searchLen_le r m)

theorem searched_eq (r : RingBuffer) (m : Nat) :
    r.searched m = r.contents.take
      (if 0 < m ∧ m ≤ r.contents.length then m else r.contents.length) := by
  rw [searched, searchLen, length_contents]
  by_cases hpos : 0 < m
  · by_cases hle : m ≤ r.readableSize
    · rw [if_pos hpos, if_pos ⟨hpos, hle⟩, Nat.min_eq_left hle]
    · rw [if_pos hpos, if_neg (fun h => hle h.2), Nat.min_eq_right (by omega)]
  · rw [if_neg hpos, if_neg (fun h => hpos h.1)]

/-- The two stretches `FindChar` searches make up the searched contents. -/
theorem searched_stretches (h : Valid r) (m : Nat) :
    r.searched m =
      slice r.buffer r.readPos (min (r.searchLen m) r.contiguousReadableSize) ++
        slice r.buffer 0 (r.searchLen m - r.contiguousReadableSize) := by
  have hlen := searchLen_le r m
  have hread := h.readPos_lt
  rw [searched, take_contents h hlen, h.contiguousReadableSize_eq]
  split
  · rename_i hwrap
    rw [Nat.min_eq_right (by omega : r.capacity - r.readPos ≤ r.readableSize),
      Nat.min_eq_right (by omega)]
  · rename_i hstraight
    have hnone : r.searchLen m - min r.readableSize (r.capacity - r.readPos) = 0 := by omega
    rw [Nat.min_eq_left (by omega), hnone]
    simp [slice]

/-- `FindChar` is the search in the part of the contents it may look at. -/
theorem findChar_eq (h : Valid r) (c : UInt8) (m : Nat) :
    r.findChar c m = (r.searched m).findIdx? (· == c) := by
  have hlen := searchLen_le r m
  have hcap := h.capacity_lt
  have hle := h.readable_le
  have hread := h.readPos_lt
  have hcont := h.contiguousReadableSize_eq
  have hfirst : (slice r.buffer r.readPos (min (r.searchLen m) r.contiguousReadableSize)).length =
      min (r.searchLen m) r.contiguousReadableSize :=
    length_slice (by rw [h.length_eq, hcont]; omega)
  rw [searched_stretches h, List.findIdx?_append, hfirst]
  simp only [findChar]
  by_cases hzero : r.readableSize = 0
  · -- nothing readable: both stretches are empty
    have hnone : r.searchLen m = 0 := by omega
    simp [hzero, hnone, slice]
  · rw [if_neg hzero]
    cases (slice r.buffer r.readPos (min (r.searchLen m) r.contiguousReadableSize)).findIdx?
        (· == c) with
    | some i => rfl
    | none =>
      by_cases hwrap : r.searchLen m > r.contiguousReadableSize
      · simp only [if_pos hwrap, Option.none_or]
        rw [Word.sub_exact (by omega) (by omega), Nat.min_eq_right (by omega)]
        apply Option.map_congr
        intro i hi
        -- an index in the second stretch is small, so the sum does not wrap
        have hbound := (List.findIdx?_eq_some_iff_findIdx_eq.mp hi).1
        rw [length_slice (by rw [h.length_eq]; omega)] at hbound
        rw [Word.add_exact (by omega), Nat.add_comm]
      · have hnone : r.searchLen m - r.contiguousReadableSize = 0 := by omega
        simp [if_neg hwrap, hnone, slice]

/-- The elements a loop over `l` looks at when it stops at the first one with `p`. -/
def scanned {α : Type*} (p : α → Bool) : List α → List α
  | [] => []
  | a :: l => a :: if p a then [] else scanned p l

theorem mem_of_mem_scanned {α : Type*} {p : α → Bool} {a : α} {l : List α}
    (h : a ∈ scanned p l) : a ∈ l := by
  induction l with
  | nil => exact h
  | cons b l ih =>
    simp only [scanned] at h
    rcases List.mem_cons.mp h with rfl | h
    · exact List.mem_cons_self
    · split at h
      · cases h
      · exact List.mem_cons_of_mem b (ih h)

/-- The positions `memchr` reads from `pos` on, up to the first match. -/
def memchrReads (cells : Bytes) (c : UInt8) (pos n : Nat) : List Nat :=
  scanned (fun p => cells.getD p default == c) (List.range' pos n)

/-- The positions of the block `FindChar` reads. -/
def findCharReads (r : RingBuffer) (c : UInt8) (m : Nat) : List Nat :=
  if r.readableSize = 0 then []
  else
    let len := r.searchLen m
    let contiguous := r.contiguousReadableSize
    memchrReads r.buffer c r.readPos (min len contiguous) ++
      if ((slice r.buffer r.readPos (min len contiguous)).findIdx? (· == c)).isNone ∧
          len > contiguous then
        memchrReads r.buffer c 0 (Word.sub 64 len contiguous)
      else []

/-- The positions the inner loop of `FindSubstring` reads at offset `i`, up to the first
byte that differs. -/
def matchesAtReads (r : RingBuffer) (substr : Bytes) (i : Nat) : List Nat :=
  let pos := Word.add 64 r.readPos i % r.capacity
  (scanned (fun j => !(r.buffer.getD (Word.add 64 pos j % r.capacity) default ==
      substr.getD j default)) (List.range substr.length)).map
    fun j => Word.add 64 pos j % r.capacity

/-- The positions of the block `FindSubstring` reads. -/
def findSubstringReads (r : RingBuffer) (substr : Bytes) (m : Nat) : List Nat :=
  if r.readableSize = 0 ∨ substr.length = 0 then []
  else
    let len := r.searchLen m
    if len < substr.length then []
    else
      (scanned (r.matchesAt substr) (List.range (Word.sub 64 len substr.length + 1))).flatMap
        (r.matchesAtReads substr)

/-- A position that holds one of the first `n` readable bytes. -/
def Holds (r : RingBuffer) (n pos : Nat) : Prop := ∃ k < n, pos = (r.readPos + k) % r.capacity

theorem findCharReads_hold (h : Valid r) {pos : Nat} (hpos : pos ∈ r.findCharReads c m) :
    r.Holds (r.searchLen m) pos := by
  have hlen := searchLen_le r m
  have hcap := h.capacity_lt
  have hle := h.readable_le
  have hread := h.readPos_lt
  have hcont := h.contiguousReadableSize_eq
  simp only [findCharReads] at hpos
  split at hpos
  · cases hpos
  · rcases List.mem_append.mp hpos with hpos | hpos
    · -- the stretch up to the end of the block
      have hmem := List.mem_range'_1.mp (mem_of_mem_scanned hpos)
      refine ⟨pos - r.readPos, by omega, ?_⟩
      rw [Nat.add_sub_cancel' hmem.1]
      exact (Nat.mod_eq_of_lt (by omega)).symm
    · split at hpos
      · -- the stretch from the start of the block, met after a full turn
        rename_i hwrap
        have hmem := List.mem_range'_1.mp (mem_of_mem_scanned hpos)
        rw [Word.sub_exact (by omega) (by omega)] at hmem
        refine ⟨pos + (r.capacity - r.readPos), by omega, ?_⟩
        have hturn : r.readPos + (pos + (r.capacity - r.readPos)) = pos + r.capacity := by omega
        rw [hturn, Nat.add_mod_right]
        exact (Nat.mod_eq_of_lt (by omega)).symm
      · cases hpos

theorem findSubstringReads_hold (h : Valid r) {pos : Nat}
    (hpos : pos ∈ r.findSubstringReads pat m) : r.Holds (r.searchLen m) pos := by
  have hlen := searchLen_le r m
  have hcap := h.capacity_lt
  have hle := h.readable_le
  have hread := h.readPos_lt
  simp only [findSubstringReads] at hpos
  split at hpos
  · cases hpos
  · split at hpos
    · cases hpos
    · obtain ⟨i, hi, hpos⟩ := List.mem_flatMap.mp hpos
      obtain ⟨j, hj, rfl⟩ := List.mem_map.mp hpos
      have hi := List.mem_range.mp (mem_of_mem_scanned hi)
      have hj := List.mem_range.mp (mem_of_mem_scanned hj)
      rw [Word.sub_exact (by omega) (by omega)] at hi
      have hstart : (r.readPos + i) % r.capacity < r.capacity := Nat.mod_lt _ h.capacity_pos
      refine ⟨i + j, by omega, ?_⟩
      rw [Word.add_exact (by omega : r.readPos + i < 2 ^ 64), Word.add_exact (by omega),
        Nat.mod_add_mod, Nat.add_assoc]

theorem findIdx?_beq_eq_some {l : Bytes} {i : Nat} :
    l.findIdx? (· == c) = some i ↔ l[i]? = some c ∧ ∀ j < i, l[j]? ≠ some c := by
  rw [List.findIdx?_eq_some_iff_getElem]
  constructor
  · intro ⟨hi, heq, hleast⟩
    refine ⟨by simpa [hi] using heq, fun j hj => ?_⟩
    have hj' : j < l.length := by omega
    simpa [hj'] using hleast j hj
  · intro ⟨hget, hleast⟩
    obtain ⟨hi, heq⟩ := List.getElem?_eq_some_iff.mp hget
    refine ⟨hi, by simp [heq], fun j hj => ?_⟩
    have hj' : j < l.length := by omega
    have hne := hleast j hj
    simpa [hj'] using hne

/-- **Searches of the ring buffer are searches of its contents.** In every reachable state,
with `s` the part of the contents the limit leaves, `FindChar` finds the first byte `c` of
`s` and `FindSubstring` the least offset at which a nonempty pattern lies inside `s`; and
all they read lies inside the block and holds a byte of `s`. -/
theorem searches_within_contents (hr : Reachable r) (c : UInt8) (pat : Bytes) (hpat : pat ≠ [])
    (m : Nat) :
    let q := r.contents
    let s := q.take (if 0 < m ∧ m ≤ q.length then m else q.length)
    (∀ i, r.findChar c m = some i ↔ s[i]? = some c ∧ ∀ j < i, s[j]? ≠ some c) ∧
    (r.findChar c m = none ↔ c ∉ s) ∧
    (∀ i, r.findSubstring pat m = some i ↔
      OccursAt pat s i ∧ ∀ j < i, ¬ OccursAt pat s j) ∧
    (r.findSubstring pat m = none ↔ ∀ i, ¬ OccursAt pat s i) ∧
    ∀ pos ∈ r.findCharReads c m ++ r.findSubstringReads pat m,
      pos < r.buffer.length ∧
        ∃ k < s.length, pos = (r.readPos + k) % r.capacity ∧
          s[k]? = some (r.buffer.getD pos default) := by
  have h := hr.valid
  intro q s
  have hs : s = r.searched m := (searched_eq r m).symm
  have hfind : r.findSubstring pat m = find pat s := by
    rw [hs]
    exact findSubstring_eq h hpat m
  have hchar : r.findChar c m = s.findIdx? (· == c) := by
    rw [hs]
    exact findChar_eq h c m
  refine ⟨fun i => ?_, ?_, fun i => ?_, ?_, fun pos hpos => ?_⟩
  · rw [hchar, findIdx?_beq_eq_some]
  · rw [hchar, List.findIdx?_eq_none_iff]
    constructor
    · intro hall hmem
      simpa using hall c hmem
    · intro hmem b hb
      simp only [beq_eq_false_iff_ne]
      rintro rfl
      exact hmem hb
  · rw [hfind, find_eq_some]
  · rw [hfind, find_eq_none]
  · have hholds : r.Holds (r.searchLen m) pos := by
      rcases List.mem_append.mp hpos with hpos | hpos
      · exact findCharReads_hold h hpos
      · exact findSubstringReads_hold h hpos
    obtain ⟨k, hk, rfl⟩ := hholds
    have hlen := searchLen_le r m
    refine ⟨?_, k, ?_, rfl, ?_⟩
    · rw [h.length_eq]
      exact Nat.mod_lt _ h.capacity_pos
    · rw [hs, length_searched]
      exact hk
    · rw [hs, searched, List.getElem?_take_of_lt hk]
      exact getElem?_contents h (by omega)

/-- A pattern that straddles the end of the block is found, and the stale byte behind the
readable ones neither is nor completes a match. -/
theorem searches_wrapped :
    ∃ r, Reachable r ∧ r.buffer = [5, 2, 3, 4] ∧ r.contents = [4, 5] ∧
      r.findSubstring [4, 5] 0 = some 0 ∧ r.findSubstring [5, 2] 0 = none ∧
      r.findChar 2 0 = none ∧ r.findChar 5 1 = none := by
  let r : RingBuffer := ⟨[5, 2, 3, 4], 4, 3, 1, 2⟩
  have hr : Reachable r := by
    have hfresh : Reachable ⟨[0, 0, 0, 0], 4, 0, 0, 0⟩ :=
      @Reachable.create 4 (fun _ => 0) _ rfl
    exact .consume (.write (.consume (.write hfresh [1, 2, 3]) 2) [4, 5]) 1
  obtain ⟨-, -, hstraddle, -, -⟩ := searches_within_contents hr 5 [4, 5] (by decide) 0
  obtain ⟨-, hstale, -, hlonger, -⟩ := searches_within_contents hr 2 [5, 2] (by decide) 0
  obtain ⟨-, hlimit, -⟩ := searches_within_contents hr 5 [4, 5] (by decide) 1
  refine ⟨r, hr, rfl, by decide, (hstraddle 0).mpr ⟨by decide, by decide⟩, ?_,
    hstale.mpr (by decide), hlimit.mpr (by decide)⟩
  rw [hlonger]
  intro i ho
  obtain rfl : i = 0 := by
    have hend : i + 2 ≤ 2 := ho.le
    omega
  exact absurd ho (by decide)

end RtspForward.RingBuffer
