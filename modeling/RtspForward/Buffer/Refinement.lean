import RtspForward.Buffer.RingBuffer
import RtspForward.Lib.Transition
import RtspForward.Lib.Fifo

/-!
# The ring buffer implements a bounded FIFO

Under the representation invariant none of the 64-bit operations wraps, so the
counters satisfy the natural equations below. `Appended` is the one statement about
how bytes enter the block, shared by `Write` and by the direct fill of `recv`; it
also says that the bytes outside the readable window are left alone, so appending
in several pieces and in one piece gives the same block.
-/
namespace RtspForward.RingBuffer

open Lib Lib.Circular

variable {r r' r'' : RingBuffer} {data rest : Bytes}

@[simp] theorem length_contents (r : RingBuffer) : r.contents.length = r.readableSize := by
  simp [contents]

namespace Valid

theorem writePos_lt (h : Valid r) : r.writePos < r.capacity := by
  rw [h.writePos_eq]
  exact Nat.mod_lt _ h.capacity_pos

theorem writableSize_eq (h : Valid r) : r.writableSize = r.capacity - r.readableSize :=
  Word.sub_exact h.readable_le (by have := h.capacity_lt; omega)

theorem toEnd_read (h : Valid r) :
    Word.sub 64 r.capacity r.readPos = r.capacity - r.readPos :=
  Word.sub_exact h.readPos_lt.le (by have := h.capacity_lt; omega)

theorem toEnd_write (h : Valid r) :
    Word.sub 64 r.capacity r.writePos = r.capacity - r.writePos :=
  Word.sub_exact h.writePos_lt.le (by have := h.capacity_lt; omega)

theorem contiguousWritableSize_eq (h : Valid r) :
    r.contiguousWritableSize = min (r.capacity - r.readableSize) (r.capacity - r.writePos) := by
  simp only [contiguousWritableSize, h.writableSize_eq, h.toEnd_write]
  split <;> omega

theorem contiguousReadableSize_eq (h : Valid r) :
    r.contiguousReadableSize = min r.readableSize (r.capacity - r.readPos) := by
  simp only [contiguousReadableSize, h.toEnd_read]
  split <;> omega

end Valid

/-- One full turn over the block, starting at the read position. -/
def layout (r : RingBuffer) : Bytes := window r.buffer r.readPos r.capacity

theorem Valid.take_layout (h : Valid r) : r.layout.take r.readableSize = r.contents :=
  take_window _ _ h.readable_le

theorem create_valid {capacity : Nat} {garbage : Nat → UInt8}
    (h : create capacity garbage = some r) :
    Valid r ∧ r.capacity = max capacity 1 ∧ r.contents = [] := by
  have hmax : (if capacity > 0 then capacity else 1) = max capacity 1 := by split <;> omega
  simp only [create, hmax] at h
  by_cases hlt : max capacity 1 < 2 ^ 63
  · rw [if_pos hlt] at h
    obtain rfl := Option.some.inj h
    have hpos : 0 < max capacity 1 := by omega
    exact ⟨⟨hpos, hlt, by simp, hpos, Nat.zero_le _, by simp⟩, rfl, rfl⟩
  · rw [if_neg hlt] at h
    cases h

/-- `r'` is `r` with `data` appended behind the readable window: the read position
stays, and the bytes outside the new window are the old ones. -/
structure Appended (r r' : RingBuffer) (data : Bytes) : Prop where
  valid : Valid r'
  capacity_eq : r'.capacity = r.capacity
  readPos_eq : r'.readPos = r.readPos
  readable_eq : r'.readableSize = r.readableSize + data.length
  layout_eq : r'.layout = r.contents ++ data ++ r.layout.drop (r.readableSize + data.length)

namespace Appended

theorem contents_eq (h : Appended r r' data) : r'.contents = r.contents ++ data := by
  rw [← h.valid.take_layout, h.layout_eq, h.readable_eq]
  exact List.take_left' (by simp)

theorem room (h : Appended r r' data) : r.readableSize + data.length ≤ r.capacity := by
  have hle := h.valid.readable_le
  rwa [h.readable_eq, h.capacity_eq] at hle

/-- Appending twice is appending the concatenation. -/
theorem trans (h : Appended r r' data) (h' : Appended r' r'' rest) :
    Appended r r'' (data ++ rest) where
  valid := h'.valid
  capacity_eq := h'.capacity_eq.trans h.capacity_eq
  readPos_eq := h'.readPos_eq.trans h.readPos_eq
  readable_eq := by rw [h'.readable_eq, h.readable_eq, List.length_append, Nat.add_assoc]
  layout_eq := by
    have hlen : (r.contents ++ data).length = r.readableSize + data.length := by simp
    rw [h'.layout_eq, h.contents_eq, h.layout_eq, h.readable_eq, List.drop_append, hlen,
      List.drop_eq_nil_of_le (by rw [hlen]; omega), List.nil_append, List.drop_drop]
    simp [Nat.add_assoc]

/-- The resulting buffer is determined, block included. -/
theorem unique (h : Appended r r' data) (h' : Appended r r'' data) : r' = r'' := by
  have hcap : r'.capacity = r''.capacity := h.capacity_eq.trans h'.capacity_eq.symm
  have hread : r'.readPos = r''.readPos := h.readPos_eq.trans h'.readPos_eq.symm
  have hsize : r'.readableSize = r''.readableSize := h.readable_eq.trans h'.readable_eq.symm
  have hwrite : r'.writePos = r''.writePos := by
    rw [h.valid.writePos_eq, h'.valid.writePos_eq, hcap, hread, hsize]
  have hbuf : r'.buffer = r''.buffer := by
    apply eq_of_turn r'.readPos
    · rw [h.valid.length_eq, h'.valid.length_eq, hcap]
    · rw [h.valid.length_eq, h'.valid.length_eq, hread]
      have hl := h.layout_eq.trans h'.layout_eq.symm
      simpa only [layout, hread] using hl
  cases r'
  cases r''
  simp_all

end Appended

/-- Advancing the write position and the size by the length of data already placed. -/
theorem appended_of_layout (h : Valid r) {buffer : Bytes} (hlen : buffer.length = r.capacity)
    (hroom : r.readableSize + data.length ≤ r.capacity)
    (hturn : window buffer r.readPos r.capacity =
      r.contents ++ data ++ r.layout.drop (r.readableSize + data.length)) :
    Appended r { r with
      buffer := buffer
      writePos := Word.add 64 r.writePos data.length % r.capacity
      readableSize := Word.add 64 r.readableSize data.length } data := by
  have hcap := h.capacity_lt
  have hw := h.writePos_lt
  rw [Word.add_exact (by omega), Word.add_exact (by omega)]
  refine ⟨⟨h.capacity_pos, hcap, hlen, h.readPos_lt, hroom, ?_⟩, rfl, rfl, rfl, hturn⟩
  rw [h.writePos_eq, Nat.mod_add_mod, Nat.add_assoc]

/-- A contiguous store at the write position appends. -/
theorem turn_store (h : Valid r) (data : Bytes) (hroom : r.readableSize + data.length ≤ r.capacity)
    (hfit : r.writePos + data.length ≤ r.capacity) :
    (store r.buffer r.writePos data).length = r.capacity ∧
    window (store r.buffer r.writePos data) r.readPos r.capacity =
      r.contents ++ data ++ r.layout.drop (r.readableSize + data.length) := by
  have hlen := h.length_eq
  have hw : r.writePos = (r.readPos + r.readableSize) % r.buffer.length := by
    rw [hlen]; exact h.writePos_eq
  constructor
  · rw [length_store (by rw [hlen]; exact hfit), hlen]
  · have hturn := window_store r.buffer data r.readPos r.readableSize
      (by rw [hlen]; exact hroom) (by rw [← hw, hlen]; exact hfit)
    rw [← hw, hlen] at hturn
    rw [hturn, take_window _ _ h.readable_le]
    rfl

/-- `Write` of a batch that fits appends it. -/
theorem write_appended (h : Valid r) (hpos : 0 < data.length)
    (hfit : data.length ≤ r.capacity - r.readableSize) :
    (r.write data).2 = .ok ∧ Appended r (r.write data).1 data := by
  have hle := h.readable_le
  have hw := h.writePos_lt
  have hroom : r.readableSize + data.length ≤ r.capacity := by omega
  have hne : ¬ data.length = 0 := by omega
  have hnot : ¬ data.length > r.writableSize := by rw [h.writableSize_eq]; omega
  simp only [write, hne, hnot, ↓reduceIte, h.toEnd_write, true_and]
  by_cases hwrap : data.length > r.capacity - r.writePos
  · rw [if_pos hwrap]
    -- the first copy ends at the end of the block, so the second one starts its turn anew
    have hfirst : (data.take (r.capacity - r.writePos)).length = r.capacity - r.writePos := by
      rw [List.length_take]; omega
    obtain ⟨hlen₁, hturn₁⟩ := turn_store h (data.take (r.capacity - r.writePos))
      (by omega) (by omega)
    have hfirst_app := appended_of_layout h hlen₁ (by omega) hturn₁
    have hzero : Word.add 64 r.writePos
        (data.take (r.capacity - r.writePos)).length % r.capacity = 0 := by
      have hcap := h.capacity_lt
      rw [hfirst, Word.add_exact (by omega),
        show r.writePos + (r.capacity - r.writePos) = r.capacity by omega, Nat.mod_self]
    have hsize := hfirst_app.readable_eq
    have hsecond : (data.drop (r.capacity - r.writePos)).length =
        data.length - (r.capacity - r.writePos) := by rw [List.length_drop]
    obtain ⟨hlen₂, hturn₂⟩ := turn_store hfirst_app.valid
      (data.drop (r.capacity - r.writePos))
      (by rw [hsize, hfirst, hsecond]; show _ ≤ r.capacity; omega)
      (by show _ % r.capacity + _ ≤ r.capacity; rw [hzero, hsecond]; omega)
    have hboth := hfirst_app.trans (appended_of_layout hfirst_app.valid hlen₂
      (by rw [hsize, hfirst, hsecond]; show _ ≤ r.capacity; omega) hturn₂)
    rw [List.take_append_drop] at hboth
    have hturn := hboth.layout_eq
    simp only [layout, hzero] at hturn hlen₂
    exact appended_of_layout h hlen₂ hroom hturn
  · rw [if_neg hwrap]
    obtain ⟨hlen, hturn⟩ := turn_store h data hroom (by omega)
    exact appended_of_layout h hlen hroom hturn

/-- `Write` of any other batch fails and changes nothing. -/
theorem write_refused (h : Valid r)
    (hbad : ¬ (0 < data.length ∧ data.length ≤ r.capacity - r.readableSize)) :
    (r.write data).1 = r ∧ (r.write data).2.isOk = false := by
  simp only [write, h.writableSize_eq]
  by_cases hzero : data.length = 0
  · simp [hzero]
  · have hbig : data.length > r.capacity - r.readableSize := by omega
    simp [hzero, hbig]

/-- A direct fill within the contiguous space appends. -/
theorem fill_appended (h : Valid r) (hfit : data.length ≤ r.contiguousWritableSize) :
    Appended r (r.fill data) data := by
  have hw := h.writePos_lt
  have hle := h.readable_le
  rw [h.contiguousWritableSize_eq] at hfit
  have hroom : r.readableSize + data.length ≤ r.capacity := by omega
  obtain ⟨hlen, hturn⟩ := turn_store h data hroom (by omega)
  have hnot : ¬ data.length > ({ r with
      buffer := store r.buffer r.writePos data } : RingBuffer).writableSize := by
    show ¬ data.length > r.writableSize
    rw [h.writableSize_eq]
    omega
  simp only [fill, produce, if_neg hnot]
  exact appended_of_layout h hlen hroom hturn

/-- Under the invariant neither operation of `Consume` wraps. -/
theorem consume_eq (h : Valid r) (n : Nat) :
    r.consume n = { r with
      readPos := (r.readPos + min n r.readableSize) % r.capacity
      readableSize := r.readableSize - n } := by
  have hcap := h.capacity_lt
  have hle := h.readable_le
  have hread := h.readPos_lt
  have hclamp : (if n > r.readableSize then r.readableSize else n) = min n r.readableSize := by
    split <;> omega
  have hsub : r.readableSize - min n r.readableSize = r.readableSize - n := by omega
  simp only [consume, hclamp]
  rw [Word.add_exact (by omega), Word.sub_exact (by omega) (by omega), hsub]

theorem consume_valid (h : Valid r) (n : Nat) : Valid (r.consume n) := by
  have hle := h.readable_le
  rw [consume_eq h]
  refine ⟨h.capacity_pos, h.capacity_lt, h.length_eq, Nat.mod_lt _ h.capacity_pos, ?_, ?_⟩
  · exact (Nat.sub_le _ _).trans hle
  · dsimp only
    rw [Nat.mod_add_mod, h.writePos_eq]
    congr 1
    omega

theorem consume_capacity (r : RingBuffer) (n : Nat) : (r.consume n).capacity = r.capacity := rfl

/-- `Consume` drops from the front, clamped to what is there. -/
theorem consume_contents (h : Valid r) (n : Nat) : (r.consume n).contents = r.contents.drop n := by
  have hlen := h.length_eq
  rw [consume_eq h]
  simp only [contents]
  rw [← hlen, window_mod]
  by_cases hn : n ≤ r.readableSize
  · rw [Nat.min_eq_left hn, drop_window _ _ hn]
  · rw [Nat.sub_eq_zero_of_le (by omega), window_zero, List.drop_eq_nil_of_le (by simp; omega)]

/-- The readable bytes as the two copies `Peek` makes. -/
theorem take_contents (h : Valid r) {n : Nat} (hn : n ≤ r.readableSize) :
    r.contents.take n =
      if n > r.capacity - r.readPos then
        slice r.buffer r.readPos (r.capacity - r.readPos) ++
          slice r.buffer 0 (n - (r.capacity - r.readPos))
      else slice r.buffer r.readPos n := by
  have hlen := h.length_eq
  have hread := h.readPos_lt
  have hle := h.readable_le
  rw [contents, take_window _ _ hn]
  split
  · rw [window_wrapped (by omega) (by omega) (by omega), hlen]
  · rw [window_contiguous (by omega)]

theorem peek_spec (h : Valid r) {n : Nat} (hpos : 0 < n) (hn : n ≤ r.readableSize) :
    r.peek n = .ok (r.contents.take n) := by
  have hle := h.readable_le
  have hcap := h.capacity_lt
  have hne : ¬ n = 0 := by omega
  have hnot : ¬ n > r.readableSize := by omega
  rw [take_contents h hn]
  simp only [peek, hne, hnot, ↓reduceIte, h.toEnd_read]
  split
  · rw [Word.sub_exact (by omega) (by omega)]
  · rfl

theorem peek_refused {n : Nat} (hbad : ¬ (0 < n ∧ n ≤ r.readableSize)) :
    ∃ st, r.peek n = .error st := by
  by_cases hzero : n = 0
  · exact ⟨.invalidArgument "invalid data or size", by simp [peek, hzero]⟩
  · exact ⟨.error "not enough data", by
      simp [peek, hzero, show n > r.readableSize by omega]⟩

/-- The segments lie inside the block and concatenate to the contents. -/
theorem getReadableIoVec_spec (h : Valid r) :
    (∀ seg ∈ r.getReadableIoVec, seg.1 + seg.2 ≤ r.capacity) ∧
      (r.gather r.getReadableIoVec).flatten = r.contents := by
  have hle := h.readable_le
  have hcap := h.capacity_lt
  have hread := h.readPos_lt
  have hall : r.contents.take r.readableSize = r.contents := by
    rw [List.take_of_length_le (by simp)]
  by_cases hzero : r.readableSize = 0
  · have hnil : r.contents = [] := by
      apply List.eq_nil_of_length_eq_zero
      rw [length_contents, hzero]
    simp [getReadableIoVec, hzero, gather, hnil]
  · rw [← hall, take_contents h le_rfl]
    simp only [getReadableIoVec, hzero, ↓reduceIte, h.contiguousReadableSize_eq]
    rw [Word.sub_exact (Nat.min_le_left _ _) (by omega)]
    by_cases hwrap : r.readableSize > r.capacity - r.readPos
    · rw [Nat.min_eq_right (by omega)]
      simp only [hwrap, ↓reduceIte, show r.readableSize - (r.capacity - r.readPos) > 0 by omega]
      refine ⟨?_, by simp [gather]⟩
      intro seg hseg
      simp only [List.mem_cons, List.not_mem_nil, or_false] at hseg
      rcases hseg with rfl | rfl <;> dsimp only <;> omega
    · rw [Nat.min_eq_left (by omega)]
      simp only [hwrap, ↓reduceIte, Nat.sub_self, Nat.lt_irrefl, gt_iff_lt]
      refine ⟨?_, by simp [gather]⟩
      intro seg hseg
      simp only [List.mem_singleton] at hseg
      subst hseg
      dsimp only
      omega

/-- What a client can do with a buffer. -/
inductive Op where
  | write (data : Bytes)
  | consume (n : Nat)
  | fill (data : Bytes)
  | peek (n : Nat)
  | getReadableIoVec
  deriving DecidableEq, Repr

/-- The effect of one operation. A direct fill stores at most
`ContiguousWritableSize()` bytes; a longer one is not a step. -/
def step (r : RingBuffer) : Op → Option RingBuffer
  | .write data => some (r.write data).1
  | .consume n => some (r.consume n)
  | .fill data => if data.length ≤ r.contiguousWritableSize then some (r.fill data) else none
  | .peek _ => some r
  | .getReadableIoVec => some r

/-- The same operation on the abstract queue. -/
def fifoStep (q : Fifo UInt8) : Op → Option (Fifo UInt8)
  | .write data => some ((q.push data).getD q)
  | .consume n => some (q.pop n)
  | .fill data => if data.length = 0 then some q else q.push data
  | .peek _ => some q
  | .getReadableIoVec => some q

/-- The buffer holds the queue. -/
structure Represents (r : RingBuffer) (q : Fifo UInt8) : Prop where
  valid : Valid r
  capacity_eq : q.capacity = r.capacity
  contents_eq : q.contents = r.contents

theorem Represents.room_eq {q : Fifo UInt8} (h : Represents r q) :
    q.room = r.capacity - r.readableSize := by
  rw [Fifo.room, h.capacity_eq, h.contents_eq, length_contents]

theorem Represents.append {q : Fifo UInt8} (h : Represents r q) (happ : Appended r r' data)
    (hpos : 0 < data.length) : ∃ q', q.push data = some q' ∧ Represents r' q' := by
  have hroom := happ.room
  obtain ⟨q', hq', hcap, hcont⟩ := Fifo.push_of_fits (q := q) hpos (by rw [h.room_eq]; omega)
  refine ⟨q', hq', happ.valid, ?_, ?_⟩
  · rw [hcap, h.capacity_eq, happ.capacity_eq]
  · rw [hcont, h.contents_eq, happ.contents_eq]

/-- One operation on the buffer is the same operation on the queue. -/
theorem represents_step {q : Fifo UInt8} (op : Op) (h : Represents r q)
    (hstep : r.step op = some r') : ∃ q', fifoStep q op = some q' ∧ Represents r' q' := by
  cases op with
  | write data =>
    obtain rfl := Option.some.inj hstep
    by_cases hfit : 0 < data.length ∧ data.length ≤ r.capacity - r.readableSize
    · obtain ⟨q', hq', hR⟩ := h.append (write_appended h.valid hfit.1 hfit.2).2 hfit.1
      exact ⟨q', by simp [fifoStep, hq'], hR⟩
    · have hpush : q.push data = none := Fifo.push_of_not_fits (by rwa [h.room_eq])
      rw [(write_refused h.valid hfit).1]
      exact ⟨q, by simp [fifoStep, hpush], h⟩
  | consume n =>
    obtain rfl := Option.some.inj hstep
    refine ⟨q.pop n, rfl, consume_valid h.valid n, h.capacity_eq, ?_⟩
    rw [consume_contents h.valid, ← h.contents_eq]
    rfl
  | fill data =>
    simp only [step] at hstep
    split at hstep
    · rename_i hfit
      obtain rfl := Option.some.inj hstep
      have happ := fill_appended h.valid hfit
      by_cases hzero : data.length = 0
      · refine ⟨q, by simp [fifoStep, hzero], happ.valid, ?_, ?_⟩
        · rw [h.capacity_eq, happ.capacity_eq]
        · rw [happ.contents_eq, List.eq_nil_of_length_eq_zero hzero, List.append_nil, h.contents_eq]
      · obtain ⟨q', hq', hR⟩ := h.append happ (by omega)
        exact ⟨q', by simp [fifoStep, hzero, hq'], hR⟩
    · cases hstep
  | peek n =>
    obtain rfl := Option.some.inj hstep
    exact ⟨q, rfl, h⟩
  | getReadableIoVec =>
    obtain rfl := Option.some.inj hstep
    exact ⟨q, rfl, h⟩

theorem step_capacity {op : Op} (h : r.step op = some r') : r'.capacity = r.capacity := by
  cases op with
  | write data =>
    obtain rfl := Option.some.inj h
    simp only [write]
    split
    · rfl
    · split <;> rfl
  | fill data =>
    simp only [step] at h
    split at h
    · obtain rfl := Option.some.inj h
      rfl
    · cases h
  | _ =>
    obtain rfl := Option.some.inj h
    rfl

/-- The contract of the buffer in terms of its counters and its logical contents. -/
structure ActsAsFifo (r : RingBuffer) : Prop where
  block : r.buffer.length = r.capacity
  writePos_eq : r.writePos = (r.readPos + r.readableSize) % r.capacity
  readPos_lt : r.readPos < r.capacity
  writePos_lt : r.writePos < r.capacity
  readable_le : r.readableSize ≤ r.capacity
  write_fits : ∀ data : Bytes, 0 < data.length → data.length ≤ r.capacity - r.contents.length →
    (r.write data).2.isOk = true ∧ (r.write data).1.contents = r.contents ++ data
  write_fails : ∀ data : Bytes, ¬ (0 < data.length ∧ data.length ≤ r.capacity - r.contents.length) →
    (r.write data).2.isOk = false ∧ (r.write data).1.contents = r.contents
  fill_appends : ∀ data : Bytes, data.length ≤ r.contiguousWritableSize →
    (r.fill data).contents = r.contents ++ data
  consume_drops : ∀ n, (r.consume n).contents = r.contents.drop (min n r.contents.length)
  peek_takes : ∀ n, 0 < n → n ≤ r.contents.length → r.peek n = .ok (r.contents.take n)
  iovec_inside : ∀ seg ∈ r.getReadableIoVec, seg.1 + seg.2 ≤ r.capacity
  iovec_concat : (r.gather r.getReadableIoVec).flatten = r.contents

theorem Valid.actsAsFifo (h : Valid r) : ActsAsFifo r where
  block := h.length_eq
  writePos_eq := h.writePos_eq
  readPos_lt := h.readPos_lt
  writePos_lt := h.writePos_lt
  readable_le := h.readable_le
  write_fits := by
    intro data hpos hfit
    rw [length_contents] at hfit
    obtain ⟨hok, happ⟩ := write_appended h hpos hfit
    exact ⟨by rw [hok]; rfl, happ.contents_eq⟩
  write_fails := by
    intro data hbad
    rw [length_contents] at hbad
    obtain ⟨hsame, hst⟩ := write_refused h hbad
    exact ⟨hst, by rw [hsame]⟩
  fill_appends := fun _ hfit => (fill_appended h hfit).contents_eq
  consume_drops := by
    intro n
    rw [consume_contents h]
    by_cases hn : n ≤ r.contents.length
    · rw [Nat.min_eq_left hn]
    · rw [Nat.min_eq_right (by omega), List.drop_length, List.drop_eq_nil_of_le (by omega)]
  peek_takes := by
    intro n hpos hn
    rw [length_contents] at hn
    exact peek_spec h hpos hn
  iovec_inside := (getReadableIoVec_spec h).1
  iovec_concat := (getReadableIoVec_spec h).2

/-- **The ring buffer is a bounded FIFO.** From a fresh buffer of any size, every run
of operations keeps the contract, and ends with the contents the abstract queue has
after the same run. -/
theorem ringBuffer_refines_fifo (c : Nat) (hpos : 1 ≤ c) (hlt : c < 2 ^ 63)
    (garbage : Nat → UInt8) :
    ∃ r₀, create c garbage = some r₀ ∧
      ∀ (ops : List Op) (r : RingBuffer), Transition.run step r₀ ops = some r →
        r.capacity = c ∧ ActsAsFifo r ∧
          ∃ q, Transition.run fifoStep (Fifo.empty c) ops = some q ∧ q.contents = r.contents := by
  have hcreate : ∃ r₀, create c garbage = some r₀ := by
    simp only [create]
    rw [if_pos (by omega : c > 0), if_pos hlt]
    exact ⟨_, rfl⟩
  obtain ⟨r₀, h₀⟩ := hcreate
  obtain ⟨hvalid, hcap, hnil⟩ := create_valid h₀
  have hcap' : r₀.capacity = c := by omega
  refine ⟨r₀, h₀, fun ops r hrun => ?_⟩
  have hR : Represents r₀ (Fifo.empty c) := ⟨hvalid, hcap'.symm, hnil.symm⟩
  obtain ⟨q, hq, hRq⟩ := Transition.run_simulation
    (fun _ _ op _ h hs => represents_step op h hs) hR hrun
  have hkeep : r.capacity = c := Transition.run_invariant
    (fun _ _ _ h hs => (step_capacity hs).trans h) hcap' hrun
  exact ⟨hkeep, hRq.valid.actsAsFifo, q, hq, hRq.contents_eq⟩

/-- A run that wraps: the last write crosses the end of a block of four bytes. -/
theorem ringBuffer_wraps :
    ∃ r₀ r, create 4 (fun _ => 0) = some r₀ ∧
      Transition.run step r₀ [.write [1, 2, 3], .consume 2, .write [4, 5, 6]] = some r ∧
      r.buffer = [5, 6, 3, 4] ∧ r.contents = [3, 4, 5, 6] ∧ ActsAsFifo r := by
  obtain ⟨r₀, h₀, hall⟩ := ringBuffer_refines_fifo 4 (by decide) (by decide) (fun _ => 0)
  refine ⟨r₀, ⟨[5, 6, 3, 4], 4, 2, 2, 4⟩, h₀, ?_, rfl, by decide, ?_⟩
  · obtain rfl := Option.some.inj h₀
    decide
  · refine (hall [.write [1, 2, 3], .consume 2, .write [4, 5, 6]] _ ?_).2.1
    obtain rfl := Option.some.inj h₀
    decide

end RtspForward.RingBuffer
