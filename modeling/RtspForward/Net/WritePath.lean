import RtspForward.Buffer.Refinement
import RtspForward.Rtp.RtpForwarder

/-!
# What the sending functions do to the outgoing stream

The outgoing stream of a connection is what the kernel has taken so far, followed by
the logical contents of the write buffer. `Send` and `SendV` choose between five
routes from the state before the call and the kernel's answer alone; along each route
the bytes added to the stream are computed here. The buffering loops of `SendV` stop
at the first entry the buffer refuses, so a vector that does not fit leaves a prefix
of its entries behind.
-/
namespace RtspForward.Connection

open Lib RingBuffer

variable {c : Connection} {w w' : RingBuffer} {data rest v : Bytes} {iov : List Bytes}

theorem create_spec {fd : Int} {bufferSize : Nat} {garbage : Nat → UInt8}
    (h : create fd bufferSize garbage = some c) :
    c.Valid ∧ c.writeBuffer.contents = [] := by
  unfold create at h
  split at h
  · rename_i r w hr hw
    obtain rfl := Option.some.inj h
    exact ⟨⟨(create_valid hr).1, (create_valid hw).1⟩, (create_valid hw).2.2⟩
  · cases h

/-- Free space of the write buffer. -/
def room (c : Connection) : Nat := c.writeBuffer.capacity - c.writeBuffer.readableSize

/-- The ways `Send` and `SendV` deal with a message. -/
inductive Route where
  | nothing
  | direct
  | split (sent : Nat)
  | queue
  | refused
  deriving DecidableEq, Repr

/-- The route of a message of `total` bytes. -/
def route (c : Connection) (total : Nat) (o : WriteOutcome) : Route :=
  if c.isClosed ∨ total = 0 then .nothing
  else if c.writeBuffer.readableSize = 0 then
    match o with
    | .accepted n =>
      if min (max n 1) total < total then .split (min (max n 1) total) else .direct
    | .wouldBlock => .queue
    | .hardError => .refused
  else .queue

theorem route_split {total sent : Nat} {o : WriteOutcome} (h : c.route total o = .split sent) :
    0 < sent ∧ sent < total ∧ c.writeBuffer.readableSize = 0 := by
  unfold route at h
  split at h
  · cases h
  · split at h
    · rename_i hempty
      cases o with
      | accepted n =>
        simp only at h
        split at h
        · obtain rfl : min (max n 1) total = sent := by simpa using h
          omega
        · cases h
      | wouldBlock => cases h
      | hardError => cases h
    · cases h

theorem route_direct {total : Nat} {o : WriteOutcome} (h : c.route total o = .direct) :
    c.writeBuffer.readableSize = 0 := by
  unfold route at h
  split at h
  · cases h
  · split at h
    · assumption
    · cases h

theorem route_queue {total : Nat} {o : WriteOutcome} (hempty : c.writeBuffer.readableSize = 0)
    (h : c.route total o = .queue) : o = .wouldBlock := by
  unfold route at h
  rw [if_pos hempty] at h
  split at h
  · cases h
  · cases o with
    | accepted n =>
      simp only at h
      split at h <;> cases h
    | wouldBlock => rfl
    | hardError => cases h

/-- The result of sending `message` along its route. `after sent` is the buffering of
what follows the first `sent` bytes, `all` the buffering of the whole message. -/
def routed (c : Connection) (message : Bytes) (o : WriteOutcome) (call : WriteCall)
    (after : Nat → RingBuffer × Bool) (all : RingBuffer × Bool) : WriteResult :=
  let call := if c.writeBuffer.readableSize = 0 then some call else none
  match c.route message.length o with
  | .nothing => { conn := c, ret := 0 }
  | .direct => { conn := c, ret := message.length, accepted := message, call := call }
  | .split sent =>
    { conn := { c with writeBuffer := (after sent).1 },
      ret := if (after sent).2 then (message.length : Int) else sent,
      accepted := message.take sent, call := call }
  | .queue =>
    { conn := { c with writeBuffer := all.1 },
      ret := if all.2 then (message.length : Int) else -1, call := call }
  | .refused => { conn := c, ret := -1, call := call }

theorem routed_call (c : Connection) (message : Bytes) (o : WriteOutcome) (call : WriteCall)
    (after : Nat → RingBuffer × Bool) (all : RingBuffer × Bool) :
    (c.routed message o call after all).call =
      if c.isClosed = false ∧ 0 < message.length ∧ c.writeBuffer.readableSize = 0 then some call
      else none := by
  unfold routed route
  by_cases hnone : c.isClosed = true ∨ message.length = 0
  · have hidle : ¬ (c.isClosed = false ∧ 0 < message.length ∧
        c.writeBuffer.readableSize = 0) := by
      rintro ⟨hopen, hpos, -⟩
      rcases hnone with hclosed | hlen
      · simp [hopen] at hclosed
      · omega
    simp only [hnone, hidle, ↓reduceIte]
  · have hopen : c.isClosed = false ∧ 0 < message.length := by
      simp only [not_or, Bool.not_eq_true] at hnone
      exact ⟨hnone.1, by omega⟩
    simp only [hnone, ↓reduceIte]
    by_cases hempty : c.writeBuffer.readableSize = 0
    · simp only [hempty, hopen, ↓reduceIte, and_self]
      cases o with
      | accepted n =>
        by_cases hpart : min (max n 1) message.length < message.length
        · simp only [hpart, ↓reduceIte]
        · simp only [hpart, ↓reduceIte]
      | wouldBlock => rfl
      | hardError => rfl
    · simp only [hempty, ↓reduceIte, and_false]

/-- `Send` along its route. -/
theorem send_routed (c : Connection) (data : Bytes) (o : WriteOutcome) :
    c.send data o = c.routed data o { site := .send, fd := c.fd, bytes := data }
      (fun sent => ((c.writeBuffer.write (data.drop sent)).1,
        (c.writeBuffer.write (data.drop sent)).2.isOk))
      ((c.writeBuffer.write data).1, (c.writeBuffer.write data).2.isOk) := by
  unfold send routed route bufferMessage
  by_cases hclosed : c.isClosed = true
  · simp [hclosed]
  · by_cases hlen : data.length = 0
    · simp [hlen]
    · simp only [hclosed, hlen, ↓reduceIte, or_self, Bool.false_eq_true]
      by_cases hempty : c.writeBuffer.readableSize = 0
      · simp only [hempty, ↓reduceIte]
        cases o with
        | accepted n =>
          simp only [WriteOutcome.answer]
          by_cases hpart : min (max n 1) data.length < data.length
          · simp only [hpart, ↓reduceIte]
            split <;> simp_all
          · have hall : data.take (min (max n 1) data.length) = data :=
              List.take_of_length_le (by omega)
            simp only [hpart, ↓reduceIte, hall]
        | wouldBlock =>
          simp only [WriteOutcome.answer]
          split <;> simp_all
        | hardError => rfl
      · simp only [hempty, ↓reduceIte]
        split <;> simp_all

/-- `SendV` along its route, when the total is the sum of the entry lengths. -/
theorem sendV_routed (c : Connection) (iov : List Bytes) (o : WriteOutcome) :
    c.sendV iov iov.flatten.length o =
      c.routed iov.flatten o { site := .writev, fd := c.fd, bytes := iov.flatten }
        (fun sent => bufferFrom c.writeBuffer sent iov) (bufferAll c.writeBuffer iov) := by
  unfold sendV routed route bufferVector
  by_cases hclosed : c.isClosed = true
  · simp [hclosed]
  · by_cases hlen : iov.flatten.length = 0
    · simp [hlen]
    · have hiov : ¬ iov.length = 0 := by
        intro h
        rw [List.eq_nil_of_length_eq_zero h] at hlen
        exact hlen rfl
      simp only [hclosed, hlen, hiov, ↓reduceIte, or_self, Bool.false_eq_true]
      by_cases hempty : c.writeBuffer.readableSize = 0
      · simp only [hempty, ↓reduceIte]
        cases o with
        | accepted n =>
          -- the vector is not empty, so the count is a successor
          obtain ⟨k, hk⟩ : ∃ k, min (max n 1) iov.flatten.length = k + 1 :=
            ⟨min (max n 1) iov.flatten.length - 1, by omega⟩
          simp only [WriteOutcome.answer, hk]
          by_cases hpart : k + 1 < iov.flatten.length
          · simp only [hpart, ↓reduceIte]
            split <;> simp_all
          · have hall : iov.flatten.take (k + 1) = iov.flatten :=
              List.take_of_length_le (by omega)
            simp only [hpart, ↓reduceIte, hall]
        | wouldBlock =>
          simp only [WriteOutcome.answer]
          split <;> simp_all
        | hardError => rfl
      · simp only [hempty, ↓reduceIte]
        split <;> simp_all

theorem send_call (c : Connection) (data : Bytes) (o : WriteOutcome) :
    (c.send data o).call =
      if c.isClosed = false ∧ 0 < data.length ∧ c.writeBuffer.readableSize = 0 then
        some { site := .send, fd := c.fd, bytes := data }
      else none := by
  rw [send_routed, routed_call]

theorem flush_call (c : Connection) (o : WriteOutcome) :
    (c.flush o).call =
      if c.isClosed = false ∧ 0 < c.writeBuffer.getReadableIoVec.length then
        some { site := if c.writeBuffer.getReadableIoVec.length = 1 then .send else .writev,
               fd := c.fd,
               bytes := (c.writeBuffer.gather c.writeBuffer.getReadableIoVec).flatten }
      else none := by
  unfold flush
  by_cases hclosed : c.isClosed = true
  · simp [hclosed]
  · by_cases hlen : c.writeBuffer.getReadableIoVec.length = 0
    · simp [hlen]
    · have hpos : 0 < c.writeBuffer.getReadableIoVec.length := by omega
      simp only [hclosed, hlen, hpos, Bool.false_eq_true, ↓reduceIte, and_self]
      cases o <;> rfl

theorem appended_nil (h : w.Valid) : Appended w w [] where
  valid := h
  capacity_eq := rfl
  readPos_eq := rfl
  readable_eq := rfl
  layout_eq := by
    rw [List.append_nil, List.length_nil, Nat.add_zero, ← h.take_layout, List.take_append_drop]

/-- The result of a buffering loop over `data` whose first entry has `head` bytes: all of
it when it fits, and otherwise a proper prefix, empty exactly when the first entry
itself is too long. -/
def Buffered (w : RingBuffer) (res : RingBuffer × Bool) (data : Bytes) (head : Nat) : Prop :=
  (res.2 = true ∧ data.length ≤ w.capacity - w.readableSize ∧ Appended w res.1 data) ∨
  (res.2 = false ∧ w.capacity - w.readableSize < data.length ∧
    ∃ k < data.length, Appended w res.1 (data.take k) ∧
      (k = 0 ↔ w.capacity - w.readableSize < head))

/-- A single `Write` of a non-empty entry. -/
theorem write_buffered (h : w.Valid) (hv : 0 < v.length) :
    Buffered w ((w.write v).1, (w.write v).2.isOk) v v.length := by
  by_cases hfit : v.length ≤ w.capacity - w.readableSize
  · obtain ⟨hok, happ⟩ := write_appended h hv hfit
    exact .inl ⟨by simp [hok], hfit, happ⟩
  · obtain ⟨hsame, hst⟩ := write_refused h (fun hc => hfit hc.2)
    refine .inr ⟨hst, by omega, 0, hv, ?_, by omega⟩
    rw [hsame]
    exact appended_nil h

/-- One turn of a buffering loop: write an entry, go on with the rest if it was taken,
and stop otherwise. -/
theorem buffered_cons {loop : RingBuffer → RingBuffer × Bool} {head : Nat} (h : w.Valid)
    (hv : 0 < v.length) (hrest : ∀ w', w'.Valid → Buffered w' (loop w') rest head) :
    Buffered w (if (w.write v).2.isOk then loop (w.write v).1 else ((w.write v).1, false))
      (v ++ rest) v.length := by
  rcases write_buffered h hv with ⟨hok, hfit, happ⟩ | ⟨hno, hlong, k, hk, happ, hzero⟩
  · rw [if_pos hok]
    have hroom : (w.write v).1.capacity - (w.write v).1.readableSize =
        w.capacity - w.readableSize - v.length := by
      rw [happ.capacity_eq, happ.readable_eq]
      omega
    rcases hrest (w.write v).1 happ.valid with ⟨hok', hfit', happ'⟩ | ⟨hno', hlong', k, hk, happ', -⟩
    · refine .inl ⟨hok', ?_, happ.trans happ'⟩
      rw [List.length_append]
      omega
    · refine .inr ⟨hno', by rw [List.length_append]; omega, v.length + k,
        by rw [List.length_append]; omega, ?_, by omega⟩
      rw [List.take_length_add_append]
      exact happ.trans happ'
  · simp only at hno
    rw [if_neg (by simp [hno])]
    refine .inr ⟨rfl, by rw [List.length_append]; omega, k, by rw [List.length_append]; omega, ?_,
      hzero⟩
    rw [List.take_append_of_le_length (by omega)]
    exact happ

theorem buffered_nil (h : w.Valid) (head : Nat) : Buffered w (w, true) [] head :=
  .inl ⟨rfl, by simp, appended_nil h⟩

theorem bufferRest_buffered (hne : ∀ v ∈ iov, 0 < v.length) :
    ∀ {w : RingBuffer}, w.Valid →
      Buffered w (bufferRest w iov) iov.flatten (iov.headD []).length := by
  induction iov with
  | nil => exact fun h => buffered_nil h _
  | cons v iov ih =>
    intro w h
    have hv : 0 < v.length := hne v (by simp)
    exact buffered_cons h hv fun _ => ih fun u hu => hne u (by simp [hu])

/-- On entries that are all non-empty the two loops agree. -/
theorem bufferAll_eq (hne : ∀ v ∈ iov, 0 < v.length) :
    ∀ w : RingBuffer, bufferAll w iov = bufferRest w iov := by
  induction iov with
  | nil => exact fun _ => rfl
  | cons v iov ih =>
    intro w
    have hv : v.length > 0 := hne v (by simp)
    simp only [bufferAll, bufferRest, if_pos hv]
    rw [ih fun u hu => hne u (by simp [hu])]

/-- The split point is found in the entry that holds byte `skip`. -/
theorem bufferFrom_buffered (hne : ∀ v ∈ iov, 0 < v.length) (h : w.Valid) :
    ∀ {skip : Nat}, skip < iov.flatten.length →
      ∃ head, Buffered w (bufferFrom w skip iov) (iov.flatten.drop skip) head := by
  induction iov with
  | nil => intro skip hs; simp at hs
  | cons v iov ih =>
    intro skip hs
    have hne' : ∀ u ∈ iov, 0 < u.length := fun u hu => hne u (by simp [hu])
    simp only [bufferFrom]
    by_cases hin : skip < v.length
    · rw [if_pos hin, List.flatten_cons, List.drop_append_of_le_length hin.le]
      have hv : 0 < (v.drop skip).length := by rw [List.length_drop]; omega
      exact ⟨_, buffered_cons h hv fun _ => bufferRest_buffered hne'⟩
    · rw [if_neg hin]
      have hs' : skip - v.length < iov.flatten.length := by
        rw [List.flatten_cons, List.length_append] at hs
        omega
      have hdrop : (v :: iov).flatten.drop skip = iov.flatten.drop (skip - v.length) := by
        rw [List.flatten_cons, List.drop_append, List.drop_eq_nil_of_le (by omega), List.nil_append]
      rw [hdrop]
      exact ih hne' hs'

/-- The bytes a call adds to the outgoing stream: the old buffer contents followed by
them are the bytes the kernel took followed by the new buffer contents. -/
structure Adds (c : Connection) (res : WriteResult) (part : Bytes) : Prop where
  valid : res.conn.Valid
  fd_eq : res.conn.fdGuard = c.fdGuard
  capacity_eq : res.conn.writeBuffer.capacity = c.writeBuffer.capacity
  balance : c.writeBuffer.contents ++ part = res.accepted ++ res.conn.writeBuffer.contents

theorem Adds.unique {res : WriteResult} {part part' : Bytes} (h : Adds c res part)
    (h' : Adds c res part') : part = part' :=
  List.append_cancel_left (h.balance.trans h'.balance.symm)

theorem contents_nil (h : w.readableSize = 0) : w.contents = [] :=
  List.eq_nil_of_length_eq_zero (by rw [length_contents, h])

theorem adds_unchanged (h : c.Valid) (ret : Int) (call : Option WriteCall) :
    Adds c { conn := c, ret := ret, call := call } [] :=
  ⟨h, rfl, rfl, by simp⟩

theorem adds_of_appended (h : c.Valid) (happ : Appended c.writeBuffer w' data) (ret : Int)
    (call : Option WriteCall) :
    Adds c { conn := { c with writeBuffer := w' }, ret := ret, call := call } data :=
  ⟨⟨h.read, happ.valid⟩, rfl, happ.capacity_eq, by simp [happ.contents_eq]⟩

/-- The kernel took a first piece from an empty buffer's caller, the rest was appended. -/
theorem adds_of_split (h : c.Valid) (hempty : c.writeBuffer.readableSize = 0) (data : Bytes)
    (happ : Appended c.writeBuffer w' rest) (ret : Int) (call : Option WriteCall) :
    Adds c { conn := { c with writeBuffer := w' }, ret := ret, accepted := data, call := call }
      (data ++ rest) :=
  ⟨⟨h.read, happ.valid⟩, rfl, happ.capacity_eq, by simp [happ.contents_eq, contents_nil hempty]⟩

/-- `Flush` moves bytes from the buffer to the kernel and adds nothing. -/
theorem flush_adds (h : c.Valid) (o : WriteOutcome) : Adds c (c.flush o) [] := by
  unfold flush
  split
  · exact adds_unchanged h 0 none
  · simp only
    split
    · exact adds_unchanged h 0 none
    · rw [(getReadableIoVec_spec h.write).2]
      cases o with
      | accepted n =>
        refine ⟨⟨h.read, consume_valid h.write _⟩, rfl, rfl, ?_⟩
        simp only [WriteOutcome.answer]
        rw [consume_contents h.write, List.take_append_drop, List.append_nil]
      | wouldBlock => exact adds_unchanged h 0 _
      | hardError => exact adds_unchanged h (-1) _

/-- What a call that offers `message` does, route by route. `head` is the length of the
first piece handed to the buffer. -/
def Effect (c : Connection) (message : Bytes) (head : Nat) (o : WriteOutcome)
    (res : WriteResult) : Prop :=
  match c.route message.length o with
  | .nothing => res.ret = 0 ∧ Adds c res []
  | .direct => res.ret = message.length ∧ Adds c res message
  | .split sent =>
    (message.length - sent ≤ c.room ∧ res.ret = message.length ∧ Adds c res message) ∨
    (c.room < message.length - sent ∧ res.ret = sent ∧
      ∃ k, sent ≤ k ∧ k < message.length ∧ Adds c res (message.take k))
  | .queue =>
    (message.length ≤ c.room ∧ res.ret = message.length ∧ Adds c res message) ∨
    (c.room < message.length ∧ res.ret = -1 ∧
      ∃ k < message.length, (k = 0 ↔ c.room < head) ∧ Adds c res (message.take k))
  | .refused => res.ret = -1 ∧ Adds c res []

theorem Effect.adds {message : Bytes} {head : Nat} {o : WriteOutcome} {res : WriteResult}
    (h : Effect c message head o res) : ∃ part, Adds c res part := by
  unfold Effect at h
  cases hroute : c.route message.length o with
  | nothing | direct | refused =>
    simp only [hroute] at h
    exact ⟨_, h.2⟩
  | split sent =>
    simp only [hroute] at h
    rcases h with ⟨-, -, hadds⟩ | ⟨-, -, k, -, -, hadds⟩ <;> exact ⟨_, hadds⟩
  | queue =>
    simp only [hroute] at h
    rcases h with ⟨-, -, hadds⟩ | ⟨-, -, k, -, -, hadds⟩ <;> exact ⟨_, hadds⟩

/-- The route and the two buffering loops decide the effect. -/
theorem routed_effect (h : c.Valid) {message : Bytes} {head : Nat} {o : WriteOutcome}
    {call : WriteCall} {after : Nat → RingBuffer × Bool} {all : RingBuffer × Bool}
    (hafter : ∀ sent, sent < message.length →
      ∃ head', Buffered c.writeBuffer (after sent) (message.drop sent) head')
    (hall : c.route message.length o = .queue → Buffered c.writeBuffer all message head) :
    Effect c message head o (c.routed message o call after all) := by
  unfold Effect routed
  cases hroute : c.route message.length o with
  | nothing => exact ⟨rfl, adds_unchanged h 0 none⟩
  | direct =>
    refine ⟨rfl, ?_⟩
    have hsplit := adds_of_split h (route_direct hroute) message (appended_nil h.write)
      message.length (some call)
    simp only [List.append_nil] at hsplit
    simpa [route_direct hroute] using hsplit
  | split sent =>
    obtain ⟨hpos, hlt, hempty⟩ := route_split hroute
    obtain ⟨head', hb⟩ := hafter sent hlt
    have hdrop : (message.drop sent).length = message.length - sent := List.length_drop
    rcases hb with ⟨hok, hfit, happ⟩ | ⟨hno, hlong, k, hk, happ, -⟩
    · refine .inl ⟨hdrop ▸ hfit, by simp [hok], ?_⟩
      have hadds := adds_of_split h hempty (message.take sent) happ
      rw [List.take_append_drop] at hadds
      exact hadds _ _
    · refine .inr ⟨hdrop ▸ hlong, by simp [hno], sent + k, by omega, by omega, ?_⟩
      rw [List.take_add]
      exact adds_of_split h hempty _ happ _ _
  | queue =>
    rcases hall hroute with ⟨hok, hfit, happ⟩ | ⟨hno, hlong, k, hk, happ, hzero⟩
    · exact .inl ⟨hfit, by simp [hok], adds_of_appended h happ _ _⟩
    · exact .inr ⟨hlong, by simp [hno], k, hk, hzero, adds_of_appended h happ _ _⟩
  | refused => exact ⟨rfl, adds_unchanged h (-1) _⟩

/-- `Send` hands its message to the buffer in one piece. -/
theorem send_effect (h : c.Valid) (data : Bytes) (o : WriteOutcome) :
    Effect c data data.length o (c.send data o) := by
  rw [send_routed]
  apply routed_effect h
  · intro sent hsent
    exact ⟨_, write_buffered h.write (by rw [List.length_drop]; omega)⟩
  · intro hroute
    apply write_buffered h.write
    by_contra hzero
    have hnil : data.length = 0 := by omega
    simp [route, hnil] at hroute

/-- `SendV` hands its entries to the buffer one by one. -/
theorem sendV_effect (h : c.Valid) (iov : List Bytes) (hne : ∀ v ∈ iov, 0 < v.length)
    (o : WriteOutcome) :
    Effect c iov.flatten (iov.headD []).length o (c.sendV iov iov.flatten.length o) := by
  rw [sendV_routed]
  apply routed_effect h
  · exact fun _ hsent => bufferFrom_buffered hne h.write hsent
  · intro _
    rw [bufferAll_eq hne]
    exact bufferRest_buffered hne h.write

/-- A message that fits is added whole by the calls that return its length, and not at
all by the others. -/
theorem Effect.adds_of_fits {message : Bytes} {head : Nat} {o : WriteOutcome}
    {res : WriteResult} (h : Effect c message head o res) (hfit : message.length ≤ c.room) :
    Adds c res (if res.ret = message.length then message else []) := by
  unfold Effect at h
  cases hroute : c.route message.length o with
  | nothing =>
    simp only [hroute] at h
    by_cases hzero : res.ret = message.length
    · have hnil : message = [] := List.eq_nil_of_length_eq_zero (by omega)
      rw [if_pos hzero, hnil]
      exact h.2
    · rw [if_neg hzero]
      exact h.2
  | direct =>
    simp only [hroute] at h
    rw [if_pos h.1]
    exact h.2
  | split sent =>
    simp only [hroute] at h
    rcases h with ⟨-, hret, hadds⟩ | ⟨hlong, -⟩
    · rw [if_pos hret]
      exact hadds
    · omega
  | queue =>
    simp only [hroute] at h
    rcases h with ⟨-, hret, hadds⟩ | ⟨hlong, -⟩
    · rw [if_pos hret]
      exact hadds
    · omega
  | refused =>
    simp only [hroute] at h
    rw [if_neg (by omega)]
    exact h.2

theorem Adds.needFlush_of_nil {res : WriteResult} (h : Adds c res [])
    (hneed : res.conn.needFlush = true) : c.needFlush = true := by
  have hbalance := congrArg List.length h.balance
  simp only [List.append_nil, List.length_append, length_contents] at hbalance
  simp only [needFlush, decide_eq_true_eq] at hneed ⊢
  omega

/-- A call that fails leaves new bytes in an empty buffer only when it queues a message that
is too long for it, with a first piece that is not. -/
theorem Effect.pending_of_failed {message : Bytes} {head : Nat} {o : WriteOutcome}
    {res : WriteResult} (h : Effect c message head o res) (hret : res.ret < 0)
    (hneed : res.conn.needFlush = true) :
    c.needFlush = true ∨
      (c.route message.length o = .queue ∧ c.room < message.length ∧ head ≤ c.room) := by
  unfold Effect at h
  cases hroute : c.route message.length o with
  | nothing | refused =>
    simp only [hroute] at h
    exact .inl (h.2.needFlush_of_nil hneed)
  | direct =>
    simp only [hroute] at h
    omega
  | split sent =>
    simp only [hroute] at h
    rcases h with ⟨-, hlen, -⟩ | ⟨-, hsent, -⟩ <;> omega
  | queue =>
    simp only [hroute] at h
    rcases h with ⟨-, hlen, -⟩ | ⟨hlong, -, k, -, hzero, hadds⟩
    · omega
    · by_cases hk : k = 0
      · subst hk
        exact .inl (hadds.needFlush_of_nil hneed)
      · refine .inr ⟨rfl, hlong, ?_⟩
        by_contra hhead
        exact hk (hzero.mpr (by omega))

/-- A proper non-empty prefix is neither nothing nor the whole message. -/
theorem take_ne {message : Bytes} {k : Nat} (hpos : 0 < k) (hlt : k < message.length) :
    ¬ (message.take k = [] ∨ message.take k = message) := by
  rintro (h | h)
  · have hlen := congrArg List.length h
    simp only [List.length_take, List.length_nil] at hlen
    omega
  · have hlen := congrArg List.length h
    simp only [List.length_take] at hlen
    omega

/-- The condition under which a message of `total` bytes stays whole: a partial write
leaves no more than the buffer holds, and a message that has to be queued fits, or is
refused with its first piece of `head` bytes already. -/
def keepsWhole (c : Connection) (total head : Nat) (o : WriteOutcome) : Bool :=
  match c.route total o with
  | .split sent => total - sent ≤ c.writeBuffer.capacity
  | .queue => total ≤ c.room || c.room < head
  | _ => true

/-- A call adds its whole message or nothing exactly under that condition. -/
theorem Effect.whole_iff {message : Bytes} {head : Nat} {o : WriteOutcome} {res : WriteResult}
    (h : Effect c message head o res) :
    (∃ part, (part = [] ∨ part = message) ∧ Adds c res part) ↔
      c.keepsWhole message.length head o = true := by
  unfold Effect at h
  unfold keepsWhole
  cases hroute : c.route message.length o with
  | nothing | refused =>
    simp only [hroute] at h
    exact ⟨fun _ => rfl, fun _ => ⟨[], .inl rfl, h.2⟩⟩
  | direct =>
    simp only [hroute] at h
    exact ⟨fun _ => rfl, fun _ => ⟨message, .inr rfl, h.2⟩⟩
  | split sent =>
    simp only [hroute, decide_eq_true_eq] at h ⊢
    obtain ⟨hpos, -, hempty⟩ := route_split hroute
    have hroom : c.room = c.writeBuffer.capacity := by rw [room, hempty, Nat.sub_zero]
    rw [← hroom]
    rcases h with ⟨hfit, -, hadds⟩ | ⟨hlong, -, k, hle, hk, hadds⟩
    · exact ⟨fun _ => hfit, fun _ => ⟨message, .inr rfl, hadds⟩⟩
    · refine ⟨fun ⟨part, hpart, hadds'⟩ => ?_, fun hfit => absurd hfit (by omega)⟩
      rw [hadds'.unique hadds] at hpart
      exact absurd hpart (take_ne (by omega) hk)
  | queue =>
    simp only [hroute, Bool.or_eq_true, decide_eq_true_eq] at h ⊢
    rcases h with ⟨hfit, -, hadds⟩ | ⟨hlong, -, k, hk, hzero, hadds⟩
    · exact ⟨fun _ => .inl hfit, fun _ => ⟨message, .inr rfl, hadds⟩⟩
    · by_cases hk0 : k = 0
      · refine ⟨fun _ => .inr (hzero.mp hk0), fun _ => ⟨[], .inl rfl, ?_⟩⟩
        simpa [hk0] using hadds
      · have hnot : ¬ (message.length ≤ c.room ∨ c.room < head) := by
          rw [← hzero]
          omega
        refine ⟨fun ⟨part, hpart, hadds'⟩ => ?_, fun hc => absurd hc hnot⟩
        rw [hadds'.unique hadds] at hpart
        exact absurd hpart (take_ne (by omega) hk)

/-- A message of `total` bytes is taken in full: by the kernel and then the empty buffer, or
by the free space behind what is still in the buffer. -/
def takesWhole (c : Connection) (total : Nat) (o : WriteOutcome) : Bool :=
  if c.writeBuffer.readableSize = 0 then
    match o with
    | .accepted n => total ≤ max n 1 + c.writeBuffer.capacity
    | .wouldBlock => total ≤ c.writeBuffer.capacity
    | .hardError => false
  else total ≤ c.room

/-- The condition, route by route. -/
theorem takesWhole_route {total : Nat} {o : WriteOutcome} (hopen : c.isClosed = false)
    (hpos : 0 < total) :
    c.takesWhole total o =
      match c.route total o with
      | .direct => true
      | .split sent => decide (total - sent ≤ c.room)
      | .queue => decide (total ≤ c.room)
      | .nothing | .refused => false := by
  have hgo : ¬ (c.isClosed = true ∨ total = 0) := by
    rw [hopen]
    simp only [Bool.false_eq_true, false_or]
    omega
  unfold takesWhole route
  rw [if_neg hgo]
  by_cases hempty : c.writeBuffer.readableSize = 0
  · have hroom : c.room = c.writeBuffer.capacity := by rw [room, hempty, Nat.sub_zero]
    rw [if_pos hempty, if_pos hempty, hroom]
    cases o with
    | accepted n =>
      by_cases hlt : min (max n 1) total < total
      · simp only [if_pos hlt, decide_eq_decide]
        omega
      · simp only [if_neg hlt, decide_eq_true_eq]
        omega
    | wouldBlock | hardError => rfl
  · rw [if_neg hempty, if_neg hempty]

/-- On an open connection a call adds its whole message exactly under that condition. -/
theorem Effect.adds_iff {message : Bytes} {head : Nat} {o : WriteOutcome} {res : WriteResult}
    (h : Effect c message head o res) (hopen : c.isClosed = false) (hpos : 0 < message.length) :
    Adds c res message ↔ c.takesWhole message.length o = true := by
  have hpart {k : Nat} (hk : k < message.length) (hadds : Adds c res (message.take k)) :
      ¬ Adds c res message := by
    intro hwhole
    have hlen := congrArg List.length (hwhole.unique hadds)
    simp only [List.length_take] at hlen
    omega
  unfold Effect at h
  rw [takesWhole_route hopen hpos]
  cases hroute : c.route message.length o with
  | nothing | refused =>
    simp only [hroute] at h
    exact iff_of_false (hpart hpos (by simpa using h.2)) (by simp)
  | direct =>
    simp only [hroute] at h
    exact iff_of_true h.2 rfl
  | split sent =>
    simp only [hroute, decide_eq_true_eq] at h ⊢
    rcases h with ⟨hfit, -, hadds⟩ | ⟨hlong, -, k, -, hk, hadds⟩
    · exact iff_of_true hadds hfit
    · exact iff_of_false (hpart hk hadds) (by omega)
  | queue =>
    simp only [hroute, decide_eq_true_eq] at h ⊢
    rcases h with ⟨hfit, -, hadds⟩ | ⟨hlong, -, k, hk, -, hadds⟩
    · exact iff_of_true hadds hfit
    · exact iff_of_false (hpart hk hadds) (by omega)

/-- Two loops over the same bytes that fit end in the same buffer. -/
theorem Buffered.unique {res res' : RingBuffer × Bool} {head head' : Nat}
    (h : Buffered w res data head) (h' : Buffered w res' data head')
    (hfit : data.length ≤ w.capacity - w.readableSize) : res = res' := by
  rcases h with ⟨hok, -, happ⟩ | ⟨-, hlong, -⟩
  · rcases h' with ⟨hok', -, happ'⟩ | ⟨-, hlong, -⟩
    · exact Prod.ext (happ.unique happ') (hok.trans hok'.symm)
    · omega
  · omega

/-- The part of a result that matters to the stream and to the caller. -/
def WriteResult.observed (res : WriteResult) : Connection × Int × Bytes :=
  (res.conn, res.ret, res.accepted)

theorem routed_congr {message : Bytes} {o : WriteOutcome} {call call' : WriteCall}
    {after after' : Nat → RingBuffer × Bool} {all all' : RingBuffer × Bool}
    (hafter : ∀ sent, sent < message.length → after sent = after' sent)
    (hall : 0 < message.length → all = all') :
    WriteResult.observed (c.routed message o call after all) =
      WriteResult.observed (c.routed message o call' after' all') := by
  unfold routed WriteResult.observed
  cases hroute : c.route message.length o with
  | nothing | direct | refused => rfl
  | split sent => simp only [hafter sent (route_split hroute).2.1]
  | queue =>
    have hpos : 0 < message.length := by
      by_contra hzero
      have hnil : message.length = 0 := by omega
      simp [route, hnil] at hroute
    simp only [hall hpos]

/-- A vector that fits is sent as its concatenation would be. -/
theorem sendV_observed (h : c.Valid) (iov : List Bytes) (hne : ∀ v ∈ iov, 0 < v.length)
    (hfit : iov.flatten.length ≤ c.room) (o : WriteOutcome) :
    WriteResult.observed (c.sendV iov iov.flatten.length o) =
      WriteResult.observed (c.send iov.flatten o) := by
  rw [sendV_routed, send_routed]
  apply routed_congr
  · intro sent hsent
    obtain ⟨head, hb⟩ := bufferFrom_buffered hne h.write hsent
    have hdrop : (iov.flatten.drop sent).length = iov.flatten.length - sent := List.length_drop
    apply hb.unique (write_buffered h.write (by omega))
    have hroom : iov.flatten.length ≤ c.writeBuffer.capacity - c.writeBuffer.readableSize := hfit
    omega
  · intro hpos
    rw [bufferAll_eq hne]
    exact (bufferRest_buffered hne h.write).unique (write_buffered h.write hpos) hfit

end RtspForward.Connection
