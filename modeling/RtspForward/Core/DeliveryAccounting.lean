import RtspForward.Core.SlowClients

/-!
# Delivery accounting

`BroadcastRtp` records a success for a session when `ForwardRtp` returns OK and a drop when it
does not, and `ForwardTcp` returns OK unless `SendV` returns a negative number. When the kernel
takes the first part of a frame and the rest of it does not fit the write buffer, `SendV`
returns the number of bytes the kernel has taken: a frame that is cut short is recorded as a
success. Otherwise the records are the outcomes of the deliveries, and the counter of a session
is the number of packets since the last one that was delivered.
-/
namespace RtspForward

open Lib

namespace RtpForwarder

/-- The whole frame of the packet is accepted by the kernel or queued in the write buffer. -/
def delivers (c : Connection) (p : RtpPacket) (o : WriteOutcome) : Bool :=
  let res := (forwardTcp c p o).1
  c.writeBuffer.contents ++ frame p = res.accepted ++ res.conn.writeBuffer.contents

/-- The kernel takes the first part of the frame, and what is left of it is more than the
write buffer holds. -/
def cutsShort (c : Connection) (p : RtpPacket) : WriteOutcome → Bool
  | .accepted n =>
    0 < p.data.length && p.data.length ≤ kMaxRtpPacketSize && c.writeBuffer.readableSize = 0 &&
      max n 1 + c.writeBuffer.capacity < 4 + p.data.length
  | .wouldBlock | .hardError => false

variable {c : Connection} {p : RtpPacket} {o : WriteOutcome}

open Connection

theorem route_nothing {total : Nat} (h : c.route total o = .nothing) :
    c.isClosed = true ∨ total = 0 := by
  unfold route at h
  split at h
  · assumption
  · split at h
    · cases o with
      | accepted n =>
        simp only at h
        split at h <;> cases h
      | wouldBlock | hardError => cases h
    · cases h

/-- The condition, route by route. -/
theorem cutsShort_route (hopen : c.isClosed = false) (hpos : 0 < p.data.length)
    (hmax : p.data.length ≤ kMaxRtpPacketSize) (o : WriteOutcome) :
    cutsShort c p o =
      match c.route (4 + p.data.length) o with
      | .split sent => decide (c.room < 4 + p.data.length - sent)
      | .nothing | .direct | .queue | .refused => false := by
  have hgo : ¬ (c.isClosed = true ∨ 4 + p.data.length = 0) := by
    rw [hopen]
    simp only [Bool.false_eq_true, false_or]
    omega
  unfold cutsShort route
  rw [if_neg hgo]
  by_cases hempty : c.writeBuffer.readableSize = 0
  · have hroom : c.room = c.writeBuffer.capacity := by rw [room, hempty, Nat.sub_zero]
    rw [if_pos hempty, hroom]
    cases o with
    | accepted n =>
      simp only [hpos, hmax, hempty, decide_true, Bool.true_and]
      by_cases hlt : min (max n 1) (4 + p.data.length) < 4 + p.data.length
      · simp only [if_pos hlt, decide_eq_decide]
        omega
      · simp only [if_neg hlt, decide_eq_false_iff_not]
        omega
    | wouldBlock | hardError => rfl
  · rw [if_neg hempty]
    cases o with
    | accepted n => simp [hempty]
    | wouldBlock | hardError => rfl

/-- A packet of the right size: the status is that of `SendV`'s answer. -/
theorem forwardTcp_status (hopen : c.isClosed = false) (hpos : 0 < p.data.length)
    (hmax : p.data.length ≤ kMaxRtpPacketSize) (o : WriteOutcome) :
    (forwardTcp c p o).2.isOk = decide (0 ≤ (forwardTcp c p o).1.ret) := by
  unfold forwardTcp
  rw [if_neg (by omega), if_neg (by simp [hopen]), if_neg (by omega)]
  simp only
  split
  · rename_i hneg
    exact (decide_eq_false (Int.not_le.mpr hneg)).symm
  · rename_i hret
    exact (decide_eq_true (Int.not_lt.mp hret)).symm

/-- The frame is in the outgoing stream when the call adds all of it. -/
theorem delivers_of_adds {part : Bytes} (h : Adds c (forwardTcp c p o).1 part) :
    delivers c p o = decide (part = frame p) := by
  simp only [delivers, ← h.balance, List.append_cancel_left_eq, eq_comm]

theorem take_ne_frame {k : Nat} (hk : k < 4 + p.data.length) : (frame p).take k ≠ frame p := by
  intro heq
  have hlen := congrArg List.length heq
  rw [List.length_take, Wire.length_frame] at hlen
  omega

theorem nil_ne_frame : [] ≠ frame p := by
  simp [frame, buildInterleavedHeader]

/-- A packet of the wrong size is neither sent nor delivered. -/
theorem forwardTcp_wrong_size (h : c.Valid)
    (hsize : ¬ (0 < p.data.length ∧ p.data.length ≤ kMaxRtpPacketSize)) (o : WriteOutcome) :
    (forwardTcp c p o).2.isOk = false ∧ delivers c p o = false ∧ cutsShort c p o = false := by
  rcases Wire.forwardTcp_cases c p o with ⟨-, hsame, hfail⟩ | ⟨hpos, hmax, -⟩
  · have hadds : Adds c (forwardTcp c p o).1 [] := hsame ▸ adds_unchanged h 0 none
    refine ⟨hfail, by rw [delivers_of_adds hadds, decide_eq_false nil_ne_frame], ?_⟩
    cases o with
    | accepted n => simp only [cutsShort, ← Bool.decide_and, decide_eq_false hsize, Bool.false_and]
    | wouldBlock | hardError => rfl
  · exact absurd ⟨hpos, hmax⟩ hsize

/-- `ForwardTcp` tells whether the frame is delivered, except when it is cut short. -/
theorem forwardTcp_isOk_iff (h : c.Valid) (hopen : c.isClosed = false) (o : WriteOutcome) :
    (forwardTcp c p o).2.isOk = delivers c p o ↔ cutsShort c p o = false := by
  by_cases hsize : 0 < p.data.length ∧ p.data.length ≤ kMaxRtpPacketSize
  · obtain ⟨hpos, hmax⟩ := hsize
    have hiff {part : Bytes} (hadds : Adds c (forwardTcp c p o).1 part) :
        (forwardTcp c p o).2.isOk = delivers c p o ↔
          (0 ≤ (forwardTcp c p o).1.ret ↔ part = frame p) := by
      rw [forwardTcp_status hopen hpos hmax, delivers_of_adds hadds, decide_eq_decide]
    have heffect := Wire.forwardTcp_effect h hpos hmax o
    unfold Effect at heffect
    rw [Wire.length_frame] at heffect
    rw [cutsShort_route hopen hpos hmax]
    cases hroute : c.route (4 + p.data.length) o with
    | nothing =>
      have hgo := route_nothing hroute
      simp only [hopen, Bool.false_eq_true, false_or] at hgo
      omega
    | direct =>
      simp only [hroute] at heffect
      rw [hiff heffect.2]
      exact iff_of_true (iff_of_true (by omega) rfl) rfl
    | split sent =>
      simp only [hroute, decide_eq_false_iff_not, Nat.not_lt] at heffect ⊢
      rcases heffect with ⟨hfit, hret, hadds⟩ | ⟨hlong, hret, k, -, hk, hadds⟩
      · rw [hiff hadds]
        exact iff_of_true (iff_of_true (by omega) rfl) hfit
      · rw [hiff hadds]
        refine iff_of_false (fun hok => ?_) (by omega)
        exact take_ne_frame hk (hok.mp (by omega))
    | queue =>
      simp only [hroute] at heffect
      rcases heffect with ⟨-, hret, hadds⟩ | ⟨-, hret, k, hk, -, hadds⟩
      · rw [hiff hadds]
        exact iff_of_true (iff_of_true (by omega) rfl) rfl
      · rw [hiff hadds]
        exact iff_of_true (iff_of_false (by omega) (take_ne_frame hk)) rfl
    | refused =>
      simp only [hroute] at heffect
      rw [hiff heffect.2]
      exact iff_of_true (iff_of_false (by omega) nil_ne_frame) rfl
  · obtain ⟨hfail, hlost, hwhole⟩ := forwardTcp_wrong_size h hsize o
    rw [hfail, hlost, hwhole]

end RtpForwarder

/-- The packets of a session since the last one that was delivered. -/
def undelivered (deliveries : List (Nat × Bool)) (sid : Nat) : Nat :=
  ((deliveries.filter fun d => d.1 = sid).reverse.takeWhile fun d => !d.2).length

namespace System

/-- The delivery a step attempts: the session, and whether its socket or its write buffer takes
the whole frame or datagram. -/
def delivery (s : System) : Label → Option (Nat × Bool)
  | .sendTo o =>
    match s.stream.pc with
    | .udp sid endpoint =>
      some (sid, (RtpForwarder.forwardUdp endpoint s.stream.packet o).1.isSome && o = .sent)
    | _ => none
  | .sendV o =>
    match s.stream.pc with
    | .tcp sid _ => (s.server.heap sid).map fun session =>
        (sid, RtpForwarder.delivers session.conn s.stream.packet o)
    | _ => none
  | _ => none

/-- The record a step makes: `RecordSuccess` or `RecordDrop`, and for which session. -/
def record (s : System) : Label → Option (Nat × Bool)
  | .recordSuccess =>
    match s.stream.pc with
    | .sent sid => some (sid, true)
    | _ => none
  | .recordDrop =>
    match s.stream.pc with
    | .failed sid => some (sid, false)
    | _ => none
  | _ => none

/-- The deliveries that the steps of a run attempt, in order. -/
def deliveries (taken : List (System × Label)) : List (Nat × Bool) :=
  taken.filterMap fun p => p.1.delivery p.2

/-- The records they make, in order. -/
def records (taken : List (System × Label)) : List (Nat × Bool) :=
  taken.filterMap fun p => p.1.record p.2

/-- The records that have been made and the one that is next are the outcomes of the deliveries,
one for one, and the counter of a session with no record outstanding is the number of packets
since the last one that was delivered. -/
structure Accounted (s : System) (taken : List (System × Label)) : Prop where
  records : records taken ++ s.stream.pc.verdict.toList = deliveries taken
  drops : ∀ sid x, s.server.heap sid = some x → (∀ ok, s.stream.pc.verdict ≠ some (sid, ok)) →
    x.conn.consecutiveDrops = Int.bmod (undelivered (deliveries taken) sid) (2 ^ 32)

/-- The step cuts a frame short. -/
def cutsShort (s : System) : Label → Bool
  | .sendV o =>
    match s.stream.pc with
    | .tcp sid _ => (s.server.heap sid).any fun session =>
        RtpForwarder.cutsShort session.conn s.stream.packet o
    | _ => false
  | _ => false

end System

/-! ## Counting -/

theorem undelivered_concat (deliveries : List (Nat × Bool)) (d : Nat × Bool) (sid : Nat) :
    undelivered (deliveries ++ [d]) sid =
      if d.1 = sid then (if d.2 then 0 else undelivered deliveries sid + 1)
      else undelivered deliveries sid := by
  unfold undelivered
  by_cases hsid : d.1 = sid
  · cases hok : d.2 <;> simp [hsid, hok, List.filter_append]
  · simp [hsid, List.filter_append]

theorem undelivered_eq_zero {deliveries : List (Nat × Bool)} {sid : Nat}
    (h : ∀ d ∈ deliveries, d.1 ≠ sid) : undelivered deliveries sid = 0 := by
  have hnone : (deliveries.filter fun d => d.1 = sid) = [] :=
    List.filter_eq_nil_iff.mpr fun d hd => by simpa using h d hd
  rw [undelivered, hnone]
  rfl

theorem forwardUdp_isOk (e : UdpEndpoint) (p : RtpPacket) (o : SendToOutcome) :
    (RtpForwarder.forwardUdp e p o).2.isOk =
      ((RtpForwarder.forwardUdp e p o).1.isSome && decide (o = .sent)) := by
  unfold RtpForwarder.forwardUdp
  split
  · rfl
  · cases o <;> rfl

namespace System

variable {s t : System} {l : Label} {taken : List (System × Label)}

theorem deliveries_concat (taken : List (System × Label)) (s : System) (l : Label) :
    deliveries (taken ++ [(s, l)]) = deliveries taken ++ (s.delivery l).toList := by
  cases h : s.delivery l <;> simp [deliveries, h]

theorem records_concat (taken : List (System × Label)) (s : System) (l : Label) :
    records (taken ++ [(s, l)]) = records taken ++ (s.record l).toList := by
  cases h : s.record l <;> simp [records, h]

theorem silent_none (hl : silent l = true) :
    s.delivery l = none ∧ s.record l = none ∧ s.cutsShort l = false := by
  cases l with
  | sendTo | sendV | recordDrop | recordSuccess => cases hl
  | _ => exact ⟨rfl, rfl, rfl⟩

/-- A step turns a delivery into a verdict and a verdict into a record; the verdict is that of
the delivery unless a frame is cut short. -/
theorem step_balance (h : s.Inv) (hstep : s.step l = some t) :
    (s.record l).toList ++ t.stream.pc.verdict.toList =
      s.stream.pc.verdict.toList ++ (s.delivery l).toList ↔ s.cutsShort l = false := by
  by_cases hl : silent l = true
  · obtain ⟨hdelivery, hrecord, hcut⟩ := silent_none (s := s) hl
    rw [step_verdict hstep hl, hdelivery, hrecord, hcut]
    simp
  · cases step_cases hstep with
    | @sendTo o sid endpoint hpc =>
      have hbefore : s.stream.pc.verdict = none := by rw [hpc]; rfl
      have hok := forwardUdp_isOk endpoint s.stream.packet o
      refine iff_of_true ?_ rfl
      rw [sendTo_verdict, hbefore, hok]
      simp [record, delivery, hpc]
    | @sendV o sid fd session hpc hs hanswer =>
      have hbefore : s.stream.pc.verdict = none := by rw [hpc]; rfl
      have hiff := RtpForwarder.forwardTcp_isOk_iff (p := s.stream.packet)
        (h.server.buffers sid session hs) (h.server.conn_open hs) o
      have hcut : s.cutsShort (.sendV o) =
          RtpForwarder.cutsShort session.conn s.stream.packet o := by
        simp [cutsShort, hpc, hs]
      rw [hcut, ← hiff, sendV_verdict, hbefore]
      simp [record, delivery, hpc, hs]
    | @recordDrop sid session hpc hs =>
      have hbefore : s.stream.pc.verdict = some (sid, false) := by rw [hpc]; rfl
      refine iff_of_true ?_ rfl
      rw [recordDrop_verdict, hbefore]
      simp [record, delivery, hpc]
    | @recordSuccess sid session hpc hs =>
      have hbefore : s.stream.pc.verdict = some (sid, true) := by rw [hpc]; rfl
      refine iff_of_true ?_ rfl
      rw [recordSuccess_verdict, hbefore]
      simp [record, delivery, hpc]
    | _ => exact absurd rfl hl

/-- The counters follow the records; the sessions recorded for are among those created. -/
structure Counted (s : System) (taken : List (System × Label)) : Prop where
  inv : s.Inv
  known : ∀ d ∈ records taken, d.1 < s.server.created
  drops : ∀ sid x, s.server.heap sid = some x →
    x.conn.consecutiveDrops = Int.bmod (undelivered (records taken) sid) (2 ^ 32)

theorem start_counted (config : Config) : (System.start config).Counted [] where
  inv := start_inv config
  known := by simp [records]
  drops := by simp [System.start, Server.start]

/-- A session that is there is among those created. -/
theorem Inv.lt_created (h : s.Inv) {sid : Nat} {x : RtspSession}
    (hx : s.server.heap sid = some x) : sid < s.server.created := by
  by_contra hge
  rw [h.server.fresh sid (Nat.not_lt.mp hge)] at hx
  cases hx

/-- A step that records nothing. -/
theorem Counted.keep (h : s.Counted taken) (hstep : s.step l = some t) (hrecord : s.record l = none)
    (hheap : s.KeepsDrops t) : t.Counted (taken ++ [(s, l)]) := by
  have hsame : records (taken ++ [(s, l)]) = records taken := by simp [records_concat, hrecord]
  refine ⟨step_inv h.inv hstep, fun d hd => ?_, fun a y hy => ?_⟩
  · exact (h.known d (hsame ▸ hd)).trans_le (step_fixed hstep).2
  · rw [hsame]
    rcases hheap a y hy with ⟨rfl, hzero⟩ | ⟨x, hx, heq⟩
    · rw [hzero, undelivered_eq_zero fun d hd => (h.known d hd).ne]
      rfl
    · rw [heq]
      exact h.drops a x hx

/-- A step that records a success or a drop. -/
theorem Counted.recorded (h : s.Counted taken) (hstep : s.step l = some t) {sid : Nat} {ok : Bool}
    {x y : RtspSession} (hrecord : s.record l = some (sid, ok)) (hx : s.server.heap sid = some x)
    (hheap : t.server.heap = (s.server.setSession sid y).heap)
    (hdrops : y.conn.consecutiveDrops =
      if ok then 0 else Int.bmod (x.conn.consecutiveDrops + 1) (2 ^ 32)) :
    t.Counted (taken ++ [(s, l)]) := by
  have hmore : records (taken ++ [(s, l)]) = records taken ++ [(sid, ok)] := by
    simp [records_concat, hrecord]
  refine ⟨step_inv h.inv hstep, fun d hd => ?_, fun a z hz => ?_⟩
  · rw [hmore, List.mem_append, List.mem_singleton] at hd
    rcases hd with hd | rfl
    · exact (h.known d hd).trans_le (step_fixed hstep).2
    · exact (h.inv.lt_created hx).trans_le (step_fixed hstep).2
  · rw [hheap] at hz
    rw [hmore, undelivered_concat]
    by_cases ha : a = sid
    · subst ha
      rw [Server.setSession_heap] at hz
      obtain rfl := Option.some.inj hz
      rw [if_pos rfl, hdrops]
      cases ok with
      | true => simp
      | false =>
        rw [h.drops a x hx]
        simp
    · rw [Server.setSession_heap_ne _ _ ha] at hz
      rw [if_neg (Ne.symm ha)]
      exact h.drops a z hz

/-- The counters follow the records in every step. -/
theorem step_counted (h : s.Counted taken) (hstep : s.step l = some t) :
    t.Counted (taken ++ [(s, l)]) := by
  by_cases hdrop : l = .recordDrop
  · subst hdrop
    cases step_cases hstep with
    | @recordDrop sid session hpc hs =>
      have hrecord : s.record .recordDrop = some (sid, false) := by simp [record, hpc]
      exact h.recorded hstep hrecord hs rfl rfl
  · by_cases hsuccess : l = .recordSuccess
    · subst hsuccess
      cases step_cases hstep with
      | @recordSuccess sid session hpc hs =>
        have hrecord : s.record .recordSuccess = some (sid, true) := by simp [record, hpc]
        exact h.recorded hstep hrecord hs rfl rfl
    · refine h.keep hstep ?_ (step_keepsDrops hstep hdrop hsuccess)
      cases l with
      | recordDrop => exact absurd rfl hdrop
      | recordSuccess => exact absurd rfl hsuccess
      | _ => rfl

/-- The records and the verdict that is outstanding are the outcomes of the deliveries. -/
def Balanced (s : System) (taken : List (System × Label)) : Prop :=
  records taken ++ s.stream.pc.verdict.toList = deliveries taken

theorem balanced_step (h : s.Inv) (hbalanced : s.Balanced taken) (hstep : s.step l = some t) :
    t.Balanced (taken ++ [(s, l)]) ↔ s.cutsShort l = false := by
  rw [← step_balance h hstep, Balanced, records_concat, deliveries_concat, ← hbalanced,
    List.append_assoc, List.append_assoc, List.append_cancel_left_eq]

theorem Counted.accounted (h : s.Counted taken) (hbalanced : s.Balanced taken) :
    s.Accounted taken where
  records := hbalanced
  drops sid x hx hnone := by
    rw [h.drops sid x hx, ← hbalanced]
    cases hverdict : s.stream.pc.verdict with
    | none => simp
    | some v =>
      have hne : v.1 ≠ sid := by
        rintro rfl
        exact hnone v.2 hverdict
      rw [Option.toList_some, undelivered_concat, if_neg hne]

/-- **Delivery accounting.** In every run the records of the broadcasts are the outcomes of the
deliveries, and the counter of a session is the number of packets since the last one that was
delivered, exactly when no step of the run cuts a frame short. -/
theorem delivery_accounting_iff (config : Config) (labels : List Label) (s : System)
    (hs : Transition.run step (System.start config) labels = some s) :
    (∀ done rest t, labels = done ++ rest →
      Transition.run step (System.start config) done = some t →
      t.Accounted (Transition.trace step (System.start config) done)) ↔
      Transition.Along step (fun s l => s.cutsShort l = false) (System.start config) labels := by
  refine Transition.along_iff_trace (I := fun s taken => s.Counted taken ∧ s.Balanced taken)
    (P := Accounted) ?_ ?_ ?_ [] ⟨start_counted config, rfl⟩ hs
  · intro s taken l t ⟨hcounted, hbalanced⟩ hcut hstep
    exact ⟨step_counted hcounted hstep, (balanced_step hcounted.inv hbalanced hstep).mpr hcut⟩
  · intro s taken ⟨hcounted, hbalanced⟩
    exact hcounted.accounted hbalanced
  · intro s taken l t ⟨hcounted, hbalanced⟩ hstep haccounted
    exact (balanced_step hcounted.inv hbalanced hstep).mp haccounted.records

/-- A player, a frame, and a packet that the socket refuses. -/
def deliversOnce : List Label :=
  playsTcp 7 ++ [.broadcast ⟨[1], 0⟩, .load 0, .sendV (.accepted 5), .recordSuccess, .finish,
    .broadcast ⟨[2], 0⟩, .load 0, .sendV .hardError, .recordDrop, .finish]

/-- One packet has been dropped since the last one that was delivered. -/
theorem delivery_accounting_plain :
    ∃ s x, Transition.run step (System.start smallConfig) deliversOnce = some s ∧
      s.server.heap 0 = some x ∧ x.conn.consecutiveDrops = 1 ∧
      ∀ done rest t, deliversOnce = done ++ rest →
        Transition.run step (System.start smallConfig) done = some t →
        t.Accounted (Transition.trace step (System.start smallConfig) done) := by
  have hrun : (Transition.run step (System.start smallConfig) deliversOnce).any (fun s =>
      (s.server.heap 0).any fun x => x.conn.consecutiveDrops = 1) = true := by
    decide
  obtain ⟨s, hs, hany⟩ := (Option.any_eq_true _ _).mp hrun
  obtain ⟨x, hx, hdrops⟩ := (Option.any_eq_true _ _).mp hany
  exact ⟨s, x, hs, hx, of_decide_eq_true hdrops,
    (delivery_accounting_iff smallConfig _ s hs).mpr (by decide)⟩

/-- A player, and a frame of 604 bytes of which the kernel takes one. -/
def cutFrame : List Label :=
  playsTcp 7 ++ [.broadcast ⟨List.replicate 600 0, 0⟩, .load 0, .sendV (.accepted 1),
    .recordSuccess]

/-- The other 603 bytes do not fit 512 bytes of write buffer. The frame is lost, and a success
is recorded. -/
theorem cut_frame_recorded :
    ∃ s x, Transition.run step (System.start smallConfig) cutFrame = some s ∧
      s.server.heap 0 = some x ∧ x.conn.consecutiveDrops = 0 ∧
      records (Transition.trace step (System.start smallConfig) cutFrame) = [(0, true)] ∧
      deliveries (Transition.trace step (System.start smallConfig) cutFrame) = [(0, false)] ∧
      ¬ s.Accounted (Transition.trace step (System.start smallConfig) cutFrame) := by
  have hrun : (Transition.run step (System.start smallConfig) cutFrame).any (fun s =>
      (s.server.heap 0).any fun x => x.conn.consecutiveDrops = 0) = true := by
    decide +kernel
  have hrecords : records (Transition.trace step (System.start smallConfig) cutFrame) =
      [(0, true)] := by decide +kernel
  have hdeliveries : deliveries (Transition.trace step (System.start smallConfig) cutFrame) =
      [(0, false)] := by decide +kernel
  obtain ⟨s, hs, hany⟩ := (Option.any_eq_true _ _).mp hrun
  obtain ⟨x, hx, hdrops⟩ := (Option.any_eq_true _ _).mp hany
  refine ⟨s, x, hs, hx, of_decide_eq_true hdrops, hrecords, hdeliveries, fun haccounted => ?_⟩
  have hrecs := haccounted.records
  rw [hrecords, hdeliveries] at hrecs
  simp at hrecs

end System

end RtspForward
