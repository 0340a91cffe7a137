import RtspForward.Core.SessionSteps
import RtspForward.Lib.Numerals

/-!
# Session ids

An id is the clock and the number of the session, both in hexadecimal, with nothing between
them. The number of a session is the count of sessions created before it; the clock may stand
still, but does not go back.
-/
namespace RtspForward

open Lib

namespace RtspSession

/-- The character of a hexadecimal digit. -/
def hexDigit (d : Nat) : UInt8 := UInt8.ofNat d.digitChar.toNat

theorem hex_positional : Positional 16 hexDigit hex := by
  intro n
  rw [hex, Nat.toDigits_eq_if (by decide)]
  split
  · rfl
  · simp [hex, hexDigit]

theorem hexDigit_inj : ∀ i < 16, ∀ j < 16, hexDigit i = hexDigit j → i = j := by
  decide

theorem hex_numeral : Numeral hex := hex_positional.numeral (by decide) hexDigit_inj

/-- A 64-bit number has at most sixteen digits. -/
theorem length_hex_le {n : Nat} (hn : n < 2 ^ 64) : (hex n).length ≤ 16 :=
  hex_positional.length_le (by decide) hn

/-- `snprintf` cuts nothing off. -/
theorem generateSessionId_eq {timestamp seq : Nat} (ht : timestamp < 2 ^ 64) (hs : seq < 2 ^ 64) :
    generateSessionId timestamp seq = hex timestamp ++ hex seq := by
  have hlen := length_hex_le ht
  have hlen' := length_hex_le hs
  apply List.take_of_length_le
  rw [List.length_append]
  omega

end RtspSession

namespace System

open RtspSession

/-- The session a step creates, with the clock its constructor reads. -/
def creates (s : System) : Label → Option (Nat × RtspSession)
  | .dispatch (.accepted fd addOk timestamp now garbage) _ =>
    s.loop.batch.head?.bind fun e =>
      if s.server.callbacks e.fd = some .onNewConnection then
        (s.server.onNewConnection (.accepted fd addOk timestamp now garbage)).bind fun res =>
          (res.1.heap s.server.created).map fun session => (timestamp, session)
      else none
  | _ => none

/-- The sessions created in the course of a run, in order. -/
def births (taken : List (System × Label)) : List (Nat × RtspSession) :=
  taken.filterMap fun step => step.1.creates step.2

end System

/-- What `OnNewConnection` creates: the session that gets the next number. -/
theorem Server.onNewConnection_created {srv : Server} {fd : Nat} {addOk : Bool} {timestamp : Nat}
    {now : Int} {garbage : Nat → UInt8} {res : Server × List Nat}
    (hfresh : srv.heap srv.created = none)
    (h : srv.onNewConnection (.accepted fd addOk timestamp now garbage) = some res) :
    (res.1.heap srv.created = none ∧ res.1.created = srv.created) ∨
      (∃ x, res.1.heap srv.created = some x ∧ res.1.created = srv.created + 1 ∧
        x.sessionId = RtspSession.generateSessionId timestamp (srv.created % 2 ^ 64)) := by
  simp only [onNewConnection, Option.bind_eq_bind] at h
  obtain ⟨kernel, -, h⟩ := Option.bind_eq_some_iff.mp h
  split at h
  · obtain rfl := Option.some.inj h
    exact .inl ⟨hfresh, rfl⟩
  · obtain ⟨hheap, hcreated, -⟩ := addFd_frame { srv with
      kernel := kernel, totalConnections := (srv.totalConnections + 1) % 2 ^ 64 } fd {} .client addOk
    generalize Server.addFd _ _ _ _ _ = added at h hheap hcreated
    simp only at hheap hcreated
    split at h
    · obtain ⟨x, hx, h⟩ := Option.bind_eq_some_iff.mp h
      obtain rfl := Option.some.inj h
      rw [hcreated] at hx
      refine .inr ⟨x, ?_, ?_, ?_⟩
      · show Function.update added.1.heap added.1.created (some x) srv.created = some x
        rw [hcreated, Function.update_self]
      · show added.1.created + 1 = srv.created + 1
        rw [hcreated]
      · obtain ⟨conn, -, rfl⟩ := Option.map_eq_some_iff.mp hx
        rfl
    · obtain rfl := Option.some.inj h
      refine .inl ⟨?_, hcreated⟩
      show added.1.heap srv.created = none
      rw [hheap]
      exact hfresh

namespace System

open RtspSession

variable {s t : System} {l : Label}

/-- Only a listener's entry creates a session. -/
theorem creates_eq_none {accept : AcceptOutcome} {expired : Option Int} {e : EventResult}
    {batch : List EventResult} (hbatch : s.loop.batch = e :: batch)
    (hcb : s.server.callbacks e.fd ≠ some .onNewConnection) :
    s.creates (.dispatch accept expired) = none := by
  cases accept with
  | failed => rfl
  | accepted => simp [creates, hbatch, hcb]

/-- A step counts the session it creates, and the session has the number counted before. -/
theorem step_creates (h : s.Inv) (hstep : s.step l = some t) :
    (s.creates l = none ∧ t.server.created = s.server.created) ∨
      ∃ timestamp x, s.creates l = some (timestamp, x) ∧
        t.server.created = s.server.created + 1 ∧
        x.sessionId = generateSessionId timestamp (s.server.created % 2 ^ 64) := by
  have hfresh := h.server.fresh s.server.created le_rfl
  by_cases hdispatch : ∃ accept expired, l = .dispatch accept expired
  · obtain ⟨accept, expired, rfl⟩ := hdispatch
    cases step_cases hstep with
    | @skip _ _ e batch hpc hhandlers hbatch hnone =>
      refine .inl ⟨creates_eq_none hbatch ?_, rfl⟩
      rcases hnone with hnone | ⟨htimer, -⟩
      · simp [hnone]
      · simp [htimer]
    | @accept _ _ e batch res hpc hhandlers hbatch hcb hres =>
      have hcreated := (release_sameCounts res.2 (t := { s.takeEntry batch with server := res.1 })
        (Server.sameCounts_refl _)).created
      rw [hcreated]
      cases accept with
      | failed =>
        obtain rfl := Option.some.inj hres
        exact .inl ⟨rfl, rfl⟩
      | accepted fd addOk timestamp now garbage =>
        have hcreates : s.creates (.dispatch (.accepted fd addOk timestamp now garbage) expired) =
            (res.1.heap s.server.created).map fun session => (timestamp, session) := by
          simp [creates, hbatch, hcb, hres]
        rcases Server.onNewConnection_created hfresh hres with ⟨hnone, hsame⟩ | ⟨x, hx, hnext, hid⟩
        · exact .inl ⟨by rw [hcreates, hnone, Option.map_none], hsame⟩
        · exact .inr ⟨timestamp, x, by rw [hcreates, hx, Option.map_some], hnext, hid⟩
    | @sweep _ now e batch hpc hhandlers hbatch hcb =>
      have hcreated := (release_sameCounts (s.server.checkTimeouts now).2
        (t := { s.takeEntry batch with server := (s.server.checkTimeouts now).1 })
        (Server.sameCounts_refl _)).created
      refine .inl ⟨creates_eq_none hbatch (by simp [hcb]), ?_⟩
      rw [hcreated]
      exact (Server.checkTimeouts_counts s.server now).created
    | enter _ _ hbatch hcb => exact .inl ⟨creates_eq_none hbatch (by simp [hcb]), rfl⟩
  · refine .inl ⟨?_, ?_⟩
    · cases l with
      | dispatch accept expired => exact absurd ⟨accept, expired, rfl⟩ hdispatch
      | _ => rfl
    · rcases (step_sameCounts hstep).resolve_left hdispatch with rfl | hsame
      · cases step_cases hstep with
        | recordDrop => rfl
      · exact hsame.created

/-- The sessions created so far are the ones counted, each with its number in its id. -/
structure Numbered (s : System) (taken : List (System × Label)) : Prop where
  inv : s.Inv
  count : (births taken).length = s.server.created
  ids : ∀ k b, (births taken)[k]? = some b →
    b.2.sessionId = generateSessionId b.1 (k % 2 ^ 64)

theorem births_concat (taken : List (System × Label)) (s : System) (l : Label) :
    births (taken ++ [(s, l)]) = births taken ++ (s.creates l).toList := by
  rw [births, List.filterMap_append]
  cases hcreates : s.creates l with
  | none => simp [births, hcreates]
  | some b => simp [births, hcreates]

theorem start_numbered (config : Config) : (System.start config).Numbered [] where
  inv := start_inv config
  count := rfl
  ids := by simp [births]

theorem step_numbered (s : System) (taken : List (System × Label)) (l : Label) (t : System)
    (h : s.Numbered taken) (_ : True) (hstep : s.step l = some t) :
    t.Numbered (taken ++ [(s, l)]) := by
  have hinv := step_inv h.inv hstep
  rcases step_creates h.inv hstep with ⟨hnone, hsame⟩ | ⟨timestamp, x, hsome, hnext, hid⟩
  · have hbirths : births (taken ++ [(s, l)]) = births taken := by
      rw [births_concat, hnone, Option.toList_none, List.append_nil]
    exact ⟨hinv, by rw [hbirths, h.count, hsame], by rw [hbirths]; exact h.ids⟩
  · have hbirths : births (taken ++ [(s, l)]) = births taken ++ [(timestamp, x)] := by
      rw [births_concat, hsome, Option.toList_some]
    refine ⟨hinv, ?_, fun k b hb => ?_⟩
    · rw [hbirths, List.length_append, h.count, hnext, List.length_singleton]
    · rw [hbirths] at hb
      rcases Nat.lt_or_ge k (births taken).length with hold | hnew
      · rw [List.getElem?_append_left hold] at hb
        exact h.ids k b hb
      · -- the session just created is numbered by those before it
        rw [List.getElem?_append_right hnew] at hb
        obtain ⟨hlast, heq⟩ := List.getElem?_eq_some_iff.mp hb
        rw [List.getElem_singleton] at heq
        rw [List.length_singleton] at hlast
        have hk : k = s.server.created := by
          have hcount := h.count
          omega
        rw [← heq, hk]
        exact hid

/-- **Session ids are unique.** In a run of the server whose clock does not go back between
the sessions it creates, the session with the 64-bit number `k` has the whole of its clock and
of `k` in its id, and sessions with different numbers have different ids. -/
theorem session_ids_distinct (config : Config) (labels : List Label) (s : System)
    (hrun : Transition.run step (System.start config) labels = some s)
    (hclock : ∀ b ∈ births (Transition.trace step (System.start config) labels), b.1 < 2 ^ 64)
    (hmono : ((births (Transition.trace step (System.start config) labels)).map
      Prod.fst).Pairwise (· ≤ ·)) :
    let created := births (Transition.trace step (System.start config) labels)
    (∀ k < 2 ^ 64, ∀ b, created[k]? = some b →
      b.2.sessionId = hex b.1 ++ hex k ∧ b.2.sessionId.length < 33) ∧
    ∀ i < 2 ^ 64, ∀ j < 2 ^ 64, i ≠ j → ∀ a b, created[i]? = some a → created[j]? = some b →
      a.2.sessionId ≠ b.2.sessionId := by
  intro created
  have hnumbered : s.Numbered ([] ++ Transition.trace step (System.start config) labels) :=
    Transition.Along.trace_invariant (I := Numbered) step_numbered (start_numbered config)
      (Transition.along_true _ _) hrun
  have hwhole : ∀ k < 2 ^ 64, ∀ b, created[k]? = some b → b.2.sessionId = hex b.1 ++ hex k := by
    intro k hk b hb
    have hid := hnumbered.ids k b hb
    rwa [Nat.mod_eq_of_lt hk, generateSessionId_eq (hclock b (List.mem_of_getElem? hb)) hk] at hid
  have hlater : ∀ i j, i < j → j < 2 ^ 64 → ∀ a b, created[i]? = some a → created[j]? = some b →
      a.2.sessionId ≠ b.2.sessionId := by
    intro i j hij hj a b ha hb heq
    rw [hwhole i (by omega) a ha, hwhole j hj b hb] at heq
    obtain ⟨hi, rfl⟩ := List.getElem?_eq_some_iff.mp ha
    obtain ⟨hj', rfl⟩ := List.getElem?_eq_some_iff.mp hb
    have hclocks := List.pairwise_iff_getElem.mp hmono i j (by simpa using hi) (by simpa using hj') hij
    rw [List.getElem_map, List.getElem_map] at hclocks
    have hsame := hex_numeral.append_inj hclocks hij.le heq
    omega
  refine ⟨fun k hk b hb => ⟨hwhole k hk b hb, ?_⟩, fun i hi j hj hne a b ha hb => ?_⟩
  · have hlen := length_hex_le (hclock b (List.mem_of_getElem? hb))
    have hlen' := length_hex_le hk
    rw [hwhole k hk b hb, List.length_append]
    omega
  · rcases Nat.lt_or_gt_of_ne hne with hij | hji
    · exact hlater i j hij hj a b ha hb
    · exact (hlater j i hji hi b a hb ha).symm

/-- Two clients of one millisecond. -/
theorem session_ids_of_one_millisecond :
    ∃ s a b, Transition.run step (System.start smallConfig) (accepts 7 ++ accepts 8) = some s ∧
      births (Transition.trace step (System.start smallConfig) (accepts 7 ++ accepts 8)) = [a, b] ∧
      a.2.sessionId = ascii "00" ∧ b.2.sessionId = ascii "01" ∧
      a.2.sessionId ≠ b.2.sessionId := by
  have hrun : (Transition.run step (System.start smallConfig) (accepts 7 ++ accepts 8)).isSome =
      true := by
    decide
  have hborn : (births (Transition.trace step (System.start smallConfig)
      (accepts 7 ++ accepts 8))).map (fun b => (b.1, b.2.sessionId)) =
        [(0, ascii "00"), (0, ascii "01")] := by
    decide
  obtain ⟨s, hs⟩ := Option.isSome_iff_exists.mp hrun
  obtain ⟨a, rest, hbirths, ha, hrest⟩ := List.map_eq_cons_iff.mp hborn
  obtain ⟨b, rest, rfl, hb, hnil⟩ := List.map_eq_cons_iff.mp hrest
  obtain rfl := List.map_eq_nil_iff.mp hnil
  obtain ⟨ha, hida⟩ := Prod.mk.inj ha
  obtain ⟨hb, hidb⟩ := Prod.mk.inj hb
  have hids := session_ids_distinct smallConfig (accepts 7 ++ accepts 8) s hs
    (by rw [hbirths]; simp [ha, hb]) (by rw [hbirths]; simp [ha, hb])
  refine ⟨s, a, b, hs, hbirths, hida, hidb, ?_⟩
  exact hids.2 0 (by decide) 1 (by decide) (by decide) a b (by rw [hbirths]; rfl)
    (by rw [hbirths]; rfl)

end System

end RtspForward
