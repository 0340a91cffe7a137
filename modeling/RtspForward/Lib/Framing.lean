import Mathlib.Data.List.Basic
import Mathlib.Data.List.Infix
import Mathlib.Tactic.Common

/-!
# Self-delimiting messages in a stream

`next` looks at the front of what has arrived and answers with the length of the first
complete message, or with nothing. It delimits a message when it finds exactly that
message whatever follows it, and nothing in any proper prefix of it. A receiver that takes
complete messages off the front until there is none then splits a stream of delimited
messages in the same way however the stream arrives.
-/
namespace Lib.Framing

variable {α : Type*}

structure Delimits (next : List α → Option Nat) (m : List α) : Prop where
  ne_nil : m ≠ []
  complete : ∀ rest, next (m ++ rest) = some m.length
  incomplete : ∀ p, p <+: m → p ≠ m → next p = none

/-- Taking complete messages off the front of a buffer until there is none. -/
inductive Drains (next : List α → Option Nat) : List α → List (List α) → List α → Prop
  | stop {b : List α} : next b = none → Drains next b [] b
  | take {b rest : List α} {n : Nat} {ms : List (List α)} : next b = some n →
      Drains next (b.drop n) ms rest → Drains next b (b.take n :: ms) rest

/-- What can be left over when the messages `ms` are still to come: a proper prefix of the
first of them, or nothing. -/
def Leftover : List (List α) → List α → Prop
  | [], p => p = []
  | m :: _, p => p <+: m ∧ p ≠ m

variable {next : List α → Option Nat} {ms todo : List (List α)} {b p chunk : List α}

theorem Leftover.next_eq_none (hnil : next [] = none) (hms : ∀ m ∈ ms, Delimits next m)
    (h : Leftover ms p) : next p = none := by
  cases ms with
  | nil =>
    obtain rfl : p = [] := h
    exact hnil
  | cons m ms => exact (hms m (by simp)).incomplete p h.1 h.2

/-- A leftover is shorter than a bound on the messages. -/
theorem Leftover.length_lt {bound : Nat} (hpos : 0 < bound) (hms : ∀ m ∈ ms, m.length ≤ bound)
    (h : Leftover ms p) : p.length < bound := by
  cases ms with
  | nil =>
    obtain rfl : p = [] := h
    exact hpos
  | cons m ms =>
    have hm := hms m (by simp)
    have hle := h.1.length_le
    have hne : p.length ≠ m.length := fun hlen => h.2 (h.1.eq_of_length hlen)
    omega

/-- Nothing is left when all the messages have arrived. -/
theorem Leftover.all_arrived (h : Leftover ms p) (hp : p = ms.flatten) : ms = [] := by
  cases ms with
  | nil => rfl
  | cons m ms =>
    have hlen := congrArg List.length hp
    rw [List.flatten_cons, List.length_append] at hlen
    have hle := h.1.length_le
    exact absurd (h.1.eq_of_length (by omega)) h.2

/-- A prefix of a concatenation of messages is some whole messages and a leftover. -/
theorem exists_split (hb : b <+: ms.flatten) :
    ∃ done todo p, ms = done ++ todo ∧ b = done.flatten ++ p ∧ Leftover todo p := by
  induction ms generalizing b with
  | nil => exact ⟨[], [], [], rfl, by simpa using hb, rfl⟩
  | cons m ms ih =>
    rw [List.flatten_cons] at hb
    by_cases hm : m <+: b
    · -- the first message has arrived; the rest of `b` is a prefix of the rest
      obtain ⟨b', rfl⟩ := hm
      obtain ⟨done, todo, p, rfl, rfl, hleft⟩ := ih ((List.prefix_append_right_inj m).mp hb)
      exact ⟨m :: done, todo, p, rfl, by simp, hleft⟩
    · have hshort : b <+: m := by
        rcases List.prefix_or_prefix_of_prefix hb (List.prefix_append m ms.flatten) with h | h
        · exact h
        · exact absurd h hm
      refine ⟨[], m :: ms, b, rfl, rfl, hshort, ?_⟩
      rintro rfl
      exact hm List.prefix_rfl

theorem drains_messages {done : List (List α)} (hdone : ∀ m ∈ done, Delimits next m)
    (hp : next p = none) : Drains next (done.flatten ++ p) done p := by
  induction done with
  | nil => exact .stop hp
  | cons m done ih =>
    have htail := ih fun m' hm' => hdone m' (by simp [hm'])
    have hnext := (hdone m (by simp)).complete (done.flatten ++ p)
    rw [← List.append_assoc, ← List.flatten_cons] at hnext
    have hsplit : (m :: done).flatten ++ p = m ++ (done.flatten ++ p) := by simp
    have hstep : Drains next ((m :: done).flatten ++ p)
        (((m :: done).flatten ++ p).take m.length :: done) p := by
      apply Drains.take hnext
      rw [hsplit, List.drop_left]
      exact htail
    rwa [hsplit, List.take_left, ← hsplit] at hstep

/-- A buffer can always be drained. -/
theorem exists_drains (hpos : ∀ b n, next b = some n → 0 < n ∧ n ≤ b.length) (b : List α) :
    ∃ ms p, Drains next b ms p := by
  induction hlen : b.length using Nat.strong_induction_on generalizing b with
  | _ len ih =>
    cases hnext : next b with
    | none => exact ⟨[], b, .stop hnext⟩
    | some n =>
      obtain ⟨hn, hle⟩ := hpos b n hnext
      have hshort : (b.drop n).length < len := by
        rw [List.length_drop]
        omega
      obtain ⟨ms, p, hdrain⟩ := ih _ hshort (b.drop n) rfl
      exact ⟨_, p, .take hnext hdrain⟩

theorem Drains.next_eq_none {ms : List (List α)} {b p : List α} (h : Drains next b ms p) :
    next p = none := by
  induction h with
  | stop hnone => exact hnone
  | take _ _ ih => exact ih

/-- Messages taken off the front of a stream, each of them complete in what had arrived of
the stream at the time. -/
inductive Cuts (next : List α → Option Nat) : List α → List (List α) → List α → Prop
  | stop {s : List α} : Cuts next s [] s
  | take {s b rest : List α} {n : Nat} {ms : List (List α)} : b <+: s → next b = some n →
      n ≤ b.length → Cuts next (s.drop n) ms rest → Cuts next s (s.take n :: ms) rest

theorem Drains.cuts (hpos : ∀ b n, next b = some n → 0 < n ∧ n ≤ b.length)
    {ms : List (List α)} {b p : List α} (h : Drains next b ms p) (later : List α) :
    Cuts next (b ++ later) ms (p ++ later) := by
  induction h with
  | stop => exact .stop
  | @take b rest n ms hnext _ ih =>
    have hle := (hpos b n hnext).2
    have hcut := Cuts.take (List.prefix_append b later) hnext hle
      (by rwa [List.drop_append_of_le_length hle])
    rwa [List.take_append_of_le_length hle] at hcut

theorem Cuts.trans {ms ms' : List (List α)} {s p q : List α} (h : Cuts next s ms p)
    (h' : Cuts next p ms' q) : Cuts next s (ms ++ ms') q := by
  induction h with
  | stop => exact h'
  | take hb hnext hle _ ih => exact .take hb hnext hle (ih h')

theorem Cuts.flatten_append {ms : List (List α)} {s p : List α} (h : Cuts next s ms p) :
    ms.flatten ++ p = s := by
  induction h with
  | stop => rfl
  | take _ _ _ _ ih => rw [List.flatten_cons, List.append_assoc, ih, List.take_append_drop]

/-- More of the stream arrives. -/
theorem Cuts.append {ms : List (List α)} {s p : List α} (h : Cuts next s ms p) (later : List α) :
    Cuts next (s ++ later) ms (p ++ later) := by
  induction h with
  | stop => exact .stop
  | @take s b rest n ms hb hnext hle _ ih =>
    have hn : n ≤ s.length := hle.trans hb.length_le
    have hcut := Cuts.take (hb.trans (List.prefix_append s later)) hnext hle
      (by rwa [List.drop_append_of_le_length hn])
    rwa [List.take_append_of_le_length hn] at hcut

/-- When a complete message stays the first one whatever follows it, messages taken off as they
became complete are those that draining the whole stream at once takes off. -/
theorem Cuts.drains (hstable : ∀ b rest n, next b = some n → next (b ++ rest) = some n)
    {ms : List (List α)} {s p : List α} (h : Cuts next s ms p) (hnone : next p = none) :
    Drains next s ms p := by
  induction h with
  | stop => exact .stop hnone
  | @take s b rest n ms hb hnext _ _ ih =>
    obtain ⟨later, rfl⟩ := hb
    exact .take (hstable b later n hnext) (ih hnone)

theorem Cuts.split {ms ms' : List (List α)} {s q : List α} (h : Cuts next s (ms ++ ms') q) :
    ∃ p, Cuts next s ms p ∧ Cuts next p ms' q := by
  induction ms generalizing s with
  | nil => exact ⟨s, .stop, h⟩
  | cons m ms ih =>
    rw [List.cons_append] at h
    cases h with
    | take hb hnext hle hrest =>
      obtain ⟨p, hp, hq⟩ := ih hrest
      exact ⟨p, .take hb hnext hle hp, hq⟩

/-- Every message taken off was complete in what had arrived. -/
theorem Cuts.exists_next {m s rest : List α} {ms : List (List α)} (h : Cuts next s ms rest)
    (hm : m ∈ ms) : ∃ b n, next b = some n ∧ m = b.take n := by
  induction h with
  | stop => cases hm
  | @take s b rest n ms hb hnext hle _ ih =>
    rcases List.mem_cons.mp hm with rfl | hm
    · obtain ⟨later, rfl⟩ := hb
      exact ⟨b, n, hnext, List.take_append_of_le_length hle⟩
    · exact ih hm

/-- The first message taken off a stream that starts with a delimited message is that one. -/
theorem Cuts.head_eq {m m' s rest : List α} {ms : List (List α)} (hm : Delimits next m)
    (h : Cuts next (m ++ s) (m' :: ms) rest) : m' = m ∧ Cuts next s ms rest := by
  generalize hms : m' :: ms = ms' at h
  cases h with
  | stop => cases hms
  | @take _ b _ n ms₀ hb hnext hle hrest =>
    obtain ⟨rfl, rfl⟩ := List.cons.inj hms
    have hn : n = m.length := by
      by_cases hmb : m <+: b
      · obtain ⟨r, rfl⟩ := hmb
        exact Option.some.inj (hnext.symm.trans (hm.complete r))
      · have hbm : b <+: m := by
          rcases List.prefix_or_prefix_of_prefix hb (List.prefix_append m s) with hbm | hmb'
          · exact hbm
          · exact absurd hmb' hmb
        have hne : b ≠ m := by
          rintro rfl
          exact hmb List.prefix_rfl
        rw [hm.incomplete b hbm hne] at hnext
        cases hnext
    rw [hn, List.drop_left] at hrest
    rw [hn, List.take_left]
    exact ⟨rfl, hrest⟩

/-- One delivery: the receiver takes off the messages the chunk completes, and what is left
over belongs to the messages that are still to come. -/
theorem deliver (hnil : next [] = none) (htodo : ∀ m ∈ todo, Delimits next m)
    (h : p ++ chunk <+: todo.flatten) :
    ∃ done todo' p', todo = done ++ todo' ∧ p ++ chunk = done.flatten ++ p' ∧
      Drains next (p ++ chunk) done p' ∧ Leftover todo' p' := by
  obtain ⟨done, todo', p', rfl, hsplit, hleft⟩ := exists_split h
  refine ⟨done, todo', p', rfl, hsplit, ?_, hleft⟩
  rw [hsplit]
  have hnone := hleft.next_eq_none hnil fun m hm => htodo m (by simp [hm])
  exact drains_messages (fun m hm => htodo m (by simp [hm])) hnone

/-- When whole messages and a proper prefix of a further one have arrived, what was taken off
is these messages, and the prefix is left. -/
theorem Leftover.eq_of_arrived {done : List (List α)} {c q : List α} (hp : p <+: c) (hne : p ≠ c)
    (hsplit : ms ++ [c] = done ++ todo) (harrived : ms.flatten ++ p = done.flatten ++ q)
    (h : Leftover todo q) : done = ms ∧ q = p := by
  have hlt : p.length < c.length := by
    have hle := hp.length_le
    have hneq : p.length ≠ c.length := fun hlen => hne (hp.eq_of_length hlen)
    omega
  rcases List.append_eq_append_iff.mp hsplit with ⟨more, rfl, hmore⟩ | ⟨more, rfl, rfl⟩
  · rcases List.append_eq_singleton_iff.mp hmore.symm with ⟨rfl, rfl⟩ | ⟨rfl, rfl⟩
    · rw [List.append_nil] at harrived ⊢
      exact ⟨rfl, (List.append_cancel_left harrived).symm⟩
    · obtain rfl : q = [] := h
      have hlen := congrArg List.length harrived
      simp only [List.flatten_append, List.length_append, List.flatten_cons, List.flatten_nil,
        List.length_nil] at hlen
      omega
  · cases more with
    | nil =>
      rw [List.append_nil] at harrived ⊢
      exact ⟨rfl, (List.append_cancel_left harrived).symm⟩
    | cons m more =>
      rw [List.flatten_append, List.append_assoc] at harrived
      have hq := List.append_cancel_left harrived
      have hle := h.1.length_le
      have hneq : q.length ≠ m.length := fun hlen => h.2 (h.1.eq_of_length hlen)
      have hlen := congrArg List.length hq
      simp only [List.flatten_cons, List.length_append] at hlen
      omega

end Lib.Framing
