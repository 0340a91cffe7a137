import RtspForward.Lib.Search

/-!
# Decoding a stream of messages

`next` reads one message off the front of a stream and returns it with what follows. If it
reads back every message of a sequence whatever follows it, then reading until nothing is
left reads back the sequence.

The second part is about blocks of text: lines that end in a two-element line end, closed
by an empty line.
-/
namespace Lib.Decoding

variable {α β γ : Type*}

/-- Messages are read until nothing is left; every message takes a unit of fuel. -/
def decodeAll (next : List α → Option (β × List α)) : Nat → List α → Option (List β)
  | _, [] => some []
  | 0, _ :: _ => none
  | fuel + 1, a :: s =>
    (next (a :: s)).bind fun read => (decodeAll next fuel read.2).map (read.1 :: ·)

/-- `bytes` is read back as `m`, whatever follows. -/
structure Reads (next : List α → Option (β × List α)) (bytes : List α) (m : β) : Prop where
  ne_nil : bytes ≠ []
  next_eq : ∀ rest, next (bytes ++ rest) = some (m, rest)

/-- The length of the stream is fuel enough. -/
theorem decodeAll_flatten {next : List α → Option (β × List α)} {bytes : γ → List α}
    {message : γ → β} {ms : List γ} (h : ∀ m ∈ ms, Reads next (bytes m) (message m)) {fuel : Nat}
    (hfuel : (ms.map bytes).flatten.length ≤ fuel) :
    decodeAll next fuel (ms.map bytes).flatten = some (ms.map message) := by
  induction ms generalizing fuel with
  | nil => cases fuel <;> rfl
  | cons m ms ih =>
    have hm := h m (by simp)
    rw [List.map_cons, List.flatten_cons] at hfuel ⊢
    have hread := hm.next_eq (ms.map bytes).flatten
    match hb : bytes m with
    | [] => exact absurd hb hm.ne_nil
    | a :: b =>
      rw [hb, List.cons_append] at hread
      rw [hb, List.length_append, List.length_cons] at hfuel
      match fuel with
      | 0 => omega
      | fuel + 1 =>
        have htail : decodeAll next fuel (ms.map bytes).flatten = some (ms.map message) :=
          ih (fun m' hm' => h m' (by simp [hm'])) (by omega)
        simp [decodeAll, hread, htail]

/-! ## Blocks of text -/

section Lines

variable [DecidableEq α] (cr lf : α)

/-- The lines of a text that are ended by `cr`, `lf`, without that end. -/
def lines : List α → List (List α)
  | [] => []
  | [_] => []
  | a :: b :: s =>
    if a = cr ∧ b = lf then [] :: lines s
    else match lines (b :: s) with
      | [] => []
      | line :: more => (a :: line) :: more

/-- Lines, each with its end. -/
def unlines (ls : List (List α)) : List α := (ls.map (· ++ [cr, lf])).flatten

variable {cr lf}

omit [DecidableEq α] in
@[simp] theorem unlines_nil : unlines cr lf [] = [] := rfl

omit [DecidableEq α] in
@[simp] theorem unlines_cons (line : List α) (ls : List (List α)) :
    unlines cr lf (line :: ls) = line ++ cr :: lf :: unlines cr lf ls := by
  simp [unlines]

theorem lines_cons (line s : List α) (hline : cr ∉ line) :
    lines cr lf (line ++ cr :: lf :: s) = line :: lines cr lf s := by
  induction line with
  | nil => simp [lines]
  | cons a line ih =>
    simp only [List.mem_cons, not_or] at hline
    have ih := ih hline.2
    match line with
    | [] =>
      rw [List.nil_append] at ih
      simp [lines, Ne.symm hline.1]
    | b :: line =>
      simp only [List.cons_append] at ih ⊢
      rw [lines, if_neg (fun h => hline.1 h.1.symm), ih]

theorem lines_unlines (ls : List (List α)) (hls : ∀ line ∈ ls, cr ∉ line) :
    lines cr lf (unlines cr lf ls) = ls := by
  induction ls with
  | nil => rfl
  | cons line ls ih =>
    rw [unlines_cons, lines_cons line _ (hls line (by simp)), ih fun l hl => hls l (by simp [hl])]

/-- Elements in front of the first `cr` cannot start an occurrence of a pattern that starts
with it. -/
theorem find_skip {pat : List α} (line s : List α) (hline : cr ∉ line) :
    Search.find (cr :: pat) (line ++ s) = (Search.find (cr :: pat) s).map (· + line.length) := by
  induction line with
  | nil => simp
  | cons a line ih =>
    simp only [List.mem_cons, not_or] at hline
    have hpre : ¬ cr :: pat <+: a :: (line ++ s) := fun h => hline.1 (List.cons_prefix_cons.mp h).1
    simp only [List.cons_append, Search.find, if_neg hpre, ih hline.2, Option.map_map,
      List.length_cons]
    congr 1

theorem find_block_aux (hne : cr ≠ lf) (ls : List (List α))
    (hls : ∀ line ∈ ls, cr ∉ line ∧ line ≠ []) (line rest : List α) (hline : cr ∉ line) :
    Search.find [cr, lf, cr, lf] (line ++ cr :: lf :: (unlines cr lf ls ++ cr :: lf :: rest)) =
      some (line.length + (unlines cr lf ls).length) := by
  induction ls generalizing line with
  | nil => simp [find_skip line _ hline, Search.find]
  | cons l ls ih =>
    obtain ⟨hcr, hl⟩ := hls l (by simp)
    have ih := ih (fun x hx => hls x (by simp [hx])) l hcr
    cases l with
    | nil => exact absurd rfl hl
    | cons a l =>
      have ha : cr ≠ a := by
        rintro rfl
        exact hcr (by simp)
      -- neither element of a line end starts an empty line
      have hskip (s : List α) : Search.find [cr, lf, cr, lf] (cr :: lf :: a :: s) =
          (Search.find [cr, lf, cr, lf] (a :: s)).map (· + 2) := by
        have hcrlf : ¬ [cr, lf, cr, lf] <+: cr :: lf :: a :: s := by simp [ha]
        have hlf : ¬ [cr, lf, cr, lf] <+: lf :: a :: s := by simp [hne]
        conv_lhs => rw [Search.find, if_neg hcrlf, Search.find, if_neg hlf]
        rw [Option.map_map]
        rfl
      rw [find_skip line _ hline, unlines_cons]
      simp only [List.cons_append, List.append_assoc] at ih ⊢
      rw [hskip, ih]
      simp only [Option.map_some, List.length_append, List.length_cons]
      congr 1
      omega

/-- The first empty line of a block of lines that are not empty is the one that ends it. -/
theorem find_block (hne : cr ≠ lf) {line : List α} {ls : List (List α)} (hline : cr ∉ line)
    (hls : ∀ line ∈ ls, cr ∉ line ∧ line ≠ []) (rest : List α) :
    ∃ i, Search.find [cr, lf, cr, lf] (unlines cr lf (line :: ls) ++ cr :: lf :: rest) = some i ∧
      i + 2 = (unlines cr lf (line :: ls)).length := by
  refine ⟨line.length + (unlines cr lf ls).length, ?_, ?_⟩
  · have hfind := find_block_aux hne ls hls line rest hline
    simpa using hfind
  · simp only [unlines_cons, List.length_append, List.length_cons]
    omega

end Lines

end Lib.Decoding
