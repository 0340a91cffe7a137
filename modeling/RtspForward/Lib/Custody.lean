import RtspForward.Lib.Transition
import Mathlib.Data.List.Basic
import Mathlib.Data.Sum.Basic

/-!
# Custody of resources

Holders keep at most one resource each. An event puts a new resource into the hands of a
holder, moves one from a holder to another, or gives up what a holder has; its effects are
what the pool of resources sees of it. `Linear` says that the resources in use are those held,
and that none is held twice. It is kept as long as nobody is given something who already has
something, provided that the pool hands out only what is not in use.
-/
namespace Lib.Custody

open Transition

variable {η ρ : Type*} [DecidableEq η]

inductive Event (η ρ : Type*) where
  | acquire (h : η) (r : ρ)
  | move (src dst : η)
  | release (h : η)
  deriving DecidableEq, Repr

inductive Effect (ρ : Type*) where
  | acquired (r : ρ)
  | released (r : ρ)
  deriving DecidableEq, Repr

/-- Who holds what after an event. -/
def act (holds : η → Option ρ) : Event η ρ → η → Option ρ
  | .acquire h r => Function.update holds h (some r)
  | .move src dst => Function.update (Function.update holds dst (holds src)) src none
  | .release h => Function.update holds h none

/-- What the pool sees of an event. -/
def effect (holds : η → Option ρ) : Event η ρ → List (Effect ρ)
  | .acquire _ r => [.acquired r]
  | .move _ _ => []
  | .release h => (holds h).toList.map .released

/-- What the pool sees of a sequence of events. -/
def effects : (η → Option ρ) → List (Event η ρ) → List (Effect ρ)
  | _, [] => []
  | holds, e :: es => effect holds e ++ effects (act holds e) es

/-- Nobody is given something who already has something. -/
def EmptyHanded (holds : η → Option ρ) : Event η ρ → Prop
  | .acquire h _ => holds h = none
  | .move src dst => src ≠ dst ∧ holds dst = none
  | .release _ => True

/-- What is in use is held, what is held is in use, and nothing is held twice. -/
structure Linear (holds : η → Option ρ) (inUse : ρ → Bool) : Prop where
  inUse_iff : ∀ r, inUse r = true ↔ ∃ h, holds h = some r
  unique : ∀ a b r, holds a = some r → holds b = some r → a = b

/-! ## Sequences -/

variable {holds : η → Option ρ} {es es' : List (Event η ρ)}

theorem effects_append (holds : η → Option ρ) (es es' : List (Event η ρ)) :
    effects holds (es ++ es') = effects holds es ++ effects (es.foldl act holds) es' := by
  induction es generalizing holds with
  | nil => rfl
  | cons e es ih => simp only [List.cons_append, effects, ih, List.append_assoc, List.foldl_cons]

theorem emptyHanded_append : Along (total act) EmptyHanded holds (es ++ es') ↔
    Along (total act) EmptyHanded holds es ∧
      Along (total act) EmptyHanded (es.foldl act holds) es' := by
  induction es generalizing holds with
  | nil => simp [Along]
  | cons e es ih => simp only [List.cons_append, along_total_cons, ih, and_assoc, List.foldl_cons]

theorem update_eq_some {a b : η} {v : Option ρ} {x : ρ} : Function.update holds a v b = some x ↔
    (b = a ∧ v = some x) ∨ (b ≠ a ∧ holds b = some x) := by
  by_cases hb : b = a <;> simp [hb]

/-- A sequence that gives up only leaves everyone else with what they had. -/
theorem holds_of_releases (hs : List η) : ∀ {holds : η → Option ρ} {a : η} {r : ρ},
    (hs.map Event.release).foldl act holds a = some r → holds a = some r := by
  induction hs with
  | nil => exact fun h => h
  | cons b hs ih =>
    intro holds a r h
    have hone := ih h
    simp only [act, update_eq_some, reduceCtorEq, and_false, false_or] at hone
    exact hone.2

theorem emptyHanded_releases (hs : List η) (holds : η → Option ρ) :
    Along (total act) EmptyHanded holds (hs.map Event.release) := by
  induction hs generalizing holds with
  | nil => trivial
  | cons b hs ih => exact along_total_cons.mpr ⟨trivial, ih _⟩

theorem foldl_releases (hs : List η) (holds : η → Option ρ) (a : η) :
    (hs.map Event.release).foldl act holds a = if a ∈ hs then none else holds a := by
  induction hs generalizing holds with
  | nil => rfl
  | cons b hs ih =>
    simp only [List.map_cons, List.foldl_cons, ih, act, List.mem_cons]
    by_cases ha : a ∈ hs
    · simp [ha]
    · by_cases hb : a = b <;> simp [ha, hb]

/-- Different holders give up what they have, one after the other. -/
theorem effects_releases {hs : List η} (hnodup : hs.Nodup) (holds : η → Option ρ) :
    effects holds (hs.map Event.release) = (hs.filterMap holds).map Effect.released := by
  induction hs generalizing holds with
  | nil => rfl
  | cons b hs ih =>
    obtain ⟨hb, hrest⟩ := List.nodup_cons.mp hnodup
    have hsame : hs.filterMap (act holds (.release b)) = hs.filterMap holds := by
      refine List.filterMap_congr fun a ha => Function.update_of_ne ?_ _ _
      rintro rfl
      exact hb ha
    simp only [List.map_cons, effects, ih hrest, hsame, effect]
    cases hold : holds b with
    | none => rw [List.filterMap_cons_none hold]; rfl
    | some r => rw [List.filterMap_cons_some hold]; rfl

/-- A sequence in which nobody is given something who already has something: what the pool
sees of it, and who holds what in the end. -/
structure Yields (holds : η → Option ρ) (es : List (Event η ρ)) (fx : List (Effect ρ))
    (holds' : η → Option ρ) : Prop where
  emptyHanded : Along (total act) EmptyHanded holds es
  effects_eq : effects holds es = fx
  holds_eq : es.foldl act holds = holds'

theorem yields_nil (holds : η → Option ρ) : Yields holds [] [] holds := ⟨trivial, rfl, rfl⟩

theorem Yields.append {holds' holds'' : η → Option ρ} {fx fx' : List (Effect ρ)}
    (h : Yields holds es fx holds') (h' : Yields holds' es' fx' holds'') :
    Yields holds (es ++ es') (fx ++ fx') holds'' := by
  obtain ⟨hempty, rfl, rfl⟩ := h
  obtain ⟨hempty', rfl, rfl⟩ := h'
  exact ⟨emptyHanded_append.mpr ⟨hempty, hempty'⟩, effects_append _ _ _, List.foldl_append⟩

theorem yields_releases {hs : List η} (hnodup : hs.Nodup) (holds : η → Option ρ) :
    Yields holds (hs.map Event.release) ((hs.filterMap holds).map Effect.released)
      fun a => if a ∈ hs then none else holds a :=
  ⟨emptyHanded_releases hs holds, effects_releases hnodup holds, funext (foldl_releases hs holds)⟩

/-! ## The pool -/

variable [DecidableEq ρ] {inUse inUse' : ρ → Bool}

/-- The resources in use after some effects. There is no outcome when something is handed out
that is in use. -/
def follow : (ρ → Bool) → List (Effect ρ) → Option (ρ → Bool)
  | inUse, [] => some inUse
  | inUse, .acquired r :: fx => if inUse r then none else follow (Function.update inUse r true) fx
  | inUse, .released r :: fx => follow (Function.update inUse r false) fx

theorem follow_append (inUse : ρ → Bool) (fx fx' : List (Effect ρ)) :
    follow inUse (fx ++ fx') = (follow inUse fx).bind fun inUse' => follow inUse' fx' := by
  induction fx generalizing inUse with
  | nil => rfl
  | cons f fx ih =>
    cases f with
    | acquired r =>
      simp only [List.cons_append, follow, ih]
      split <;> rfl
    | released r => simp only [List.cons_append, follow, ih]

theorem follow_released (inUse : ρ → Bool) (rs : List ρ) :
    follow inUse (rs.map .released) =
      some (rs.foldl (fun inUse r => Function.update inUse r false) inUse) := by
  induction rs generalizing inUse with
  | nil => rfl
  | cons r rs ih => exact ih _

/-! ## Linearity is kept -/

theorem Linear.acquire (h : Linear holds inUse) {a : η} {r : ρ} (hempty : holds a = none)
    (hfree : inUse r = false) :
    Linear (act holds (.acquire a r)) (Function.update inUse r true) := by
  have hnobody : ∀ b, holds b ≠ some r := by
    intro b hb
    rw [(h.inUse_iff r).mpr ⟨b, hb⟩] at hfree
    cases hfree
  constructor
  · intro x
    simp only [act, update_eq_some]
    by_cases hx : x = r
    · simp only [hx, Function.update_self, true_iff]
      exact ⟨a, .inl ⟨rfl, trivial⟩⟩
    · rw [Function.update_of_ne hx, h.inUse_iff]
      constructor
      · intro ⟨b, hb⟩
        refine ⟨b, .inr ⟨?_, hb⟩⟩
        rintro rfl
        rw [hempty] at hb
        cases hb
      · intro ⟨b, hb⟩
        rcases hb with ⟨-, hrx⟩ | ⟨-, hb⟩
        · exact absurd (Option.some.inj hrx).symm hx
        · exact ⟨b, hb⟩
  · intro b c x hb hc
    simp only [act, update_eq_some] at hb hc
    rcases hb with ⟨rfl, hrx⟩ | ⟨-, hb⟩ <;> rcases hc with ⟨rfl, hrx'⟩ | ⟨-, hc⟩
    · rfl
    · exact absurd hc (hrx ▸ hnobody c)
    · exact absurd hb (hrx' ▸ hnobody b)
    · exact h.unique b c x hb hc

omit [DecidableEq ρ] in
theorem Linear.move (h : Linear holds inUse) {src dst : η} (hne : src ≠ dst)
    (hempty : holds dst = none) : Linear (act holds (.move src dst)) inUse := by
  have hiff (b : η) (x : ρ) : act holds (.move src dst) b = some x ↔
      (b = dst ∧ holds src = some x) ∨ (b ≠ src ∧ holds b = some x) := by
    simp only [act, update_eq_some, reduceCtorEq, and_false, false_or]
    constructor
    · intro ⟨hsrc, hb⟩
      exact hb.imp id fun hb => ⟨hsrc, hb.2⟩
    · intro hb
      rcases hb with ⟨rfl, hx⟩ | ⟨hsrc, hx⟩
      · exact ⟨hne.symm, .inl ⟨rfl, hx⟩⟩
      · refine ⟨hsrc, .inr ⟨?_, hx⟩⟩
        rintro rfl
        rw [hempty] at hx
        cases hx
  constructor
  · intro x
    rw [h.inUse_iff]
    constructor
    · intro ⟨b, hb⟩
      by_cases hsrc : b = src
      · exact ⟨dst, (hiff dst x).mpr (.inl ⟨rfl, hsrc ▸ hb⟩)⟩
      · exact ⟨b, (hiff b x).mpr (.inr ⟨hsrc, hb⟩)⟩
    · intro ⟨b, hb⟩
      rcases (hiff b x).mp hb with ⟨-, hx⟩ | ⟨-, hx⟩
      · exact ⟨src, hx⟩
      · exact ⟨b, hx⟩
  · intro b c x hb hc
    rcases (hiff b x).mp hb with ⟨rfl, hx⟩ | ⟨hbsrc, hx⟩ <;>
      rcases (hiff c x).mp hc with ⟨rfl, hx'⟩ | ⟨hcsrc, hx'⟩
    · rfl
    · exact absurd (h.unique c src x hx' hx) hcsrc
    · exact absurd (h.unique b src x hx hx') hbsrc
    · exact h.unique b c x hx hx'

theorem Linear.release (h : Linear holds inUse) {a : η} {r : ρ} (ha : holds a = some r) :
    Linear (act holds (.release a)) (Function.update inUse r false) := by
  constructor
  · intro x
    simp only [act, update_eq_some, reduceCtorEq, and_false, false_or]
    by_cases hx : x = r
    · simp only [hx, Function.update_self, Bool.false_eq_true, false_iff, not_exists, not_and]
      exact fun b hb hr => hb (h.unique b a r hr ha)
    · rw [Function.update_of_ne hx, h.inUse_iff]
      constructor
      · intro ⟨b, hb⟩
        refine ⟨b, ?_, hb⟩
        rintro rfl
        exact hx (Option.some.inj (hb.symm.trans ha))
      · intro ⟨b, hb⟩
        exact ⟨b, hb.2⟩
  · intro b c x hb hc
    simp only [act, update_eq_some, reduceCtorEq, and_false, false_or] at hb hc
    exact h.unique b c x hb.2 hc.2

/-- One event, with what the pool makes of it. -/
theorem Linear.step (h : Linear holds inUse) {e : Event η ρ} (hempty : EmptyHanded holds e)
    (hfollow : follow inUse (effect holds e) = some inUse') : Linear (act holds e) inUse' := by
  cases e with
  | acquire a r =>
    simp only [effect, follow] at hfollow
    split at hfollow
    · cases hfollow
    · rename_i hfree
      obtain rfl := Option.some.inj hfollow
      exact h.acquire hempty (Bool.eq_false_iff.mpr hfree)
  | move src dst =>
    obtain rfl := Option.some.inj hfollow
    exact h.move hempty.1 hempty.2
  | release a =>
    cases ha : holds a with
    | none =>
      simp only [effect, ha, Option.toList_none, List.map_nil, follow] at hfollow
      obtain rfl := Option.some.inj hfollow
      rwa [act, Function.update_eq_self_iff.mpr ha.symm]
    | some r =>
      simp only [effect, ha, Option.toList_some, List.map_cons, List.map_nil, follow] at hfollow
      obtain rfl := Option.some.inj hfollow
      exact h.release ha

/-- What has been handed out and not been given back is what is in use, at the beginning and
at the end. -/
def Balanced (inUse inUse' : ρ → Bool) (fx : List (Effect ρ)) : Prop :=
  ∀ r, fx.count (.acquired r) + (inUse r).toNat = fx.count (.released r) + (inUse' r).toNat

theorem balanced_trans {inUse'' : ρ → Bool} {fx fx' : List (Effect ρ)}
    (h : Balanced inUse inUse' fx) (h' : Balanced inUse' inUse'' fx') :
    Balanced inUse inUse'' (fx ++ fx') := by
  intro r
  have hr := h r
  have hr' := h' r
  simp only [List.count_append]
  omega

omit [DecidableEq η] in
theorem Linear.balanced_step (h : Linear holds inUse) {e : Event η ρ}
    (hfollow : follow inUse (effect holds e) = some inUse') :
    Balanced inUse inUse' (effect holds e) := by
  cases e with
  | acquire a r =>
    simp only [effect, follow] at hfollow
    split at hfollow
    · cases hfollow
    · rename_i hfree
      obtain rfl := Option.some.inj hfollow
      intro x
      by_cases hx : r = x
      · simp [effect, ← hx, hfree]
      · simp [effect, hx, Function.update_of_ne (Ne.symm hx)]
  | move src dst =>
    obtain rfl := Option.some.inj hfollow
    exact fun r => rfl
  | release a =>
    cases ha : holds a with
    | none =>
      simp only [effect, ha, Option.toList_none, List.map_nil, follow] at hfollow ⊢
      obtain rfl := Option.some.inj hfollow
      exact fun r => rfl
    | some r =>
      simp only [effect, ha, Option.toList_some, List.map_cons, List.map_nil, follow] at hfollow ⊢
      obtain rfl := Option.some.inj hfollow
      have hin := (h.inUse_iff r).mpr ⟨a, ha⟩
      intro x
      by_cases hx : r = x
      · simp [← hx, hin]
      · simp [hx, Function.update_of_ne (Ne.symm hx)]

/-- **Custody is kept.** When nobody is ever given something who already has something, the
resources in use are at the end those held, none is held twice, and what was handed out and taken
back accounts for the difference. -/
theorem Linear.run (h : Linear holds inUse) (hempty : Along (total act) EmptyHanded holds es)
    (hfollow : follow inUse (effects holds es) = some inUse') :
    Linear (es.foldl act holds) inUse' ∧ Balanced inUse inUse' (effects holds es) := by
  induction es generalizing holds inUse with
  | nil =>
    obtain rfl := Option.some.inj hfollow
    exact ⟨h, fun r => rfl⟩
  | cons e es ih =>
    rw [effects, follow_append] at hfollow
    obtain ⟨inUse₁, hone, hrest⟩ := Option.bind_eq_some_iff.mp hfollow
    obtain ⟨hfirst, hlater⟩ := along_total_cons.mp hempty
    obtain ⟨hlinear, hbalanced⟩ := ih (h.step hfirst hone) hlater hrest
    exact ⟨hlinear, balanced_trans (h.balanced_step hone) hbalanced⟩

/-- The same at every point of a sequence. -/
theorem Linear.prefixes (h : Linear holds inUse) (hempty : Along (total act) EmptyHanded holds es)
    (hfollow : follow inUse (effects holds es) = some inUse') {done rest : List (Event η ρ)}
    (hsplit : es = done ++ rest) : ∃ now, follow inUse (effects holds done) = some now ∧
      Linear (done.foldl act holds) now ∧ Balanced inUse now (effects holds done) := by
  subst hsplit
  rw [effects_append, follow_append] at hfollow
  obtain ⟨now, hdone, -⟩ := Option.bind_eq_some_iff.mp hfollow
  exact ⟨now, hdone, h.run (emptyHanded_append.mp hempty).1 hdone⟩

/-! ## Beside other holders -/

section Beside

variable {κ : Type*} [DecidableEq κ] {others : κ → Option ρ}

/-- The event of one group of holders among all of them. -/
def Event.beside : Event η ρ → Event (η ⊕ κ) ρ
  | .acquire h r => .acquire (.inl h) r
  | .move src dst => .move (.inl src) (.inl dst)
  | .release h => .release (.inl h)

omit [DecidableEq ρ] in
theorem act_beside (e : Event η ρ) :
    act (Sum.elim holds others) e.beside = Sum.elim (act holds e) others := by
  cases e with
  | acquire a r => exact Sum.update_elim_inl
  | move src dst => simp only [Event.beside, act, Sum.elim_inl, Sum.update_elim_inl]
  | release a => exact Sum.update_elim_inl

omit [DecidableEq η] [DecidableEq ρ] [DecidableEq κ] in
theorem effect_beside (e : Event η ρ) :
    effect (Sum.elim holds others) e.beside = effect holds e := by
  cases e <;> rfl

omit [DecidableEq η] [DecidableEq ρ] [DecidableEq κ] in
theorem emptyHanded_beside {e : Event η ρ} (h : EmptyHanded holds e) :
    EmptyHanded (Sum.elim holds others) e.beside := by
  cases e with
  | acquire a r => exact h
  | move src dst => exact ⟨fun heq => h.1 (Sum.inl.inj heq), h.2⟩
  | release a => trivial

/-- What one group of holders does leaves what the others hold with them, and all of them have
custody of what is in use. -/
theorem Linear.beside (hlinear : Linear (Sum.elim holds others) inUse)
    (hempty : Along (total act) EmptyHanded holds es)
    (hfollow : follow inUse (effects holds es) = some inUse') :
    Linear (Sum.elim (es.foldl act holds) others) inUse' := by
  induction es generalizing holds inUse with
  | nil =>
    obtain rfl := Option.some.inj hfollow
    exact hlinear
  | cons e es ih =>
    rw [effects, follow_append] at hfollow
    obtain ⟨inUse₁, hone, hrest⟩ := Option.bind_eq_some_iff.mp hfollow
    obtain ⟨hfirst, hlater⟩ := along_total_cons.mp hempty
    have hstep : Linear (act (Sum.elim holds others) e.beside) inUse₁ := by
      apply hlinear.step (emptyHanded_beside hfirst)
      rw [effect_beside]
      exact hone
    rw [act_beside] at hstep
    exact ih hstep hlater hrest

end Beside

end Lib.Custody
