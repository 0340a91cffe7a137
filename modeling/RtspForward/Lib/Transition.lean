import Mathlib.Tactic.Common

/-!
# Runs of a partial step function

A system is a step function `σ → ι → Option σ`; a label carries every choice the
environment makes, so a run is a list of labels. `Along` says that each label of a
run meets a condition in the state in which it is taken. The two rules below turn
facts about one step into facts about whole runs.
-/
namespace Lib.Transition

variable {σ τ ι : Type*}

/-- The state after a list of labels, if every step is enabled. -/
def run (step : σ → ι → Option σ) : σ → List ι → Option σ
  | s, [] => some s
  | s, i :: is => (step s i).bind fun t => run step t is

/-- Every label of the run meets `G` in the state in which it is taken. -/
def Along (step : σ → ι → Option σ) (G : σ → ι → Prop) : σ → List ι → Prop
  | _, [] => True
  | s, i :: is => G s i ∧ ∀ t, step s i = some t → Along step G t is

/-- A decidable condition can be evaluated along a run. -/
instance decidableAlong (step : σ → ι → Option σ) (G : σ → ι → Prop) [∀ s i, Decidable (G s i)] :
    ∀ s is, Decidable (Along step G s is)
  | _, [] => isTrue trivial
  | s, i :: is =>
    match h : step s i with
    | none => decidable_of_iff (G s i) (by simp [Along, h])
    | some t =>
      have := decidableAlong step G t is
      decidable_of_iff (G s i ∧ Along step G t is) (by simp [Along, h])

variable {step : σ → ι → Option σ} {astep : τ → ι → Option τ} {G : σ → ι → Prop}

@[simp] theorem along_nil (s : σ) : Along step G s [] := trivial

@[simp] theorem run_nil (s : σ) : run step s [] = some s := rfl

theorem run_cons {s u : σ} {i : ι} {is : List ι} :
    run step s (i :: is) = some u ↔ ∃ t, step s i = some t ∧ run step t is = some u := by
  simp only [run, Option.bind_eq_some_iff]

theorem run_append {is js : List ι} : ∀ {s t u : σ}, run step s is = some t →
    run step t js = some u → run step s (is ++ js) = some u := by
  induction is with
  | nil =>
    intro s t u hr hr'
    rw [run_nil, Option.some.injEq] at hr
    exact hr ▸ hr'
  | cons i is ih =>
    intro s t u hr hr'
    obtain ⟨v, hv, hr⟩ := run_cons.mp hr
    exact run_cons.mpr ⟨v, hv, ih hr hr'⟩

/-- An invariant preserved by every step that meets the condition holds at the end
of every run whose steps all meet it. -/
theorem Along.invariant {Inv : σ → Prop}
    (hstep : ∀ s i t, Inv s → G s i → step s i = some t → Inv t) {is : List ι} :
    ∀ {s u : σ}, Inv s → Along step G s is → run step s is = some u → Inv u := by
  induction is with
  | nil =>
    intro s u hs _ hr
    rw [run_nil, Option.some.injEq] at hr
    exact hr ▸ hs
  | cons i is ih =>
    intro s u hs hg hr
    obtain ⟨t, ht, hr⟩ := run_cons.mp hr
    exact ih (hstep s i t hs hg.1 ht) (hg.2 t ht) hr

/-- With an invariant, a condition on the steps of a run carries over to another one. -/
theorem Along.imp_of_invariant {Inv : σ → Prop} {P : σ → ι → Prop}
    (hstep : ∀ s i t, Inv s → G s i → step s i = some t → Inv t)
    (himp : ∀ s i, Inv s → G s i → P s i) {is : List ι} :
    ∀ {s : σ}, Inv s → Along step G s is → Along step P s is := by
  induction is with
  | nil => exact fun _ _ => trivial
  | cons i is ih =>
    intro s hs hg
    exact ⟨himp s i hs hg.1, fun t ht => ih (hstep s i t hs hg.1 ht) (hg.2 t ht)⟩

/-- A condition on the labels alone, added to one on the steps. -/
theorem Along.and_labels {P : ι → Prop} {is : List ι} (h : ∀ i ∈ is, P i) :
    ∀ {s : σ}, Along step G s is → Along step (fun s i => P i ∧ G s i) s is := by
  induction is with
  | nil => exact fun _ => trivial
  | cons i is ih =>
    intro s hg
    exact ⟨⟨h i (by simp), hg.1⟩, fun t ht => ih (fun j hj => h j (by simp [hj])) (hg.2 t ht)⟩

/-- What holds of every enabled step holds along every run. -/
theorem along_of_run {P : σ → ι → Prop} (h : ∀ s i t, step s i = some t → P s i) {is : List ι} :
    ∀ {s u : σ}, run step s is = some u → Along step P s is := by
  induction is with
  | nil => exact fun _ => trivial
  | cons i is ih =>
    intro s u hr
    obtain ⟨t, ht, hr⟩ := run_cons.mp hr
    refine ⟨h s i t ht, fun t' ht' => ?_⟩
    obtain rfl : t = t' := Option.some.inj (ht.symm.trans ht')
    exact ih hr

/-- A property that a step keeps exactly when it meets the condition, under an invariant, holds
at the end of a run exactly when all its steps meet it. -/
theorem along_iff_of_invariant {I P : σ → Prop} (hkeep : ∀ s i t, I s → step s i = some t → I t)
    (h : ∀ s i t, I s → step s i = some t → (P t ↔ P s ∧ G s i)) {is : List ι} :
    ∀ {s u : σ}, I s → run step s is = some u → (P u ↔ P s ∧ Along step G s is) := by
  induction is with
  | nil =>
    intro s u _ hr
    rw [run_nil, Option.some.injEq] at hr
    simp [Along, hr]
  | cons i is ih =>
    intro s u hs hr
    obtain ⟨t, ht, hr⟩ := run_cons.mp hr
    simp only [Along, ht, Option.some.injEq, forall_eq']
    rw [ih (hkeep s i t hs ht) hr, h s i t hs ht, and_assoc]

theorem along_iff {P : σ → Prop} (h : ∀ s i t, step s i = some t → (P t ↔ P s ∧ G s i))
    {is : List ι} {s u : σ} (hr : run step s is = some u) : P u ↔ P s ∧ Along step G s is :=
  along_iff_of_invariant (fun _ _ _ _ _ => trivial) (fun s i t _ => h s i t) (I := fun _ => True)
    trivial hr

/-- The steps of a run: the labels, each with the state in which it is taken. -/
def trace (step : σ → ι → Option σ) : σ → List ι → List (σ × ι)
  | _, [] => []
  | s, i :: is =>
    (s, i) :: match step s i with
      | none => []
      | some t => trace step t is

/-- An invariant of the state and the steps taken so far holds at the end of a run whose
steps all meet the condition. -/
theorem Along.trace_invariant {I : σ → List (σ × ι) → Prop}
    (hstep : ∀ s taken i t, I s taken → G s i → step s i = some t → I t (taken ++ [(s, i)]))
    {is : List ι} : ∀ {s u : σ} {taken : List (σ × ι)}, I s taken → Along step G s is →
      run step s is = some u → I u (taken ++ trace step s is) := by
  induction is with
  | nil =>
    intro s u taken hs _ hr
    rw [run_nil, Option.some.injEq] at hr
    simpa [trace, hr] using hs
  | cons i is ih =>
    intro s u taken hs hg hr
    obtain ⟨t, ht, hr⟩ := run_cons.mp hr
    have hnext := ih (hstep s taken i t hs hg.1 ht) (hg.2 t ht) hr
    simpa [trace, ht] using hnext

/-- A property of all states of a run, in view of the steps before them, is the condition on
its steps, when the condition keeps an invariant that implies the property and a step that
breaks the condition breaks the property. -/
theorem along_iff_trace {I P : σ → List (σ × ι) → Prop}
    (hkeep : ∀ s taken i t, I s taken → G s i → step s i = some t → I t (taken ++ [(s, i)]))
    (himp : ∀ s taken, I s taken → P s taken)
    (hbreak : ∀ s taken i t, I s taken → step s i = some t → P t (taken ++ [(s, i)]) → G s i)
    {is : List ι} :
    ∀ (taken : List (σ × ι)) {s u : σ}, I s taken → run step s is = some u →
      ((∀ done rest t, is = done ++ rest → run step s done = some t →
        P t (taken ++ trace step s done)) ↔ Along step G s is) := by
  induction is with
  | nil =>
    intro taken s u hs _
    refine ⟨fun _ => trivial, fun _ done rest t hsplit hr => ?_⟩
    obtain ⟨rfl, -⟩ := List.append_eq_nil_iff.mp hsplit.symm
    obtain rfl := Option.some.inj hr
    rw [trace, List.append_nil]
    exact himp s taken hs
  | cons i is ih =>
    intro taken s u hs hr
    obtain ⟨t, ht, hr⟩ := run_cons.mp hr
    constructor
    · intro h
      have hnext := h [i] is t rfl (by simp [run, ht])
      have hG := hbreak s taken i t hs ht (by simpa [trace, ht] using hnext)
      refine ⟨hG, fun t' ht' => ?_⟩
      obtain rfl := Option.some.inj (ht.symm.trans ht')
      refine (ih _ (hkeep s taken i t hs hG ht) hr).mp fun done rest v hsplit hv => ?_
      have hlater := h (i :: done) rest v (by simp [hsplit]) (run_cons.mpr ⟨t, ht, hv⟩)
      simpa [trace, ht] using hlater
    · intro hG done rest v hsplit hv
      cases done with
      | nil =>
        obtain rfl := Option.some.inj hv
        rw [trace, List.append_nil]
        exact himp s taken hs
      | cons j done =>
        rw [List.cons_append, List.cons.injEq] at hsplit
        obtain ⟨rfl, hsplit⟩ := hsplit
        obtain ⟨t', ht', hv⟩ := run_cons.mp hv
        obtain rfl := Option.some.inj (ht.symm.trans ht')
        have hlater := (ih _ (hkeep s taken i t hs hG.1 ht) hr).mpr (hG.2 t ht) done rest v hsplit hv
        simpa [trace, ht] using hlater

/-- A property of all states of a run is the condition on its steps, when the condition
keeps an invariant that implies the property and a step that breaks the condition breaks
the property. -/
theorem along_iff_states {I P : σ → Prop}
    (hkeep : ∀ s i t, I s → G s i → step s i = some t → I t) (himp : ∀ s, I s → P s)
    (hbreak : ∀ s i t, I s → step s i = some t → P t → G s i) {is : List ι} :
    ∀ {s u : σ}, I s → run step s is = some u →
      ((∀ done rest t, is = done ++ rest → run step s done = some t → P t) ↔
        Along step G s is) :=
  along_iff_trace (I := fun s _ => I s) (P := fun s _ => P s) (fun s _ => hkeep s)
    (fun s _ => himp s) (fun s _ => hbreak s) []

/-- A property of every step of a run, in view of the steps before it, is the condition on
the steps when the two agree under an invariant. -/
theorem along_iff_steps {I : σ → Prop} {P : List (σ × ι) → σ → ι → σ → Prop}
    (hkeep : ∀ s i t, I s → step s i = some t → I t)
    (hiff : ∀ taken s i t, I s → step s i = some t → (P taken s i t ↔ G s i)) {is : List ι} :
    ∀ (taken : List (σ × ι)) {s u : σ}, I s → run step s is = some u →
      ((∀ done i rest v w, is = done ++ i :: rest → run step s done = some v →
        step v i = some w → P (taken ++ trace step s done) v i w) ↔ Along step G s is) := by
  induction is with
  | nil =>
    intro taken s u _ _
    exact ⟨fun _ => trivial, fun _ done i rest v w hsplit => by simp at hsplit⟩
  | cons i is ih =>
    intro taken s u hs hr
    obtain ⟨t, ht, hr⟩ := run_cons.mp hr
    have hrest := ih (taken ++ [(s, i)]) (hkeep s i t hs ht) hr
    constructor
    · intro h
      have hfirst := h [] i is s t rfl rfl ht
      rw [trace, List.append_nil] at hfirst
      refine ⟨(hiff taken s i t hs ht).mp hfirst, fun t' ht' => ?_⟩
      obtain rfl := Option.some.inj (ht.symm.trans ht')
      refine hrest.mp fun done j rest v w hsplit hv hw => ?_
      have hlater := h (i :: done) j rest v w (by simp [hsplit]) (run_cons.mpr ⟨t, ht, hv⟩) hw
      simpa [trace, ht] using hlater
    · intro hG done j rest v w hsplit hv hw
      cases done with
      | nil =>
        obtain ⟨rfl, rfl⟩ : i = j ∧ is = rest := by simpa using hsplit
        obtain rfl := Option.some.inj hv
        rw [trace, List.append_nil]
        exact (hiff taken s i w hs hw).mpr hG.1
      | cons k done =>
        rw [List.cons_append, List.cons.injEq] at hsplit
        obtain ⟨rfl, hsplit⟩ := hsplit
        obtain ⟨t', ht', hv⟩ := run_cons.mp hv
        obtain rfl := Option.some.inj (ht.symm.trans ht')
        have hlater := hrest.mpr (hG.2 t ht) done j rest v w hsplit hv hw
        simpa [trace, ht] using hlater

theorem along_true (s : σ) (is : List ι) : Along step (fun _ _ => True) s is := by
  induction is generalizing s with
  | nil => trivial
  | cons i is ih => exact ⟨trivial, fun t _ => ih t⟩

/-- The unconditional form: an inductive invariant holds at the end of every run. -/
theorem run_invariant {Inv : σ → Prop} (hstep : ∀ s i t, Inv s → step s i = some t → Inv t)
    {s u : σ} {is : List ι} (hs : Inv s) (hr : run step s is = some u) : Inv u :=
  Along.invariant (fun s i t h _ => hstep s i t h) hs (along_true s is) hr

/-- A step function that is always enabled. -/
def total (next : σ → ι → σ) : σ → ι → Option σ := fun s i => some (next s i)

theorem along_total_cons {next : σ → ι → σ} {s : σ} {i : ι} {is : List ι} :
    Along (total next) G s (i :: is) ↔ G s i ∧ Along (total next) G (next s i) is := by
  simp [Along, total]

/-- A relation preserved step by step is preserved by whole runs. -/
theorem run_simulation {R : σ → τ → Prop}
    (hstep : ∀ s a i t, R s a → step s i = some t → ∃ b, astep a i = some b ∧ R t b)
    {is : List ι} : ∀ {s u : σ} {a : τ}, R s a → run step s is = some u →
      ∃ b, run astep a is = some b ∧ R u b := by
  induction is with
  | nil =>
    intro s u a hs hr
    rw [run_nil, Option.some.injEq] at hr
    exact ⟨a, rfl, hr ▸ hs⟩
  | cons i is ih =>
    intro s u a hs hr
    obtain ⟨t, ht, hr⟩ := run_cons.mp hr
    obtain ⟨b, hb, hR⟩ := hstep s a i t hs ht
    obtain ⟨c, hc, hu⟩ := ih hR hr
    exact ⟨c, run_cons.mpr ⟨b, hb, hc⟩, hu⟩

end Lib.Transition
