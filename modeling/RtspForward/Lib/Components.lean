import RtspForward.Lib.Transition
import Mathlib.Algebra.GroupWithZero.Nat
import Mathlib.Algebra.Order.BigOperators.Group.Finset
import Mathlib.Data.List.Basic

/-!
# Following one part of a system

Three rules for what a whole run does to one part of the state. A component that only changes
by calls made on it runs by itself, on these calls, from the state in which it came into being. A
store that takes items in at one end and gives them out at the other has given out what came
in, in the same order, up to what it still holds. And when every step is paid for by a
potential, the cost of a run is at most the potential it started with and what it gained.
-/
namespace Lib.Transition

variable {σ ι κ ε α : Type*} {step : σ → ι → Option σ} {I : σ → Prop}

/-! ## Components -/

/-- The calls made on a component in the steps of a run. -/
def calls (call : σ → ι → Option ε) (taken : List (σ × ι)) : List ε :=
  taken.filterMap fun p => call p.1 p.2

/-- A component that comes into being at most once and then moves by calls alone, at most one in
a step of the system. -/
structure Projects (step : σ → ι → Option σ) (I unborn : σ → Prop) (component : σ → Option κ)
    (Born : κ → Prop) (call : σ → ι → Option ε) (cstep : κ → ε → Option κ) : Prop where
  keep : ∀ s i t, I s → step s i = some t → I t
  /-- What is unborn has always been. -/
  unborn_back : ∀ s i t, I s → step s i = some t → unborn t → unborn s ∧ call s i = none
  none_of_unborn : ∀ s, I s → unborn s → component s = none
  step_eq : ∀ s i t y, I s → step s i = some t → component t = some y →
    (unborn s ∧ call s i = none ∧ Born y) ∨
      ∃ x, component s = some x ∧ run cstep x (call s i).toList = some y

theorem calls_concat (call : σ → ι → Option ε) (taken : List (σ × ι)) (s : σ) (i : ι) :
    calls call (taken ++ [(s, i)]) = calls call taken ++ (call s i).toList := by
  rw [calls, List.filterMap_append]
  cases hcall : call s i with
  | none => simp [calls, hcall]
  | some c => simp [calls, hcall]

/-- One more label, or none. -/
theorem Along.concat {G : σ → ι → Prop} {o : Option ι} {is : List ι} :
    ∀ {s t : σ}, Along step G s is → run step s is = some t → (∀ i ∈ o.toList, G t i) →
      Along step G s (is ++ o.toList) := by
  induction is with
  | nil =>
    intro s t _ hr ho
    obtain rfl := Option.some.inj hr
    cases o with
    | none => trivial
    | some i => exact ⟨ho i (by simp), fun _ _ => trivial⟩
  | cons i is ih =>
    intro s t hg hr ho
    obtain ⟨u, hu, hr⟩ := run_cons.mp hr
    refine ⟨hg.1, fun u' hu' => ?_⟩
    obtain rfl := Option.some.inj (hu.symm.trans hu')
    exact ih (hg.2 u hu) hr ho

/-- A run of the system is a run of the component, on the calls that were made on it; and what
the steps of the system's run meet at its calls, the component's run meets. -/
theorem Projects.run_along {unborn : σ → Prop} {component : σ → Option κ} {Born : κ → Prop}
    {call : σ → ι → Option ε} {cstep : κ → ε → Option κ} {P : κ → ε → Prop}
    (h : Projects step I unborn component Born call cstep) {s u : σ} {is : List ι} (hI : I s)
    (hs : unborn s)
    (hP : Along step (fun s i => ∀ x ∈ component s, ∀ c ∈ call s i, P x c) s is)
    (hr : run step s is = some u) {y : κ} (hy : component u = some y) :
    ∃ x, Born x ∧ run cstep x (calls call (trace step s is)) = some y ∧
      Along cstep P x (calls call (trace step s is)) := by
  let J (v : σ) (taken : List (σ × ι)) : Prop :=
    I v ∧ (unborn v → calls call taken = []) ∧ ∀ y, component v = some y →
      ∃ x, Born x ∧ run cstep x (calls call taken) = some y ∧ Along cstep P x (calls call taken)
  have hstart : J s [] := by
    refine ⟨hI, fun _ => rfl, fun y hy => ?_⟩
    rw [h.none_of_unborn s hI hs] at hy
    cases hy
  have hstep (v : σ) (taken : List (σ × ι)) (i : ι) (w : σ) (hv : J v taken)
      (hcond : ∀ x ∈ component v, ∀ c ∈ call v i, P x c) (hw : step v i = some w) :
      J w (taken ++ [(v, i)]) := by
    obtain ⟨hIv, hnone, hrun⟩ := hv
    refine ⟨h.keep v i w hIv hw, fun hunborn => ?_, fun y hy => ?_⟩
    · obtain ⟨hv, hcall⟩ := h.unborn_back v i w hIv hw hunborn
      rw [calls_concat, hnone hv, hcall]
      rfl
    · rw [calls_concat]
      rcases h.step_eq v i w y hIv hw hy with ⟨hv, hcall, hborn⟩ | ⟨x, hx, hlast⟩
      · refine ⟨y, hborn, ?_⟩
        rw [hnone hv, hcall]
        exact ⟨rfl, trivial⟩
      · obtain ⟨x₀, hborn, hx₀, halong⟩ := hrun x hx
        refine ⟨x₀, hborn, run_append hx₀ hlast, halong.concat hx₀ fun c hc => ?_⟩
        exact hcond x hx c (Option.mem_toList.mp hc)
  have hend : J u ([] ++ trace step s is) := Along.trace_invariant (I := J) hstep hstart hP hr
  exact hend.2.2 y hy

theorem Projects.run_component {unborn : σ → Prop} {component : σ → Option κ} {Born : κ → Prop}
    {call : σ → ι → Option ε} {cstep : κ → ε → Option κ}
    (h : Projects step I unborn component Born call cstep) {s u : σ} {is : List ι} (hI : I s)
    (hs : unborn s) (hr : run step s is = some u) {y : κ} (hy : component u = some y) :
    ∃ x, Born x ∧ run cstep x (calls call (trace step s is)) = some y := by
  have halong : Along step (fun s i => ∀ x ∈ component s, ∀ c ∈ call s i, True) s is :=
    along_of_run (fun _ _ _ _ _ _ _ _ => trivial) hr
  obtain ⟨x, hborn, hrun, -⟩ := h.run_along hI hs halong hr hy
  exact ⟨x, hborn, hrun⟩

/-! ## Stores -/

/-- What a run puts into a store, or takes out of it. -/
def totalOf (items : σ → ι → List α) (taken : List (σ × ι)) : List α :=
  taken.flatMap fun p => items p.1 p.2

/-- What depends on the labels alone. -/
theorem totalOf_labels {items : ι → List α} {is : List ι} : ∀ {s u : σ}, run step s is = some u →
    totalOf (fun _ i => items i) (trace step s is) = is.flatMap items := by
  induction is with
  | nil => exact fun _ => rfl
  | cons i is ih =>
    intro s u hr
    obtain ⟨t, ht, hr⟩ := run_cons.mp hr
    have hrest := ih hr
    simp only [totalOf] at hrest
    simp only [trace, ht, totalOf, List.flatMap_cons, hrest]

/-- What comes with the calls on a component. -/
theorem flatMap_calls (call : σ → ι → Option ε) (items : ε → List α) (taken : List (σ × ι)) :
    (calls call taken).flatMap items =
      totalOf (fun s i => (call s i).toList.flatMap items) taken := by
  rw [calls, List.filterMap_eq_flatMap_toList, List.flatMap_assoc]
  rfl

/-- First in, first out: what was stored and what came in is what went out and what is left. -/
theorem run_ledger {G : σ → ι → Prop} {stored : σ → List α} {inn out : σ → ι → List α}
    (hkeep : ∀ s i t, I s → step s i = some t → I t)
    (hstep : ∀ s i t, I s → G s i → step s i = some t →
      stored s ++ inn s i = out s i ++ stored t)
    {is : List ι} : ∀ {s u : σ}, I s → Along step G s is → run step s is = some u →
      stored s ++ totalOf inn (trace step s is) =
        totalOf out (trace step s is) ++ stored u := by
  induction is with
  | nil =>
    intro s u _ _ hr
    rw [run_nil, Option.some.injEq] at hr
    simp [trace, totalOf, hr]
  | cons i is ih =>
    intro s u hs hg hr
    obtain ⟨t, ht, hr⟩ := run_cons.mp hr
    have hone := hstep s i t hs hg.1 ht
    have hrest := ih (hkeep s i t hs ht) (hg.2 t ht) hr
    simp only [totalOf] at hrest
    simp only [trace, ht, totalOf, List.flatMap_cons]
    rw [← List.append_assoc, hone, List.append_assoc, hrest, List.append_assoc]

/-- In whatever order: what was held and what came in is what went out and what is held. -/
theorem run_balance (held : σ → List α) (inn out : σ → ι → List α)
    (hkeep : ∀ s i t, I s → step s i = some t → I t)
    (hstep : ∀ s i t, I s → step s i = some t →
      (held t ++ out s i).Perm (held s ++ inn s i))
    {is : List ι} : ∀ {s u : σ}, I s → run step s is = some u →
      (held u ++ totalOf out (trace step s is)).Perm
        (held s ++ totalOf inn (trace step s is)) := by
  induction is with
  | nil =>
    intro s u _ hr
    obtain rfl := Option.some.inj hr
    exact .refl _
  | cons i is ih =>
    intro s u hs hr
    obtain ⟨t, ht, hr⟩ := run_cons.mp hr
    have hone := hstep s i t hs ht
    have hrest := ih (hkeep s i t hs ht) hr
    simp only [totalOf] at hrest
    simp only [trace, ht, totalOf, List.flatMap_cons]
    have hshift := (List.perm_append_comm_assoc (held u) (out s i) _).trans (hrest.append_left (out s i))
    refine hshift.trans ?_
    rw [← List.append_assoc, ← List.append_assoc]
    exact (List.perm_append_comm.trans hone).append_right _

/-- A counter that wraps around has counted all items, up to its modulus. -/
theorem run_counter {m : Nat} (counter : σ → Nat) (items : σ → ι → List α)
    (hkeep : ∀ s i t, I s → step s i = some t → I t)
    (hstep : ∀ s i t, I s → step s i = some t → counter t = (counter s + (items s i).length) % m)
    {is : List ι} : ∀ {s u : σ}, I s → counter s < m → run step s is = some u →
      counter u = (counter s + (totalOf items (trace step s is)).length) % m := by
  induction is with
  | nil =>
    intro s u _ hlt hr
    obtain rfl := Option.some.inj hr
    exact (Nat.mod_eq_of_lt hlt).symm
  | cons i is ih =>
    intro s u hs hlt hr
    obtain ⟨t, ht, hr⟩ := run_cons.mp hr
    have hone := hstep s i t hs ht
    have hlt' : counter t < m := hone ▸ Nat.mod_lt _ (by omega)
    have hrest := ih (hkeep s i t hs ht) hlt' hr
    simp only [totalOf] at hrest
    simp only [trace, ht, totalOf, List.flatMap_cons, List.length_append]
    rw [hrest, hone, Nat.mod_add_mod, Nat.add_assoc]

/-! ## Potentials -/

/-- The sum of a quantity over the steps of a run. -/
def sumOf (amount : σ → ι → Nat) (taken : List (σ × ι)) : Nat :=
  (taken.map fun p => amount p.1 p.2).sum

/-- Every step costs at most what the potential loses and gains. -/
theorem run_potential {potential : σ → Nat} {cost gain : σ → ι → Nat}
    (hkeep : ∀ s i t, I s → step s i = some t → I t)
    (hstep : ∀ s i t, I s → step s i = some t →
      cost s i + potential t ≤ potential s + gain s i)
    {is : List ι} : ∀ {s u : σ}, I s → run step s is = some u →
      sumOf cost (trace step s is) + potential u ≤
        potential s + sumOf gain (trace step s is) := by
  induction is with
  | nil =>
    intro s u _ hr
    rw [run_nil, Option.some.injEq] at hr
    simp [trace, sumOf, hr]
  | cons i is ih =>
    intro s u hs hr
    obtain ⟨t, ht, hr⟩ := run_cons.mp hr
    have hone := hstep s i t hs ht
    have hrest := ih (hkeep s i t hs ht) hr
    simp only [sumOf] at hrest
    simp only [trace, ht, sumOf, List.map_cons, List.sum_cons]
    omega

/-- In a sum over a family, what one member gains or loses. -/
theorem sum_range_change {n a d e : Nat} {f g : Nat → Nat} (ha : a < n)
    (hother : ∀ b, b ≠ a → g b ≤ f b) (hone : g a + e ≤ f a + d) :
    ∑ b ∈ Finset.range n, g b + e ≤ ∑ b ∈ Finset.range n, f b + d := by
  have hmem : a ∈ Finset.range n := Finset.mem_range.mpr ha
  have hrest : ∑ b ∈ (Finset.range n).erase a, g b ≤ ∑ b ∈ (Finset.range n).erase a, f b :=
    Finset.sum_le_sum fun b hb => hother b (Finset.ne_of_mem_erase hb)
  have hg := Finset.add_sum_erase (Finset.range n) g hmem
  have hf := Finset.add_sum_erase (Finset.range n) f hmem
  omega

end Lib.Transition
