import Mathlib.Data.List.Forall2
import Microcar.Core.Run

/-!
# Runs on indistinguishable histories

Two histories are indistinguishable when their events are, one by one. A run does not depend
on what distinguishes them if every indistinguishable history leads through the same states.
For a reflexive relation this is a condition on the single steps of the run itself.
-/

namespace Microcar.Core

universe u v

/-- Every history indistinguishable from `evs` leads through the same states. -/
def RunsAgree {σ : Type u} {ε : Type v} (step : σ → ε → σ) (R : ε → ε → Prop) (s : σ)
    (evs : List ε) : Prop :=
  ∀ evs', List.Forall₂ R evs evs' → ∀ n, run step s (evs'.take n) = run step s (evs.take n)

/-- Every event indistinguishable from `e` acts alike. -/
def StepAlike {σ : Type u} {ε : Type v} (step : σ → ε → σ) (R : ε → ε → Prop) (s : σ) (e : ε) :
    Prop :=
  ∀ e', R e e' → step s e' = step s e

/-- An indistinguishable history leads through the same states if every step acts alike. -/
theorem StepsMeet.runsAgree {σ : Type u} {ε : Type v} {step : σ → ε → σ} {R : ε → ε → Prop}
    {s : σ} {evs : List ε} (h : StepsMeet step (StepAlike step R) s evs) :
    RunsAgree step R s evs := by
  intro evs' hevs n
  induction hevs generalizing s n with
  | nil => rfl
  | @cons e e' evs evs' he hevs ih =>
    cases n with
    | zero => rfl
    | succ n =>
      rw [List.take_succ_cons, List.take_succ_cons, run_cons, run_cons, h.1 e' he]
      exact ih h.2 n

/-- Exactly the runs whose steps all act alike do not depend on what distinguishes
histories. -/
theorem runsAgree_iff {σ : Type u} {ε : Type v} {step : σ → ε → σ} {R : ε → ε → Prop}
    (hrefl : ∀ e, R e e) {s : σ} {evs : List ε} :
    RunsAgree step R s evs ↔ StepsMeet step (StepAlike step R) s evs := by
  refine ⟨?_, StepsMeet.runsAgree⟩
  intro h
  induction evs generalizing s with
  | nil => exact trivial
  | cons e evs ih =>
    have hsame : List.Forall₂ R evs evs := List.forall₂_same.mpr fun x _ => hrefl x
    refine ⟨fun e' he => h (e' :: evs) (.cons he hsame) 1, ih ?_⟩
    intro evs' hevs n
    exact h (e :: evs') (.cons (hrefl e) hevs) (n + 1)

end Microcar.Core
