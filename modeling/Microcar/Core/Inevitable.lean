import Mathlib.Data.Set.Finite.List
import Mathlib.Order.WellFounded
import Mathlib.Order.RelClasses
import Mathlib.Data.Fintype.Card

/-!
# Inevitable goals

From some nodes every way of following a step relation comes to a goal. Among finitely many
nodes, each with a step unless it is a goal, the goal is inevitable exactly when no cycle avoids
it.
-/

namespace Microcar.Core

open Relation

universe u

variable {α : Type u} {step : α → α → Prop} {goal : α → Prop}

/-- Every way of following the steps comes to a goal, and none gets stuck before. -/
inductive Inevitable (step : α → α → Prop) (goal : α → Prop) : α → Prop
  | goal {a : α} (h : goal a) : Inevitable step goal a
  | step {a : α} (hsome : ∃ b, step a b) (h : ∀ b, step a b → Inevitable step goal b) :
      Inevitable step goal a

/-- A step from a node that is no goal. -/
def Avoiding (step : α → α → Prop) (goal : α → Prop) (a b : α) : Prop := ¬ goal a ∧ step a b

/-- No cycle passes through a node from where the goal is inevitable. -/
theorem Inevitable.not_cycle {a : α} (h : Inevitable step goal a) :
    ¬ TransGen (Avoiding step goal) a a := by
  have hacc : Acc (flip (Avoiding step goal)) a := by
    induction h with
    | goal h => exact ⟨_, fun b hb => absurd h hb.1⟩
    | step _ _ ih => exact ⟨_, fun b hb => ih b hb.2⟩
  have hirrefl : ∀ b, Acc (TransGen (flip (Avoiding step goal))) b →
      ¬ TransGen (flip (Avoiding step goal)) b b := by
    intro b hb
    induction hb with
    | intro b _ ih => exact fun hcycle => ih b hcycle hcycle
  exact fun hcycle => hirrefl a hacc.transGen (transGen_swap.mp hcycle)

/-- Among finitely many nodes that the steps do not leave, the goal is inevitable if no cycle
avoids it. -/
theorem inevitable_of_acyclic {nodes : List α}
    (hclosed : ∀ a ∈ nodes, ∀ b, step a b → b ∈ nodes)
    (hprogress : ∀ a ∈ nodes, ¬ goal a → ∃ b, step a b)
    (hacyclic : ∀ a ∈ nodes, ¬ TransGen (Avoiding step goal) a a) :
    ∀ a ∈ nodes, Inevitable step goal a := by
  let r : {a // a ∈ nodes} → {a // a ∈ nodes} → Prop :=
    fun b a => TransGen (Avoiding step goal) a.1 b.1
  have hfinite : Finite {a // a ∈ nodes} := nodes.finite_toSet
  have htrans : IsTrans _ r := ⟨fun _ _ _ hab hbc => TransGen.trans hbc hab⟩
  have hirrefl : Std.Irrefl r := ⟨fun a => hacyclic a.1 a.2⟩
  have hwf : WellFounded r := Finite.wellFounded_of_trans_of_irrefl r
  have hnode : ∀ node : {a // a ∈ nodes}, Inevitable step goal node.1 := by
    intro node
    induction node using hwf.induction with
    | _ node ih =>
      by_cases hgoal : goal node.1
      · exact Inevitable.goal hgoal
      · refine Inevitable.step (hprogress node.1 node.2 hgoal) fun b hb => ?_
        exact ih ⟨b, hclosed node.1 node.2 b hb⟩ (TransGen.single ⟨hgoal, hb⟩)
  exact fun a ha => hnode ⟨a, ha⟩

/-- The goal is inevitable from all nodes exactly when no cycle avoids it. -/
theorem inevitable_iff_acyclic {nodes : List α}
    (hclosed : ∀ a ∈ nodes, ∀ b, step a b → b ∈ nodes)
    (hprogress : ∀ a ∈ nodes, ¬ goal a → ∃ b, step a b) :
    (∀ a ∈ nodes, Inevitable step goal a) ↔
      ∀ a ∈ nodes, ¬ TransGen (Avoiding step goal) a a :=
  ⟨fun h a ha => (h a ha).not_cycle, inevitable_of_acyclic hclosed hprogress⟩

end Microcar.Core
