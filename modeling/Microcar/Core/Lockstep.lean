import Microcar.Core.Run

/-!
# Two implementations in lockstep

A total implementation and one that may stop run over the same events. They run in lockstep
when the second never stops, both return the same results and the states they reach agree.
One equivalence about a single step, under a relation between the states that the agreement
keeps, gives the exact condition for whole histories.
-/

namespace Microcar.Core

universe u v w x

variable {σ : Type u} {τ : Type v} {ε : Type w} {ρ : Type x}

/-- The second implementation performs the step with the same result and an agreeing state. -/
def StepAgrees (c : σ → ε → σ × ρ) (r : τ → ε → Option (τ × ρ)) (Agree : σ → τ → Prop)
    (s : σ) (t : τ) (e : ε) : Prop :=
  ∃ t', r t e = some (t', (c s e).2) ∧ Agree (c s e).1 t'

/-- Along the whole history the second implementation never stops, both return the same
results, and the states behind every event agree. -/
def Lockstep (c : σ → ε → σ × ρ) (r : τ → ε → Option (τ × ρ)) (Agree : σ → τ → Prop) :
    σ → τ → List ε → Prop
  | _, _, [] => True
  | s, t, e :: evs =>
    ∃ t', r t e = some (t', (c s e).2) ∧ Agree (c s e).1 t' ∧
      Lockstep c r Agree (c s e).1 t' evs

variable {c : σ → ε → σ × ρ} {r : τ → ε → Option (τ × ρ)} {Agree : σ → τ → Prop}

/-- Where the states are related and an assumption on the step holds, the step agrees exactly
when it meets a condition, and an agreeing step keeps the relation. Then a history whose steps
meet the assumption runs in lockstep exactly when each of its steps meets the condition. -/
theorem StepsMeet.lockstep_iff {Rel : σ → τ → Prop} {H Q : σ → ε → Prop}
    (hstep : ∀ s t e, Rel s t → H s e → (StepAgrees c r Agree s t e ↔ Q s e))
    (hrel : ∀ s t e t', Rel s t → H s e → r t e = some (t', (c s e).2) → Agree (c s e).1 t' →
      Rel (c s e).1 t') {s : σ} {t : τ} {evs : List ε}
    (hassume : StepsMeet (fun s e => (c s e).1) H s evs) (h : Rel s t) :
    Lockstep c r Agree s t evs ↔ StepsMeet (fun s e => (c s e).1) Q s evs := by
  induction evs generalizing s t with
  | nil => exact Iff.rfl
  | cons e evs ih =>
    obtain ⟨hhead, htail⟩ := hassume
    rw [stepsMeet_cons, ← hstep s t e h hhead]
    constructor
    · rintro ⟨t', hrun, hagree, hrest⟩
      exact ⟨⟨t', hrun, hagree⟩, (ih htail (hrel s t e t' h hhead hrun hagree)).mp hrest⟩
    · rintro ⟨⟨t', hrun, hagree⟩, hrest⟩
      exact ⟨t', hrun, hagree, (ih htail (hrel s t e t' h hhead hrun hagree)).mpr hrest⟩

/-- The rule without an assumption on the steps. -/
theorem lockstep_iff {Rel : σ → τ → Prop} {Q : σ → ε → Prop}
    (hstep : ∀ s t e, Rel s t → (StepAgrees c r Agree s t e ↔ Q s e))
    (hrel : ∀ s t e t', Rel s t → r t e = some (t', (c s e).2) → Agree (c s e).1 t' →
      Rel (c s e).1 t') {s : σ} {t : τ} (h : Rel s t) (evs : List ε) :
    Lockstep c r Agree s t evs ↔ StepsMeet (fun s e => (c s e).1) Q s evs :=
  StepsMeet.lockstep_iff (fun s t e hs _ => hstep s t e hs) (fun s t e t' hs _ => hrel s t e t' hs)
    (stepsMeet_of_forall_mem (P := fun _ => True) fun _ _ => trivial) h

end Microcar.Core
