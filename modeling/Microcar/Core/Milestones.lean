import Microcar.Core.Run

/-!
# Ordered milestones in a history

A history passes a list of milestones when events that satisfy them occur in order and
only quiet events stand between two of them and behind the last. The milestones are
listed latest first, so that a history that grows by one event either waits at its
latest milestone or reaches the next one. A single milestone whose condition, like the
one on the events behind it, reads the whole past is the past-time operator `Since`.
-/

namespace Microcar.Core

universe v

/-- The milestones, latest first, occur in the history with quiet events in between. -/
def Milestones {ε : Type v} (quiet : ε → Prop) : List (ε → Prop) → List ε → Prop
  | [], _ => True
  | m :: ms, evs => ∃ before e after, evs = before ++ e :: after ∧ m e ∧
      (∀ x ∈ after, quiet x) ∧ Milestones quiet ms before

/-- A quiet event leaves the latest milestone in place. -/
theorem Milestones.wait {ε : Type v} {quiet : ε → Prop} {ms : List (ε → Prop)} {evs : List ε}
    (h : Milestones quiet ms evs) {e : ε} (he : quiet e) : Milestones quiet ms (evs ++ [e]) := by
  cases ms with
  | nil => trivial
  | cons m ms =>
    obtain ⟨before, x, after, rfl, hx, hafter, hms⟩ := h
    refine ⟨before, x, after ++ [e], by simp, hx, ?_, hms⟩
    intro y hy
    rcases List.mem_append.mp hy with hy | hy
    · exact hafter y hy
    · rw [List.mem_singleton.mp hy]
      exact he

/-- An event that satisfies the next milestone reaches it. -/
theorem Milestones.reach {ε : Type v} {quiet : ε → Prop} {ms : List (ε → Prop)} {evs : List ε}
    (h : Milestones quiet ms evs) {m : ε → Prop} {e : ε} (he : m e) :
    Milestones quiet (m :: ms) (evs ++ [e]) :=
  ⟨evs, e, [], rfl, he, by simp, h⟩

/-- Some event met `P` given its past, and every event behind it met `Q` given its own. -/
def Since {ε : Type v} (P Q : List ε → ε → Prop) (evs : List ε) : Prop :=
  ∃ before e after, evs = before ++ e :: after ∧ P before e ∧
    ∀ mid x rest, after = mid ++ x :: rest → Q (before ++ e :: mid) x

/-- An event that meets `P` starts a new stretch. -/
theorem Since.reach {ε : Type v} {P Q : List ε → ε → Prop} {evs : List ε} {e : ε}
    (he : P evs e) : Since P Q (evs ++ [e]) :=
  ⟨evs, e, [], rfl, he, by simp⟩

/-- An event that meets `Q` extends the stretch. -/
theorem Since.wait {ε : Type v} {P Q : List ε → ε → Prop} {evs : List ε} {x : ε}
    (h : Since P Q evs) (hx : Q evs x) : Since P Q (evs ++ [x]) := by
  obtain ⟨before, e, after, rfl, he, hafter⟩ := h
  refine ⟨before, e, after ++ [x], by simp, he, ?_⟩
  exact (forall_cut_snoc_iff (P := fun mid y => Q (before ++ e :: mid) y)).mpr ⟨hafter, hx⟩

end Microcar.Core
