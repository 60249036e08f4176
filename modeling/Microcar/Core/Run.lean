import Mathlib.Data.List.Induction
import Mathlib.Logic.Basic

/-!
# Runs of a deterministic step function

A run folds a step function over a finite history of events. A condition on the
steps of a run reads the state before each step together with its event. The
rules below turn one step lemma into a statement about whole histories, and one
stepwise equivalence into an exact condition for a property of every history.
-/

namespace Microcar.Core

universe u v

/-- The state reached from `s` by a finite history of events. -/
def run {σ : Type u} {ε : Type v} (step : σ → ε → σ) (s : σ) (evs : List ε) : σ :=
  evs.foldl step s

@[simp] theorem run_nil {σ : Type u} {ε : Type v} (step : σ → ε → σ) (s : σ) :
    run step s [] = s := rfl

@[simp] theorem run_cons {σ : Type u} {ε : Type v} (step : σ → ε → σ) (s : σ) (e : ε)
    (evs : List ε) : run step s (e :: evs) = run step (step s e) evs := rfl

/-- A run in two parts. -/
theorem run_append {σ : Type u} {ε : Type v} (step : σ → ε → σ) (s : σ) (before after : List ε) :
    run step s (before ++ after) = run step (run step s before) after :=
  List.foldl_append

/-- The last event of a history acts on the state reached by the others. -/
theorem run_snoc {σ : Type u} {ε : Type v} (step : σ → ε → σ) (s : σ) (evs : List ε) (e : ε) :
    run step s (evs ++ [e]) = step (run step s evs) e := by
  rw [run_append, run_cons, run_nil]

/-- Two cuts of one history: the second event stands before the first, is the first, or stands
behind it. -/
theorem cut_cases {ε : Type v} {before after before' after' : List ε} {e e' : ε}
    (h : before ++ e :: after = before' ++ e' :: after') :
    (∃ mid, before = before' ++ e' :: mid) ∨ (before' = before ∧ e' = e) ∨
      ∃ mid, after = mid ++ e' :: after' := by
  rcases List.append_eq_append_iff.mp h with ⟨mid, hbefore, hrest⟩ | ⟨mid, hbefore, hrest⟩
  · cases mid with
    | nil =>
      obtain ⟨rfl, -⟩ := List.cons.inj hrest
      exact .inr (.inl ⟨by simpa using hbefore, rfl⟩)
    | cons x mid =>
      obtain ⟨-, hafter⟩ := List.cons.inj hrest
      exact .inr (.inr ⟨mid, hafter⟩)
  · cases mid with
    | nil =>
      obtain ⟨rfl, -⟩ := List.cons.inj hrest
      exact .inr (.inl ⟨by simpa using hbefore.symm, rfl⟩)
    | cons x mid =>
      obtain ⟨rfl, -⟩ := List.cons.inj hrest
      exact .inl ⟨mid, hbefore⟩

/-- A cut of the selected events comes from a cut of the history. -/
theorem exists_cut_of_filterMap {ε : Type u} {δ : Type v} {f : ε → Option δ} {evs : List ε}
    {before : List δ} {x : δ} {after : List δ} (h : evs.filterMap f = before ++ x :: after) :
    ∃ before' e after', evs = before' ++ e :: after' ∧ before'.filterMap f = before ∧
      f e = some x := by
  obtain ⟨first, rest, rfl, rfl, hrest⟩ := List.filterMap_eq_append_iff.mp h
  obtain ⟨skipped, e, last, rfl, hskipped, he, -⟩ := List.filterMap_eq_cons_iff.mp hrest
  refine ⟨first ++ skipped, e, last, by simp, ?_, he⟩
  rw [List.filterMap_append, List.filterMap_eq_nil_iff.mpr hskipped, List.append_nil]

/-- The last selection from a history that grows by one event. -/
theorem getLast?_filterMap_snoc {ε : Type u} {δ : Type v} (f : ε → Option δ) (evs : List ε)
    (e : ε) : ((evs ++ [e]).filterMap f).getLast? = (f e).or (evs.filterMap f).getLast? := by
  rw [List.filterMap_append, List.getLast?_append, List.filterMap_cons, List.filterMap_nil]
  cases f e with
  | none => rfl
  | some x => rfl

/-- A statement about the cuts of a history that grows by one event. -/
theorem forall_cut_snoc_iff {ε : Type v} {P : List ε → ε → Prop} {evs : List ε} {e : ε} :
    (∀ before x after, evs ++ [e] = before ++ x :: after → P before x) ↔
      (∀ before x after, evs = before ++ x :: after → P before x) ∧ P evs e := by
  constructor
  · intro h
    refine ⟨?_, h evs e [] rfl⟩
    rintro before x after rfl
    exact h before x (after ++ [e]) (by simp)
  · rintro ⟨hold, hnew⟩ before x after hsplit
    rcases cut_cases hsplit with ⟨mid, hbefore⟩ | ⟨rfl, rfl⟩ | ⟨mid, hbehind⟩
    · exact hold before x mid hbefore
    · exact hnew
    · exact absurd hbehind (by simp)

/-- Every step of the run meets a condition on the state before it and its event. -/
def StepsMeet {σ : Type u} {ε : Type v} (step : σ → ε → σ) (P : σ → ε → Prop) :
    σ → List ε → Prop
  | _, [] => True
  | s, e :: evs => P s e ∧ StepsMeet step P (step s e) evs

@[simp] theorem stepsMeet_nil {σ : Type u} {ε : Type v} (step : σ → ε → σ) (P : σ → ε → Prop)
    (s : σ) : StepsMeet step P s [] := trivial

@[simp] theorem stepsMeet_cons {σ : Type u} {ε : Type v} (step : σ → ε → σ) (P : σ → ε → Prop)
    (s : σ) (e : ε) (evs : List ε) :
    StepsMeet step P s (e :: evs) ↔ P s e ∧ StepsMeet step P (step s e) evs := Iff.rfl

/-- A condition is met by every step exactly when it holds at every cut of the history. -/
theorem stepsMeet_iff {σ : Type u} {ε : Type v} {step : σ → ε → σ} {P : σ → ε → Prop}
    {s : σ} {evs : List ε} :
    StepsMeet step P s evs ↔
      ∀ before e after, evs = before ++ e :: after → P (run step s before) e := by
  induction evs generalizing s with
  | nil => simp
  | cons e evs ih =>
    rw [stepsMeet_cons, ih]
    constructor
    · rintro ⟨he, htail⟩ before f after hsplit
      cases before with
      | nil =>
        obtain ⟨rfl, -⟩ := List.cons.inj hsplit
        exact he
      | cons b before =>
        obtain ⟨rfl, hrest⟩ := List.cons.inj hsplit
        exact htail before f after hrest
    · intro h
      refine ⟨h [] e evs rfl, ?_⟩
      intro before f after hsplit
      exact h (e :: before) f after (by rw [hsplit]; rfl)

/-- A property holds of every state along a run exactly when it holds at its start and behind
each of its steps. -/
theorem forall_prefix_iff {σ : Type u} {ε : Type v} {step : σ → ε → σ} {I : σ → Prop}
    {s : σ} {evs : List ε} :
    (∀ before, before <+: evs → I (run step s before)) ↔
      I s ∧ StepsMeet step (fun s e => I (step s e)) s evs := by
  induction evs generalizing s with
  | nil => simp
  | cons e evs ih =>
    rw [stepsMeet_cons, ← ih]
    constructor
    · intro h
      refine ⟨h [] List.nil_prefix, fun before hbefore => ?_⟩
      exact h (e :: before) (List.cons_prefix_cons.mpr ⟨rfl, hbefore⟩)
    · rintro ⟨hs, hrest⟩ before hbefore
      cases before with
      | nil => exact hs
      | cons f before =>
        obtain ⟨rfl, htail⟩ := List.cons_prefix_cons.mp hbefore
        exact hrest before htail

/-- A property that every step keeps holds at the end of every run. -/
theorem run_invariant {σ : Type u} {ε : Type v} {step : σ → ε → σ} {I : σ → Prop}
    (hstep : ∀ s e, I s → I (step s e)) {s : σ} (hs : I s) (evs : List ε) :
    I (run step s evs) := by
  induction evs generalizing s with
  | nil => exact hs
  | cons e evs ih => exact ih (hstep s e hs)

/-- A relation between histories and states that every step extends holds of every run. -/
theorem run_history_invariant {σ : Type u} {ε : Type v} {step : σ → ε → σ} {s : σ}
    {R : List ε → σ → Prop} (hinit : R [] s)
    (hstep : ∀ evs t e, R evs t → R (evs ++ [e]) (step t e)) (evs : List ε) :
    R evs (run step s evs) := by
  induction evs using List.reverseRecOn with
  | nil => exact hinit
  | append_singleton evs e ih =>
    rw [run_snoc]
    exact hstep evs _ e ih

/-- A property kept by every step that meets the condition holds at the end of a run
whose steps all meet it. -/
theorem StepsMeet.run_invariant {σ : Type u} {ε : Type v} {step : σ → ε → σ}
    {P : σ → ε → Prop} {I : σ → Prop}
    (hstep : ∀ s e, I s → P s e → I (step s e)) {s : σ} {evs : List ε}
    (h : StepsMeet step P s evs) (hs : I s) : I (run step s evs) := by
  induction evs generalizing s with
  | nil => exact hs
  | cons e evs ih => exact ih h.2 (hstep s e hs h.1)

/-- A step condition passes to another one wherever the invariant holds that it keeps. -/
theorem StepsMeet.imp {σ : Type u} {ε : Type v} {step : σ → ε → σ} {P Q : σ → ε → Prop}
    {I : σ → Prop} (himp : ∀ s e, I s → P s e → Q s e)
    (hstep : ∀ s e, I s → P s e → I (step s e)) {s : σ} {evs : List ε}
    (h : StepsMeet step P s evs) (hs : I s) : StepsMeet step Q s evs := by
  induction evs generalizing s with
  | nil => exact trivial
  | cons e evs ih => exact ⟨himp s e hs h.1, ih h.2 (hstep s e hs h.1)⟩

/-- A condition on the events alone is met along a run exactly when every event meets it. -/
theorem stepsMeet_iff_forall_mem {σ : Type u} {ε : Type v} {step : σ → ε → σ} {P : ε → Prop}
    {s : σ} {evs : List ε} : StepsMeet step (fun _ e => P e) s evs ↔ ∀ e ∈ evs, P e := by
  induction evs generalizing s with
  | nil => simp
  | cons e evs ih => rw [stepsMeet_cons, ih, List.forall_mem_cons]

/-- A condition on the events alone. -/
theorem stepsMeet_of_forall_mem {σ : Type u} {ε : Type v} {step : σ → ε → σ} {P : ε → Prop}
    {s : σ} {evs : List ε} (h : ∀ e ∈ evs, P e) : StepsMeet step (fun _ e => P e) s evs :=
  stepsMeet_iff_forall_mem.mpr h

/-- A property of every state along a run that each step decides by its event alone. -/
theorem forall_prefix_iff_forall_mem {σ : Type u} {ε : Type v} {step : σ → ε → σ}
    {I : σ → Prop} {P : ε → Prop} (hstep : ∀ s e, I (step s e) ↔ P e) {s : σ} (hs : I s)
    {evs : List ε} : (∀ before, before <+: evs → I (run step s before)) ↔ ∀ e ∈ evs, P e := by
  rw [forall_prefix_iff]
  simp only [hstep, stepsMeet_iff_forall_mem]
  exact and_iff_right hs

/-- A condition on the image of a state is met along a run exactly when it is met along the
run of the image. -/
theorem stepsMeet_map {σ τ : Type u} {ε : Type v} {step : σ → ε → σ} {stepImage : τ → ε → τ}
    {f : σ → τ} (hf : ∀ s e, f (step s e) = stepImage (f s) e) (P : τ → ε → Prop) {s : σ}
    {evs : List ε} :
    StepsMeet step (fun s e => P (f s) e) s evs ↔ StepsMeet stepImage P (f s) evs := by
  induction evs generalizing s with
  | nil => exact Iff.rfl
  | cons e evs ih => rw [stepsMeet_cons, stepsMeet_cons, ih, hf]

/-- Two step conditions that agree wherever the invariant and an assumption on the step
hold, and of which one keeps the invariant, are met by the same runs under the assumption. -/
theorem StepsMeet.congr {σ : Type u} {ε : Type v} {step : σ → ε → σ} {H P Q : σ → ε → Prop}
    {I : σ → Prop} (hiff : ∀ s e, I s → H s e → (P s e ↔ Q s e))
    (hstep : ∀ s e, I s → H s e → P s e → I (step s e)) {s : σ} {evs : List ε}
    (h : StepsMeet step H s evs) (hs : I s) :
    StepsMeet step P s evs ↔ StepsMeet step Q s evs := by
  induction evs generalizing s with
  | nil => exact Iff.rfl
  | cons e evs ih =>
    rw [stepsMeet_cons, stepsMeet_cons, ← hiff s e hs h.1]
    exact and_congr_right fun he => ih h.2 (hstep s e hs h.1 he)

/-- Two step conditions that agree wherever the invariant holds, and of which one keeps
the invariant, are met by the same runs. -/
theorem stepsMeet_congr {σ : Type u} {ε : Type v} {step : σ → ε → σ} {P Q : σ → ε → Prop}
    {I : σ → Prop} (hiff : ∀ s e, I s → (P s e ↔ Q s e))
    (hstep : ∀ s e, I s → P s e → I (step s e)) {s : σ} (hs : I s) (evs : List ε) :
    StepsMeet step P s evs ↔ StepsMeet step Q s evs :=
  StepsMeet.congr (fun s e hI _ => hiff s e hI) (fun s e hI _ => hstep s e hI)
    (stepsMeet_of_forall_mem (P := fun _ => True) fun _ _ => trivial) hs

/-- The state reached by a step function that may stop; the missing value is a stopped run. -/
def runPartial {σ : Type u} {ε : Type v} (step : σ → ε → Option σ) (s : σ) (evs : List ε) :
    Option σ :=
  evs.foldlM step s

@[simp] theorem runPartial_nil {σ : Type u} {ε : Type v} (step : σ → ε → Option σ) (s : σ) :
    runPartial step s [] = some s := rfl

/-- The first step of a run that can stop. -/
theorem runPartial_cons {σ : Type u} {ε : Type v} (step : σ → ε → Option σ) (s : σ) (e : ε)
    (evs : List ε) :
    runPartial step s (e :: evs) = (step s e).bind fun s' => runPartial step s' evs :=
  List.foldlM_cons

/-- A run that can stop, in two parts. -/
theorem runPartial_append {σ : Type u} {ε : Type v} (step : σ → ε → Option σ) (s : σ)
    (before after : List ε) : runPartial step s (before ++ after) =
      (runPartial step s before).bind fun s' => runPartial step s' after :=
  List.foldlM_append

/-- A relation between histories and states that no step stops at and every step extends holds
of every run, and no run stops. -/
theorem runPartial_history_invariant {σ : Type u} {ε : Type v} {step : σ → ε → Option σ} {s : σ}
    {R : List ε → σ → Prop} (hinit : R [] s)
    (hstep : ∀ evs t e, R evs t → ∃ t', step t e = some t' ∧ R (evs ++ [e]) t') (evs : List ε) :
    ∃ t, runPartial step s evs = some t ∧ R evs t := by
  induction evs using List.reverseRecOn with
  | nil => exact ⟨s, rfl, hinit⟩
  | append_singleton evs e ih =>
    obtain ⟨t, hrun, ht⟩ := ih
    obtain ⟨t', hnext, ht'⟩ := hstep evs t e ht
    refine ⟨t', ?_, ht'⟩
    rw [runPartial_append, hrun, Option.bind_some, runPartial_cons, hnext]
    rfl

/-- Along a run that does not stop, what every step demands of the history before it holds at
every cut, and what every step extends holds at the end. -/
theorem runPartial_cuts {σ : Type u} {ε : Type v} {step : σ → ε → Option σ} {s t : σ}
    {R : List ε → σ → Prop} {G : List ε → ε → Prop} (hinit : R [] s)
    (hstep : ∀ before t e t', R before t → step t e = some t' →
      G before e ∧ R (before ++ [e]) t') {evs : List ε} (h : runPartial step s evs = some t) :
    (∀ before e after, evs = before ++ e :: after → G before e) ∧ R evs t := by
  induction evs using List.reverseRecOn generalizing t with
  | nil =>
    obtain rfl : s = t := Option.some.inj h
    exact ⟨by simp, hinit⟩
  | append_singleton evs e ih =>
    rw [runPartial_append] at h
    obtain ⟨mid, hmid, hlast⟩ := Option.bind_eq_some_iff.mp h
    rw [runPartial_cons] at hlast
    obtain ⟨t', hnext, hend⟩ := Option.bind_eq_some_iff.mp hlast
    obtain rfl : t' = t := Option.some.inj hend
    obtain ⟨hcuts, hmidR⟩ := ih hmid
    obtain ⟨hguard, hR⟩ := hstep evs mid e t' hmidR hnext
    exact ⟨forall_cut_snoc_iff.mpr ⟨hcuts, hguard⟩, hR⟩

/-- Every step that a run takes meets a condition on the state before it and its event; a
stopped run takes no further step. -/
def PartialStepsMeet {σ : Type u} {ε : Type v} (step : σ → ε → Option σ) (P : σ → ε → Prop) :
    σ → List ε → Prop
  | _, [] => True
  | s, e :: evs => P s e ∧ ∀ t, step s e = some t → PartialStepsMeet step P t evs

/-- Two step conditions that agree wherever the invariant holds, and of which one keeps the
invariant, are met by the same runs. -/
theorem partialStepsMeet_congr {σ : Type u} {ε : Type v} {step : σ → ε → Option σ}
    {P Q : σ → ε → Prop} {I : σ → Prop} (hiff : ∀ s e, I s → (P s e ↔ Q s e))
    (hstep : ∀ s e t, I s → P s e → step s e = some t → I t) {s : σ} (hs : I s)
    (evs : List ε) : PartialStepsMeet step P s evs ↔ PartialStepsMeet step Q s evs := by
  induction evs generalizing s with
  | nil => exact Iff.rfl
  | cons e evs ih =>
    rw [PartialStepsMeet, PartialStepsMeet, ← hiff s e hs]
    refine and_congr_right fun he => forall_congr' fun t => forall_congr' fun hnext => ?_
    exact ih (hstep s e t hs he hnext)

/-- Where a run does not stop, a step function that agrees with its steps reaches the same
state. -/
theorem runPartial_of_imp {σ : Type u} {ε : Type v} {step step' : σ → ε → Option σ}
    (himp : ∀ s e t, step s e = some t → step' s e = some t) {s t : σ} {evs : List ε}
    (h : runPartial step s evs = some t) : runPartial step' s evs = some t := by
  induction evs generalizing s with
  | nil => exact h
  | cons e evs ih =>
    rw [runPartial_cons] at h ⊢
    obtain ⟨mid, hmid, hrest⟩ := Option.bind_eq_some_iff.mp h
    rw [himp s e mid hmid]
    exact ih hrest

end Microcar.Core
