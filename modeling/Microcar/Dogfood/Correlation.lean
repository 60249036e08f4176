import Mathlib.Data.Finset.Sort
import Microcar.Core.Inevitable

/-!
# The correlation check

`evaluate_correlation` looks at the delivery edges of one probe. Of a forwarded edge it asks only
that its parent is the correlation id of some delivery. Correlations that name each other as
parents pass, and from them no parent leads back to the original send.
-/

namespace Microcar.Dogfood

open Microcar.Core Relation

/-- A declared probe: a unique CAN id and the set of machine ids that must receive it. -/
structure Probe where
  id : Nat
  idHex : String
  expect : Finset Nat

/-- A single Trace v2 edge. -/
structure V2Edge where
  correlationId : Nat
  parentId : Nat
  direction : String
  messageId : Nat
  source : Nat
  destination : Nat
  deriving DecidableEq

/-- The verdict on one probe. -/
structure CorrelationResult where
  idHex : String
  passed : Bool
  detail : String

/-- The edges of the probe in one direction. -/
def probeEdges (probe : Probe) (direction : String) (edges : List V2Edge) : List V2Edge :=
  edges.filter fun e => e.messageId == probe.id && e.direction == direction

/-- The original, non-forwarded deliveries. -/
def originals (rx : List V2Edge) : List V2Edge := rx.filter fun e => e.parentId == 0

/-- `root_corr`, the correlation ids of the original deliveries. -/
def rootCorr (rx : List V2Edge) : Finset Nat := ((originals rx).map (·.correlationId)).toFinset

/-- The senders of the original deliveries. -/
def rootSources (rx : List V2Edge) : Finset Nat := ((originals rx).map (·.source)).toFinset

/-- Every forwarded edge's parent is a correlation that is present. -/
def causalOk (rx : List V2Edge) : Bool :=
  rx.all fun e => e.parentId == 0 || rx.any fun f => f.correlationId == e.parentId

/-- No machine is reached twice. -/
def noDupes (rx : List V2Edge) : Bool :=
  rx.all fun e => rx.countP (fun f => f.destination == e.destination) == 1

/-- A set as `{:?}` shows it. -/
def debugSet (s : Finset Nat) : String :=
  "\x7b" ++ ", ".intercalate ((s.sort (· ≤ ·)).map toString) ++ "\x7d"

/-- The least element, 0 for the empty set. -/
def firstOf (s : Finset Nat) : Nat := (s.sort (· ≤ ·)).head?.getD 0

/-- The original deliveries have one correlation and one sender. -/
def oneRoot (rx : List V2Edge) : Bool := (rootCorr rx).card == 1 && (rootSources rx).card == 1

/-- The machines that are reached. -/
def destinations (rx : List V2Edge) : Finset Nat := (rx.map (·.destination)).toFinset

/-- One of the sent edges has a root correlation. -/
def txRootOk (rx tx : List V2Edge) : Bool := tx.any fun e => e.correlationId ∈ rootCorr rx

/-- `passed`, for a probe that expects a receiver. -/
def correlationPassed (probe : Probe) (rx tx : List V2Edge) : Bool :=
  !rx.isEmpty && oneRoot rx && causalOk rx && decide (destinations rx = probe.expect) &&
    noDupes rx && txRootOk rx tx

/-- `detail`, for a probe that expects a receiver. -/
def correlationDetail (probe : Probe) (rx tx : List V2Edge) : String :=
  let forwarded := rx.countP fun e => e.parentId != 0
  let root := firstOf (rootCorr rx)
  let source := firstOf (rootSources rx)
  let dests := debugSet (destinations rx)
  let roots := debugSet (rootCorr rx)
  let sources := debugSet (rootSources rx)
  let expected := debugSet probe.expect
  let one_root := oneRoot rx
  let causal_ok := causalOk rx
  let no_dupes := noDupes rx
  let tx_root_ok := txRootOk rx tx
  if correlationPassed probe rx tx && forwarded == 0 then
    s!"root correlation {root}, source {source}, delivered to {dests}"
  else if correlationPassed probe rx tx then
    s!"root correlation {root} + {forwarded} forwarded edge(s) preserving parent, " ++
      s!"delivered to {dests}"
  else if rx.isEmpty then "no trace v2 delivery edges (is --trace-v2 supported?)"
  else
    s!"mismatch: root_corr={roots} root_sources={sources} dests={dests} " ++
      s!"(expected {expected}) one_root={one_root} causal_ok={causal_ok} " ++
      s!"no_dupes={no_dupes} tx_root_ok={tx_root_ok}"

/-- The check of a probe: it expects no delivery, or these. -/
def evaluateCorrelation (probe : Probe) (edges : List V2Edge) : CorrelationResult :=
  let rx := probeEdges probe "rx" edges
  let tx := probeEdges probe "tx" edges
  if probe.expect = ∅ then
    let count := rx.length
    { idHex := probe.idHex
      passed := rx.isEmpty
      detail :=
        if rx.isEmpty then "no delivery edges (as expected)"
        else s!"expected no delivery edges, saw {count}" }
  else
    { idHex := probe.idHex
      passed := correlationPassed probe rx tx
      detail := correlationDetail probe rx tx }

/-! ### Causality -/

/-- Following the parent of a delivery to a delivery that carries that correlation. -/
def ParentOf (rx : List V2Edge) (e f : V2Edge) : Prop :=
  f ∈ rx ∧ f.correlationId = e.parentId

/-- A delivery whose correlation is not that of an original one, and a delivery of its parent. -/
def Forwards (rx : List V2Edge) (e f : V2Edge) : Prop :=
  (∀ r ∈ rx, r.parentId = 0 → r.correlationId ≠ e.correlationId) ∧ ParentOf rx e f

/-- There is a single root correlation, it was sent, and the parents lead back to it from every
delivery. -/
def Causal (probe : Probe) (edges : List V2Edge) : Prop :=
  ∃ root, rootCorr (probeEdges probe "rx" edges) = {root} ∧
    (∃ e ∈ probeEdges probe "tx" edges, e.correlationId = root) ∧
    ∀ e ∈ probeEdges probe "rx" edges,
      Inevitable (ParentOf (probeEdges probe "rx" edges)) (fun f => f.correlationId = root) e

/-- The correlations of the roots. -/
theorem mem_rootCorr {rx : List V2Edge} {corr : Nat} :
    corr ∈ rootCorr rx ↔ ∃ r ∈ rx, r.parentId = 0 ∧ r.correlationId = corr := by
  simp [rootCorr, originals, and_assoc]

/-- What a passing check establishes. -/
theorem evaluateCorrelation_passed {probe : Probe} {edges : List V2Edge}
    (hexpect : probe.expect ≠ ∅) (hpassed : (evaluateCorrelation probe edges).passed = true) :
    ∃ root, rootCorr (probeEdges probe "rx" edges) = {root} ∧
      (∃ e ∈ probeEdges probe "tx" edges, e.correlationId = root) ∧
      ∀ e ∈ probeEdges probe "rx" edges, e.parentId = 0 ∨
        ∃ f, ParentOf (probeEdges probe "rx" edges) e f := by
  rw [evaluateCorrelation, if_neg hexpect] at hpassed
  simp only [correlationPassed, oneRoot, txRootOk, Bool.and_eq_true, beq_iff_eq,
    Finset.card_eq_one] at hpassed
  obtain ⟨⟨⟨⟨⟨-, ⟨root, hroot⟩, -⟩, hcausal⟩, -⟩, -⟩, htx⟩ := hpassed
  refine ⟨root, hroot, ?_, ?_⟩
  · obtain ⟨e, he, hmem⟩ := List.any_eq_true.mp htx
    exact ⟨e, he, by simpa [hroot] using hmem⟩
  · intro e he
    have hparent := List.all_eq_true.mp hcausal e he
    rcases Bool.or_eq_true_iff.mp hparent with hzero | hany
    · exact .inl (by simpa using hzero)
    · obtain ⟨f, hf, hcorr⟩ := List.any_eq_true.mp hany
      exact .inr ⟨f, hf, by simpa using hcorr⟩

/-- A passing check shows causality exactly when no forwarded deliveries form a cycle of
parents. -/
theorem evaluateCorrelation_causal_iff {probe : Probe} {edges : List V2Edge}
    (hexpect : probe.expect ≠ ∅) (hpassed : (evaluateCorrelation probe edges).passed = true) :
    Causal probe edges ↔ ∀ e ∈ probeEdges probe "rx" edges,
      ¬ TransGen (Forwards (probeEdges probe "rx" edges)) e e := by
  obtain ⟨root, hroot, htx, hparent⟩ := evaluateCorrelation_passed hexpect hpassed
  have hgoal : ∀ e : V2Edge, (∀ r ∈ probeEdges probe "rx" edges, r.parentId = 0 →
      r.correlationId ≠ e.correlationId) ↔ ¬ e.correlationId = root := by
    intro e
    rw [← Finset.mem_singleton, ← hroot, mem_rootCorr]
    push Not
    rfl
  have havoid : Forwards (probeEdges probe "rx" edges) =
      Avoiding (ParentOf (probeEdges probe "rx" edges)) fun f => f.correlationId = root := by
    funext e f
    rw [Forwards, Avoiding, hgoal]
  rw [havoid, ← inevitable_iff_acyclic (fun e _ f hf => hf.1)]
  · constructor
    · rintro ⟨root', hroot', -, hall⟩
      rw [hroot, Finset.singleton_inj] at hroot'
      rwa [hroot']
    · exact fun hall => ⟨root, hroot, htx, hall⟩
  · intro e he hne
    rcases hparent e he with hzero | hsome
    · exact absurd rfl ((hgoal e).mpr hne e he hzero)
    · exact hsome

/-- One probe frame, sent by machine 2. -/
def forwardProbe : Probe := ⟨0x07a0, "0x07a0", {1, 3, 4}⟩

/-- The frame reaches machines 1 and 3, and the gateway forwards it to machine 4. -/
def forwardEdges : List V2Edge :=
  [⟨5, 0, "tx", 0x07a0, 2, 0⟩, ⟨5, 0, "rx", 0x07a0, 2, 1⟩, ⟨5, 0, "rx", 0x07a0, 2, 3⟩,
    ⟨6, 5, "tx", 0x07a0, 1, 0⟩, ⟨6, 5, "rx", 0x07a0, 1, 4⟩]

/-- The frame reaches machine 1. Two more deliveries name each other as parents. -/
def loopEdges : List V2Edge :=
  [⟨5, 0, "tx", 0x07a0, 2, 0⟩, ⟨5, 0, "rx", 0x07a0, 2, 1⟩, ⟨6, 7, "rx", 0x07a0, 1, 3⟩,
    ⟨7, 6, "rx", 0x07a0, 1, 4⟩]

/-- A chain of edges passes and is causal. -/
theorem evaluateCorrelation_forward : Causal forwardProbe forwardEdges := by
  have hrx : probeEdges forwardProbe "rx" forwardEdges =
      [⟨5, 0, "rx", 0x07a0, 2, 1⟩, ⟨5, 0, "rx", 0x07a0, 2, 3⟩, ⟨6, 5, "rx", 0x07a0, 1, 4⟩] := by
    decide
  apply (evaluateCorrelation_causal_iff (by decide) (by decide)).mpr
  rw [hrx]
  intro e he hcycle
  obtain ⟨f, hstep, hback⟩ := TransGen.head'_iff.mp hcycle
  -- only the forwarded delivery has a step, and its parent is an original one
  have hcorr : f.correlationId = 5 ∧ e.correlationId = 6 := by
    obtain ⟨hne, -, hparent⟩ := hstep
    simp only [List.mem_cons, List.not_mem_nil, or_false] at he
    rcases he with rfl | rfl | rfl
    · exact absurd rfl (hne ⟨5, 0, "rx", 0x07a0, 2, 1⟩ (by simp) rfl)
    · exact absurd rfl (hne ⟨5, 0, "rx", 0x07a0, 2, 1⟩ (by simp) rfl)
    · exact ⟨hparent, rfl⟩
  rcases ReflTransGen.cases_head hback with rfl | ⟨g, hnext, -⟩
  · omega
  · exact hnext.1 ⟨5, 0, "rx", 0x07a0, 2, 1⟩ (by simp) rfl hcorr.1.symm

/-- A loop of parents passes and is not causal. -/
theorem evaluateCorrelation_loop :
    ¬ ∀ probe edges, probe.expect ≠ ∅ → (evaluateCorrelation probe edges).passed = true →
      Causal probe edges := by
  intro h
  obtain ⟨root, hroot, -, hall⟩ := h forwardProbe loopEdges (by decide) (by decide)
  have hrx : probeEdges forwardProbe "rx" loopEdges =
      [⟨5, 0, "rx", 0x07a0, 2, 1⟩, ⟨6, 7, "rx", 0x07a0, 1, 3⟩, ⟨7, 6, "rx", 0x07a0, 1, 4⟩] := by
    decide
  rw [hrx] at hroot hall
  have hfive : 5 = root := by
    rw [← Finset.mem_singleton, ← hroot]
    decide
  subst hfive
  have hcycle := (hall ⟨6, 7, "rx", 0x07a0, 1, 3⟩ (by simp)).not_cycle
  apply hcycle
  apply TransGen.tail (b := ⟨7, 6, "rx", 0x07a0, 1, 4⟩)
  · exact TransGen.single ⟨by decide, by simp, rfl⟩
  · exact ⟨by decide, by simp, rfl⟩

end Microcar.Dogfood
