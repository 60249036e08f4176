import Microcar.Dogfood.DiagTrace

/-!
# Logs in a recorded trace

A recorded trace holds the words of all machines, of all their tasks and of their boot functions.
A lane reads it by machine and label, so that all it sees of a machine is what the log of that
machine holds under the labels of the lane.
-/

namespace Microcar.Dogfood

/-- The trace events of a log. -/
def tracedBy (machine : Nat) (out : List Emission) : List UserTrace :=
  out.filterMap fun emission =>
    match emission with
    | .trace label value => some ⟨machine, label, value⟩
    | .can _ => none

/-- Under these labels the trace holds the events of a machine that its log holds, in order. -/
def Records (labels : List String) (machine : Nat) (out : List Emission)
    (trace : List UserTrace) : Prop :=
  trace.filter (fun e => e.machine == machine && labels.contains e.label) =
    (tracedBy machine out).filter fun e => labels.contains e.label

/-- The values of a log under one label. -/
theorem values_tracedBy (machine : Nat) (out : List Emission) (label : String) :
    ((tracedBy machine out).filter fun e => e.label == label).map UserTrace.value =
      wordsUnder label out := by
  induction out with
  | nil => rfl
  | cons emission out ih =>
    cases emission with
    | trace other value =>
      have htraced : tracedBy machine (.trace other value :: out) =
          ⟨machine, other, value⟩ :: tracedBy machine out := rfl
      have hwords : wordsUnder label (.trace other value :: out) =
          wordsUnder label [.trace other value] ++ wordsUnder label out :=
        wordsUnder_append label [_] out
      rw [htraced, hwords]
      by_cases hlabel : other = label
      · subst hlabel
        rw [List.filter_cons_of_pos (by simp), List.map_cons, ih, wordsUnder_trace_self]
        rfl
      · rw [List.filter_cons_of_neg (by simpa using hlabel), ih, wordsUnder_trace_of_ne hlabel,
          List.nil_append]
    | can frame => exact ih

variable {labels : List String} {machine : Nat} {out : List Emission} {trace : List UserTrace}

/-- What a lane reads under one label. -/
theorem Records.values (h : Records labels machine out trace) {label : String}
    (hlabel : label ∈ labels) :
    (trace.filter fun e => e.machine == machine && e.label == label).map UserTrace.value =
      wordsUnder label out := by
  have hread : ∀ events : List UserTrace,
      (events.filter fun e => e.machine == machine && labels.contains e.label).filter
        (fun e => e.label == label) =
          events.filter fun e => e.machine == machine && e.label == label := by
    intro events
    rw [List.filter_filter]
    apply List.filter_congr
    intro e _
    by_cases heq : e.label = label
    · simp [heq, hlabel]
    · have hother : (e.label == label) = false := beq_eq_false_iff_ne.mpr heq
      rw [hother, Bool.false_and, Bool.and_false]
  have hlog : ((tracedBy machine out).filter fun e => labels.contains e.label).filter
      (fun e => e.label == label) = (tracedBy machine out).filter fun e => e.label == label := by
    rw [List.filter_filter]
    apply List.filter_congr
    intro e _
    by_cases heq : e.label = label
    · simp [heq, hlabel]
    · simp [heq]
  rw [← hread, h, hlog, values_tracedBy]

/-- The events of one machine alone are such a trace. -/
theorem records_tracedBy (labels : List String) (machine : Nat) (out : List Emission) :
    Records labels machine out (tracedBy machine out) := by
  apply List.filter_congr
  intro e hmem
  obtain ⟨emission, -, hevent⟩ := List.mem_filterMap.mp hmem
  cases emission with
  | trace label value =>
    obtain rfl := Option.some.inj hevent
    rw [beq_self_eq_true, Bool.true_and]
  | can frame => exact absurd hevent (by simp)

/-- Whether a machine traced a value under a label. -/
theorem Records.any (h : Records labels machine out trace) {label : String}
    (hlabel : label ∈ labels) (want : UInt32) :
    (trace.any fun e => e.machine == machine && e.label == label && e.value == want) =
      (wordsUnder label out).contains want := by
  rw [← h.values hlabel, Bool.eq_iff_iff, List.any_eq_true, List.contains_iff_mem, List.mem_map]
  constructor
  · rintro ⟨e, hmem, hentry⟩
    obtain ⟨hread, hvalue⟩ := Bool.and_eq_true_iff.mp hentry
    exact ⟨e, List.mem_filter.mpr ⟨hmem, hread⟩, beq_iff_eq.mp hvalue⟩
  · rintro ⟨e, hmem, rfl⟩
    obtain ⟨hmem, hread⟩ := List.mem_filter.mp hmem
    exact ⟨e, hmem, by rw [hread, beq_self_eq_true, Bool.and_true]⟩

end Microcar.Dogfood
