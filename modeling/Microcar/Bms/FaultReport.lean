import Microcar.Bms.Loop

/-!
# Publication of critical faults

The fault code follows the last sensor frame of a batch, and a fault frame is sent when
the code at the end of the receive phase differs from the one sent last. The main
result says for which histories of batches every frame that raises the critical state
is followed by an overtemperature fault frame in its own iteration.
-/

namespace Microcar.Bms

/-- Some frame of the batch takes the BMS from a non-critical to the critical state. -/
def RaisesCritical (ctx : BmsCtx) (it : BmsIteration) : Prop :=
  ∃ before frame after, it.frames = before ++ frame :: after ∧
    (receive ctx before).bs.state ≠ .criticalFault ∧
    (dispatchFrame (receive ctx before) frame.toMcCanFrame).bs.state = .criticalFault

/-- An iteration that raises the critical state publishes an overtemperature fault. -/
def CriticalReported (ctx : BmsCtx) (it : BmsIteration) : Prop :=
  RaisesCritical ctx it →
    ∃ f ∈ framesOf mcMsgBmsFault (published ctx it), f.data.get 0 = mcBmsFaultOvertemp

/-- An iteration that raises the critical state starts outside it, and its last sensor
frame is at or above 90.0 degrees. -/
def CriticalVisible (ctx : BmsCtx) (it : BmsIteration) : Prop :=
  RaisesCritical ctx it →
    ctx.bs.state ≠ .criticalFault ∧ ∃ t, lastTemp it.frames = some t ∧ 900 ≤ t.toInt

/-- The fault code is OVERTEMP exactly in the critical state. -/
theorem bmsStateFaultCode_eq_overtemp_iff (st : McBmsState) :
    bmsStateFaultCode st = mcBmsFaultOvertemp ↔ st = .criticalFault := by
  cases st <;> decide

/-- What every iteration leaves behind: a consistent context whose fault code has been
published. -/
structure Published (ctx : BmsCtx) : Prop extends Consistent ctx where
  /-- The published fault code is the current one. -/
  lastFault_eq : ctx.lastFaultPublished = ctx.bs.faultCode

theorem published_bmsBoot : Published bmsBoot := { consistent_bmsBoot with lastFault_eq := rfl }

/-- Every iteration publishes its fault code. -/
theorem Published.bmsMain {ctx : BmsCtx} (h : Published ctx) (it : BmsIteration) :
    Published (bmsMain ctx it) := by
  obtain ⟨out, heq⟩ := bmsMain_eq ctx it
  have hreceive := h.toConsistent.receive it.frames
  rw [heq]
  exact { faultCode_eq := hreceive.faultCode_eq, limits_eq := hreceive.limits_eq,
          lastFault_eq := rfl }

/-- An iteration publishes an overtemperature fault exactly when it enters the critical
state over the whole receive phase. -/
theorem overtemp_published_iff {ctx : BmsCtx} (h : Published ctx) (it : BmsIteration) :
    (∃ f ∈ framesOf mcMsgBmsFault (published ctx it), f.data.get 0 = mcBmsFaultOvertemp) ↔
      ctx.bs.state ≠ .criticalFault ∧ (receive ctx it.frames).bs.state = .criticalFault := by
  have hcode : (sendBmsFault (receive ctx it.frames)).data.get 0 =
      (receive ctx it.frames).bs.faultCode := by
    simp [sendBmsFault, McCanFrame.get_data_put]
  have hafter := (h.toConsistent.receive it.frames).faultCode_eq
  have hbefore := h.lastFault_eq.trans h.faultCode_eq
  rw [framesOf_fault_published]
  constructor
  · rintro ⟨f, hf, hovertemp⟩
    split_ifs at hf with hchanged
    · rw [List.mem_singleton.mp hf, hcode, hafter] at hovertemp
      have hcritical := (bmsStateFaultCode_eq_overtemp_iff _).mp hovertemp
      refine ⟨?_, hcritical⟩
      intro hwas
      rw [hafter, hbefore, hwas, hcritical] at hchanged
      exact hchanged rfl
    · simp at hf
  · rintro ⟨hwas, hcritical⟩
    have hchanged : (receive ctx it.frames).bs.faultCode ≠ ctx.lastFaultPublished := by
      rw [hafter, hbefore, hcritical]
      intro hsame
      exact hwas ((bmsStateFaultCode_eq_overtemp_iff _).mp hsame.symm)
    refine ⟨sendBmsFault (receive ctx it.frames), by simp [hchanged], ?_⟩
    rw [hcode, hafter, hcritical]
    rfl

/-- A batch that raises the critical state holds a sensor frame. -/
theorem RaisesCritical.lastTemp {ctx : BmsCtx} {it : BmsIteration} (h : RaisesCritical ctx it) :
    ∃ t, lastTemp it.frames = some t := by
  obtain ⟨before, frame, after, hframes, hwas, hnow⟩ := h
  rcases dispatchFrame_eq (receive ctx before) frame with ⟨-, heq⟩ | ⟨r, seq, hsome, -⟩
  · rw [heq] at hnow
    exact absurd hnow hwas
  · have hmem : r.tempCX10 ∈ it.frames.filterMap sensorTemp := by
      rw [List.mem_filterMap]
      exact ⟨frame, by simp [hframes], hsome⟩
    exact ⟨_, List.getLast?_eq_some_getLast (List.ne_nil_of_mem hmem)⟩

/-- In a state whose fault code has been published, an iteration reports what it raises
exactly when the raise is visible at its end. -/
theorem criticalReported_iff_criticalVisible {ctx : BmsCtx} (h : Published ctx)
    (it : BmsIteration) : CriticalReported ctx it ↔ CriticalVisible ctx it := by
  refine forall_congr' fun hraise => ?_
  obtain ⟨t, ht⟩ := hraise.lastTemp
  rw [overtemp_published_iff h, receive_state, ht]
  simp [mcBmsDetermineState_eq_critical_iff]

/-- In every history of batches, each frame that raises the critical state is followed by
an overtemperature fault frame in its own iteration exactly when each iteration with such
a frame starts outside the critical state and drains a critical sensor frame last. -/
theorem bmsRun_critical_reported_iff (its : List BmsIteration) :
    Core.StepsMeet bmsMain CriticalReported bmsBoot its ↔
      Core.StepsMeet bmsMain CriticalVisible bmsBoot its := by
  apply Core.stepsMeet_congr (I := Published)
  · intro ctx it h
    exact criticalReported_iff_criticalVisible h it
  · intro ctx it h _
    exact h.bmsMain it
  · exact published_bmsBoot

/-- One receive phase drains 95.0 degrees and then 20.0 degrees. -/
def hotThenColdIteration : BmsIteration where
  nowMs := 10
  frames :=
    [.ofPayload mcMsgPlantSensors 80 [1, 0x68, 0x03, 0xB6, 0, 0],
      .ofPayload mcMsgPlantSensors 80 [1, 0x68, 0x00, 0xC8, 0, 0]]

/-- The hot frame raises the critical state and no fault frame is published. -/
theorem hotThenCold_not_reported :
    ¬ ∀ its, Core.StepsMeet bmsMain CriticalReported bmsBoot its := by
  intro hall
  have hreport := (hall [hotThenColdIteration]).1
  have hraise : RaisesCritical bmsBoot hotThenColdIteration :=
    ⟨[], _, _, rfl, by decide, by decide +kernel⟩
  obtain ⟨f, hf, -⟩ := hreport hraise
  have hnone : framesOf mcMsgBmsFault (published bmsBoot hotThenColdIteration) = [] := by
    decide +kernel
  rw [hnone] at hf
  exact List.not_mem_nil hf

end Microcar.Bms
