import Microcar.Core.Run
import Microcar.Core.StableSort
import Microcar.Plant.Model

/-!
# Pending driver inputs

The plant keeps all queued driver inputs in one list that it sorts again at every insertion, and
a cursor behind the inputs it has applied. An insertion behind the cursor leaves both in step with
the inputs that still wait; an insertion in front of it pushes an applied input back behind the
cursor and takes the place of an input that was never applied.
-/

namespace Microcar.Plant

/-- A driver input scheduled for a virtual time, `PendingInput`. -/
structure PendingInput where
  /-- Virtual time at which the input takes effect, `at`. -/
  atTime : Nat
  /-- Throttle position in percent. -/
  throttlePercent : UInt8
  /-- The brake pedal is pressed. -/
  brakePressed : Bool
  deriving DecidableEq, Repr

/-- The pending inputs of the plant and the cursor into them. -/
structure DriverQueue where
  /-- All queued inputs, sorted by time. -/
  pendingInputs : List PendingInput
  /-- Number of applied inputs. -/
  inputCursor : Nat
  deriving DecidableEq, Repr

/-- Nothing is queued. -/
def DriverQueue.new : DriverQueue := ⟨[], 0⟩

/-- Append an input and sort by time, `queue_driver_input`. -/
def DriverQueue.queueDriverInput (q : DriverQueue) (input : PendingInput) : DriverQueue :=
  { q with pendingInputs := Core.sortByKey PendingInput.atTime (q.pendingInputs ++ [input]) }

/-- The loop of `do_step` over the due inputs: the queue behind it and the inputs that it hands to
the vehicle, in order. The fuel is the number of inputs behind the cursor. -/
def DriverQueue.applyLoop (now : Nat) : Nat → DriverQueue → DriverQueue × List PendingInput
  | 0, q => (q, [])
  | fuel + 1, q =>
    match q.pendingInputs[q.inputCursor]? with
    | none => (q, [])
    | some input =>
      if input.atTime ≤ now then
        let rest := applyLoop now fuel { q with inputCursor := q.inputCursor + 1 }
        (rest.1, input :: rest.2)
      else (q, [])

/-- Apply the due inputs, the first part of `do_step`. -/
def DriverQueue.applyPending (q : DriverQueue) (now : Nat) : DriverQueue × List PendingInput :=
  q.applyLoop now (q.pendingInputs.length - q.inputCursor)

/-- The plant together with its pending inputs. -/
structure DrivenPlant where
  /-- Vehicle and battery. -/
  plant : MicrocarPlant
  /-- Pending inputs. -/
  queue : DriverQueue

/-- Apply the due inputs and advance the models, `do_step`. -/
def DrivenPlant.doStep (p : DrivenPlant) (now : Nat) : Option DrivenPlant := do
  let driven := (p.queue.applyPending now).2.foldl
    (fun plant input => plant.applyInput input.throttlePercent input.brakePressed) p.plant
  let plant ← driven.advance
  return { plant := plant, queue := (p.queue.applyPending now).1 }

/-- The inputs behind the cursor up to the first that is not due. -/
def DriverQueue.dueInputs (q : DriverQueue) (now : Nat) : List PendingInput :=
  (q.pendingInputs.drop q.inputCursor).takeWhile fun input => input.atTime ≤ now

/-- The queue with the cursor behind the due inputs. -/
def DriverQueue.applied (q : DriverQueue) (now : Nat) : DriverQueue :=
  { q with inputCursor := q.inputCursor + (q.dueInputs now).length }

/-- At the end of the queue nothing is due. -/
theorem DriverQueue.dueInputs_of_none {q : DriverQueue} (now : Nat)
    (h : q.pendingInputs[q.inputCursor]? = none) : q.dueInputs now = [] := by
  rw [DriverQueue.dueInputs, List.drop_eq_nil_of_le (List.getElem?_eq_none_iff.mp h)]
  rfl

/-- The input at the cursor decides whether anything is due. -/
theorem DriverQueue.dueInputs_of_some {q : DriverQueue} (now : Nat) {input : PendingInput}
    (h : q.pendingInputs[q.inputCursor]? = some input) :
    q.dueInputs now = if input.atTime ≤ now then
      input :: DriverQueue.dueInputs { q with inputCursor := q.inputCursor + 1 } now else [] := by
  obtain ⟨hlt, hinput⟩ := List.getElem?_eq_some_iff.mp h
  rw [DriverQueue.dueInputs, List.drop_eq_getElem_cons hlt, hinput]
  by_cases hdue : input.atTime ≤ now
  · rw [if_pos hdue, List.takeWhile_cons_of_pos (by simpa using hdue)]
    rfl
  · rw [if_neg hdue, List.takeWhile_cons_of_neg (by simpa using hdue)]

/-- Where nothing is due the queue stays as it is. -/
theorem DriverQueue.applied_of_nil {q : DriverQueue} {now : Nat} (h : q.dueInputs now = []) :
    q.applied now = q := by
  rw [DriverQueue.applied, h]
  rfl

/-- The loop applies the due inputs in order and moves the cursor behind them. -/
theorem DriverQueue.applyLoop_eq {now fuel : Nat} {q : DriverQueue}
    (hfuel : q.pendingInputs.length - q.inputCursor ≤ fuel) :
    q.applyLoop now fuel = (q.applied now, q.dueInputs now) := by
  induction fuel generalizing q with
  | zero =>
    have hend : q.pendingInputs[q.inputCursor]? = none :=
      List.getElem?_eq_none_iff.mpr (by omega)
    have hnone := DriverQueue.dueInputs_of_none now hend
    rw [DriverQueue.applied_of_nil hnone, hnone]
    rfl
  | succ fuel ih =>
    rw [DriverQueue.applyLoop]
    cases hget : q.pendingInputs[q.inputCursor]? with
    | none =>
      have hnone := DriverQueue.dueInputs_of_none now hget
      rw [DriverQueue.applied_of_nil hnone, hnone]
    | some input =>
      have hdueInputs := DriverQueue.dueInputs_of_some now hget
      by_cases hdue : input.atTime ≤ now
      · rw [if_pos hdue] at hdueInputs
        have hless : q.pendingInputs.length - (q.inputCursor + 1) ≤ fuel := by omega
        simp only [if_pos hdue]
        rw [ih hless, DriverQueue.applied, DriverQueue.applied, hdueInputs, List.length_cons]
        simp only [Prod.mk.injEq, DriverQueue.mk.injEq, true_and, and_true]
        omega
      · rw [if_neg hdue] at hdueInputs
        simp only [if_neg hdue]
        rw [DriverQueue.applied_of_nil hdueInputs, hdueInputs]

theorem DriverQueue.applyPending_eq (q : DriverQueue) (now : Nat) :
    q.applyPending now = (q.applied now, q.dueInputs now) :=
  DriverQueue.applyLoop_eq (Nat.le_refl _)

/-! ### When an input is due -/

/-- An event of the queue at a virtual time. -/
inductive InputEvent where
  /-- An input is queued. -/
  | queue (now : Nat) (input : PendingInput)
  /-- The plant steps. -/
  | step (now : Nat)
  deriving DecidableEq, Repr

/-- The virtual time of an event. -/
def InputEvent.time : InputEvent → Nat
  | .queue now _ => now
  | .step now => now

/-- The event is a step at or behind a time. -/
def InputEvent.isStepFrom (time : Nat) : InputEvent → Bool
  | .queue _ _ => false
  | .step now => time ≤ now

/-- A history contains a step at or behind a time. -/
def stepsFrom (time : Nat) (evs : List InputEvent) : Bool := evs.any (InputEvent.isStepFrom time)

/-- The queue behind an event. -/
def queueStep (q : DriverQueue) : InputEvent → DriverQueue
  | .queue _ input => q.queueDriverInput input
  | .step now => (q.applyPending now).1

/-- The queue behind a history. -/
def queueRun (evs : List InputEvent) : DriverQueue := Core.run queueStep .new evs

theorem queueRun_queue (evs : List InputEvent) (queuedAt : Nat) (input : PendingInput) :
    queueRun (evs ++ [.queue queuedAt input]) = (queueRun evs).queueDriverInput input :=
  Core.run_snoc queueStep .new evs (.queue queuedAt input)

theorem queueRun_step (evs : List InputEvent) (now : Nat) :
    queueRun (evs ++ [.step now]) = (queueRun evs).applied now := by
  have hsnoc := Core.run_snoc queueStep .new evs (.step now)
  exact hsnoc.trans (congrArg Prod.fst (DriverQueue.applyPending_eq (queueRun evs) now))

/-- The plant behind an event. -/
def drivenStep (p : DrivenPlant) : InputEvent → Option DrivenPlant
  | .queue _ input => some { p with queue := p.queue.queueDriverInput input }
  | .step now => p.doStep now

/-- The queue of the plant goes through the history, whatever vehicle and battery do. -/
theorem queue_drivenRun {plant : MicrocarPlant} {evs : List InputEvent} {p : DrivenPlant}
    (h : Core.runPartial drivenStep ⟨plant, .new⟩ evs = some p) : p.queue = queueRun evs := by
  have hstep : ∀ before p e p', p.queue = queueRun before → drivenStep p e = some p' →
      True ∧ p'.queue = queueRun (before ++ [e]) := by
    intro before p e p' hqueue hnext
    refine ⟨trivial, ?_⟩
    rw [queueRun, Core.run_snoc, ← queueRun, ← hqueue]
    cases e with
    | queue now input =>
      obtain rfl := Option.some.inj hnext
      rfl
    | step now =>
      obtain ⟨plant, -, hp'⟩ := Option.bind_eq_some_iff.mp hnext
      obtain rfl := Option.some.inj hp'
      rfl
  exact (Core.runPartial_cuts (R := fun evs p => p.queue = queueRun evs) rfl hstep h).2

/-- Inputs of a history, in the order they were queued, for which a step at `now` behind it is
the first one at or behind both the time of the input and the time it was queued. -/
def firstDue : List InputEvent → Nat → List PendingInput
  | [], _ => []
  | .step _ :: evs, now => firstDue evs now
  | .queue queuedAt input :: evs, now =>
    if max input.atTime queuedAt ≤ now ∧ ¬ stepsFrom (max input.atTime queuedAt) evs then
      input :: firstDue evs now
    else firstDue evs now

/-- Inputs of a history that were due at one of its steps. -/
def served : List InputEvent → List PendingInput
  | [] => []
  | .step _ :: evs => served evs
  | .queue queuedAt input :: evs =>
    if stepsFrom (max input.atTime queuedAt) evs then input :: served evs else served evs

/-- Every step of a history applies exactly the inputs that become due with it, in the order of
their times and, for equal times, in the order they were queued. -/
def AppliedOnce (evs : List InputEvent) : Prop :=
  ∀ before now after, evs = before ++ .step now :: after →
    ((queueRun before).applyPending now).2 =
      Core.sortByKey PendingInput.atTime (firstDue before now)

/-- No step follows an input that was queued for a time before that of an input already due at
an earlier step. -/
def NoLateInput (evs : List InputEvent) : Prop :=
  ∀ before queuedAt input mid now after,
    evs = before ++ .queue queuedAt input :: (mid ++ .step now :: after) →
      ∀ earlier ∈ served before, earlier.atTime ≤ input.atTime

/-- Events at non-decreasing times. -/
def Chronological (evs : List InputEvent) : Prop := evs.Pairwise fun e e' => e.time ≤ e'.time

instance : DecidablePred Chronological := fun evs =>
  inferInstanceAs (Decidable (evs.Pairwise fun e e' => e.time ≤ e'.time))

/-! ### Waiting inputs -/

/-- Inputs of a history that were due at none of its steps. -/
def waiting : List InputEvent → List PendingInput
  | [] => []
  | .step _ :: evs => waiting evs
  | .queue queuedAt input :: evs =>
    if stepsFrom (max input.atTime queuedAt) evs then waiting evs
    else input :: waiting evs

theorem stepsFrom_queue (time : Nat) (evs : List InputEvent) (queuedAt : Nat)
    (input : PendingInput) :
    stepsFrom time (evs ++ [.queue queuedAt input]) = stepsFrom time evs := by
  simp [stepsFrom, InputEvent.isStepFrom]

theorem stepsFrom_step (time : Nat) (evs : List InputEvent) (now : Nat) :
    stepsFrom time (evs ++ [.step now]) = (stepsFrom time evs || decide (time ≤ now)) := by
  simp [stepsFrom, InputEvent.isStepFrom]

/-- A step not before an input was queued comes for it when its time has come. -/
theorem stepsFrom_step_of_queued {queuedAt now : Nat} (h : queuedAt ≤ now) {atTime : Nat}
    {evs : List InputEvent} : stepsFrom (max atTime queuedAt) (evs ++ [.step now]) =
      (stepsFrom (max atTime queuedAt) evs || decide (atTime ≤ now)) := by
  simp [stepsFrom_step, h]

theorem waiting_queue (evs : List InputEvent) (queuedAt : Nat) (input : PendingInput) :
    waiting (evs ++ [.queue queuedAt input]) = waiting evs ++ [input] := by
  induction evs with
  | nil => rfl
  | cons e evs ih =>
    cases e with
    | step now => exact ih
    | queue queuedAt' input' =>
      rw [List.cons_append, waiting, waiting, stepsFrom_queue, ih]
      split <;> rfl

theorem served_queue (evs : List InputEvent) (queuedAt : Nat) (input : PendingInput) :
    served (evs ++ [.queue queuedAt input]) = served evs := by
  induction evs with
  | nil => rfl
  | cons e evs ih =>
    cases e with
    | step now => exact ih
    | queue queuedAt' input' =>
      rw [List.cons_append, served, served, stepsFrom_queue, ih]

/-- Induction along a history up to a time: steps change nothing, and inputs were queued by then. -/
@[elab_as_elim] theorem history_until {now : Nat} {motive : List InputEvent → Prop}
    (nil : motive []) (step : ∀ now' evs, motive evs → motive (.step now' :: evs))
    (queue : ∀ queuedAt input evs, queuedAt ≤ now → motive evs →
      motive (.queue queuedAt input :: evs))
    {evs : List InputEvent} (h : ∀ e ∈ evs, e.time ≤ now) : motive evs := by
  induction evs with
  | nil => exact nil
  | cons e evs ih =>
    have hrest := ih fun e' he' => h e' (List.mem_cons_of_mem e he')
    cases e with
    | step now' => exact step now' evs hrest
    | queue queuedAt input => exact queue queuedAt input evs (h _ List.mem_cons_self) hrest

/-- A step not before the queued inputs leaves those waiting whose time has not come. -/
theorem waiting_step {evs : List InputEvent} {now : Nat} (h : ∀ e ∈ evs, e.time ≤ now) :
    waiting (evs ++ [.step now]) = (waiting evs).filter fun input => ¬ input.atTime ≤ now := by
  refine history_until rfl (fun _ _ hrest => hrest) ?_ h
  intro queuedAt input evs hqueued hrest
  rw [List.cons_append, waiting, waiting, stepsFrom_step_of_queued hqueued, hrest]
  cases hdue : stepsFrom (max input.atTime queuedAt) evs with
  | true => simp
  | false =>
    by_cases hnow : input.atTime ≤ now
    · simp [hnow]
    · simp [hnow, Nat.lt_of_not_le hnow]

/-- A step not before the queued inputs serves those whose time has come. -/
theorem served_step {evs : List InputEvent} {now : Nat} (h : ∀ e ∈ evs, e.time ≤ now) :
    (served (evs ++ [.step now])).Perm
      (served evs ++ (waiting evs).filter fun input => input.atTime ≤ now) := by
  refine history_until (List.Perm.refl _) (fun _ _ hrest => hrest) ?_ h
  intro queuedAt input evs hqueued hrest
  rw [List.cons_append, served, served, waiting, stepsFrom_step_of_queued hqueued]
  cases hdue : stepsFrom (max input.atTime queuedAt) evs with
  | true => simpa using hrest
  | false =>
    by_cases hnow : input.atTime ≤ now
    · simpa [hnow] using (hrest.cons input).trans List.perm_middle.symm
    · simpa [hnow] using hrest

/-- The inputs that become due with a step not before the queued inputs. -/
theorem firstDue_eq {evs : List InputEvent} {now : Nat} (h : ∀ e ∈ evs, e.time ≤ now) :
    firstDue evs now = (waiting evs).filter fun input => input.atTime ≤ now := by
  refine history_until rfl (fun _ _ hrest => hrest) ?_ h
  intro queuedAt input evs hqueued hrest
  rw [firstDue, waiting, hrest]
  cases hdue : stepsFrom (max input.atTime queuedAt) evs with
  | true => simp
  | false => by_cases hnow : input.atTime ≤ now <;> simp [hnow, hqueued]

/-- An input that was served is not later than some step. -/
theorem exists_step_of_served {evs : List InputEvent} {input : PendingInput}
    (h : input ∈ served evs) : ∃ now, .step now ∈ evs ∧ input.atTime ≤ now := by
  induction evs with
  | nil => exact absurd h List.not_mem_nil
  | cons e evs ih =>
    cases e with
    | step now =>
      obtain ⟨now', hmem, hle⟩ := ih h
      exact ⟨now', List.mem_cons_of_mem _ hmem, hle⟩
    | queue queuedAt input' =>
      rw [served] at h
      split at h
      · rename_i hany
        rcases List.mem_cons.mp h with rfl | hmem
        · obtain ⟨e, he, hstep⟩ := List.any_eq_true.mp hany
          cases e with
          | queue _ _ => exact absurd hstep (by simp [InputEvent.isStepFrom])
          | step now =>
            have hle : max input.atTime queuedAt ≤ now := by
              simpa [InputEvent.isStepFrom] using hstep
            exact ⟨now, List.mem_cons_of_mem _ he, Nat.le_trans (Nat.le_max_left _ _) hle⟩
        · obtain ⟨now', hstep, hle⟩ := ih hmem
          exact ⟨now', List.mem_cons_of_mem _ hstep, hle⟩
      · obtain ⟨now', hstep, hle⟩ := ih h
        exact ⟨now', List.mem_cons_of_mem _ hstep, hle⟩

/-! ### The queue along a history -/

/-- What holds of the queue behind every history: it is sorted, holds all queued inputs, and the
cursor counts those that were due. -/
structure QueueHolds (evs : List InputEvent) (q : DriverQueue) : Prop where
  /-- The pending inputs are sorted by time. -/
  sorted : Core.SortedByKey PendingInput.atTime q.pendingInputs
  /-- No input is lost or duplicated in the list. -/
  perm : q.pendingInputs.Perm (served evs ++ waiting evs)
  /-- The cursor counts the inputs that were due. -/
  cursor : q.inputCursor = (served evs).length

/-- Behind a chronological history, inputs that were due are due now. -/
theorem filter_served {evs : List InputEvent} {now : Nat} (h : ∀ e ∈ evs, e.time ≤ now) :
    (served evs).filter (fun input => input.atTime ≤ now) = served evs := by
  refine List.filter_eq_self.mpr fun input hinput => ?_
  obtain ⟨time, hstep, hle⟩ := exists_step_of_served hinput
  simpa using Nat.le_trans hle (h _ hstep)

/-- The inputs up to a time are those that were due and those that become due. -/
theorem QueueHolds.perm_filter {evs : List InputEvent} {q : DriverQueue} (hq : QueueHolds evs q)
    {now : Nat} (h : ∀ e ∈ evs, e.time ≤ now) :
    (q.pendingInputs.filter fun input => input.atTime ≤ now).Perm
      (served evs ++ (waiting evs).filter fun input => input.atTime ≤ now) := by
  have hperm := hq.perm.filter fun input => input.atTime ≤ now
  rw [List.filter_append, filter_served h] at hperm
  exact hperm

/-- What a step applies, from the inputs up to its time. -/
theorem QueueHolds.dueInputs_eq {evs : List InputEvent} {q : DriverQueue} (hq : QueueHolds evs q)
    {now : Nat} (h : ∀ e ∈ evs, e.time ≤ now) :
    q.dueInputs now =
      (q.pendingInputs.filter fun input => input.atTime ≤ now).drop q.inputCursor := by
  refine hq.sorted.takeWhile_drop ?_
  rw [hq.cursor, (hq.perm_filter h).length_eq, List.length_append]
  exact Nat.le_add_right _ _

/-- Every event keeps the queue. -/
theorem queueHolds_run {evs : List InputEvent} (h : Chronological evs) :
    QueueHolds evs (queueRun evs) := by
  induction evs using List.reverseRecOn with
  | nil => exact ⟨List.Pairwise.nil, List.Perm.refl _, rfl⟩
  | append_singleton evs e ih =>
    obtain ⟨hbefore, -, hlast⟩ := List.pairwise_append.mp h
    have hq := ih hbefore
    have htime : ∀ e' ∈ evs, e'.time ≤ e.time := fun e' he' => hlast e' he' e (by simp)
    cases e with
    | queue queuedAt input =>
      rw [queueRun_queue]
      refine ⟨Core.sortedByKey_sortByKey _ _, ?_, ?_⟩
      · rw [served_queue, waiting_queue, ← List.append_assoc]
        exact (Core.perm_sortByKey _ _).trans (hq.perm.append_right [input])
      · rw [served_queue]
        exact hq.cursor
    | step now =>
      have htime : ∀ e' ∈ evs, e'.time ≤ now := htime
      rw [queueRun_step]
      refine ⟨hq.sorted, ?_, ?_⟩
      · have hsplit : ((waiting evs).filter (fun input => input.atTime ≤ now) ++
            (waiting evs).filter fun input => ¬ input.atTime ≤ now).Perm (waiting evs) := by
          simpa only [decide_not] using
            List.filter_append_perm (fun input => decide (input.atTime ≤ now)) (waiting evs)
        have hserved := (served_step htime).append_right
          ((waiting evs).filter fun input => ¬ input.atTime ≤ now)
        rw [List.append_assoc] at hserved
        rw [waiting_step htime]
        exact hq.perm.trans ((hsplit.symm.append_left _).trans hserved.symm)
      · show (queueRun evs).inputCursor + ((queueRun evs).dueInputs now).length = _
        rw [hq.dueInputs_eq htime, List.length_drop, (hq.perm_filter htime).length_eq,
          (served_step htime).length_eq, List.length_append, hq.cursor]
        omega

/-- A step applies the inputs that become due with it only if the cursor stands behind exactly
those that were due. -/
theorem QueueHolds.take_perm {evs : List InputEvent} {q : DriverQueue} (hq : QueueHolds evs q)
    {now : Nat} (h : ∀ e ∈ evs, e.time ≤ now)
    (heq : q.dueInputs now = Core.sortByKey PendingInput.atTime (firstDue evs now)) :
    ((q.pendingInputs.filter fun input => input.atTime ≤ now).take q.inputCursor).Perm
      (served evs) := by
  have hperm := hq.perm_filter h
  rw [← List.take_append_drop q.inputCursor (q.pendingInputs.filter _), ← hq.dueInputs_eq h, heq,
    firstDue_eq h] at hperm
  have hsort := Core.perm_sortByKey PendingInput.atTime
    ((waiting evs).filter fun input => input.atTime ≤ now)
  exact (List.perm_append_right_iff _).mp (hperm.trans (hsort.symm.append_left _))

/-- No input of a history is queued for a time before that of an input already due. -/
def OnTime (evs : List InputEvent) : Prop :=
  ∀ before queuedAt input after, evs = before ++ .queue queuedAt input :: after →
    ∀ earlier ∈ served before, earlier.atTime ≤ input.atTime

theorem onTime_snoc {evs : List InputEvent} {e : InputEvent} (h : OnTime (evs ++ [e])) :
    OnTime evs ∧ ∀ queuedAt input, e = .queue queuedAt input →
      ∀ earlier ∈ served evs, earlier.atTime ≤ input.atTime := by
  constructor
  · rintro before queuedAt input after rfl
    exact h before queuedAt input (after ++ [e]) (by simp)
  · rintro queuedAt input rfl
    exact h evs queuedAt input [] rfl

/-- The cursor stands between the inputs that were due and those that wait. -/
structure InSync (evs : List InputEvent) (q : DriverQueue) : Prop where
  /-- In front of the cursor are the inputs that were due. -/
  applied : (q.pendingInputs.take q.inputCursor).Perm (served evs)
  /-- Behind the cursor are those that wait, sorted by time. -/
  waits : q.pendingInputs.drop q.inputCursor = Core.sortByKey PendingInput.atTime (waiting evs)

/-- A queue in sync applies the inputs that become due. -/
theorem InSync.dueInputs_eq {evs : List InputEvent} {q : DriverQueue} (h : InSync evs q)
    (now : Nat) : q.dueInputs now =
      Core.sortByKey PendingInput.atTime
        ((waiting evs).filter fun input => input.atTime ≤ now) := by
  have hsorted := Core.sortedByKey_sortByKey PendingInput.atTime (waiting evs)
  rw [DriverQueue.dueInputs, h.waits, ← Core.filter_sortByKey]
  simpa using hsorted.takeWhile_drop (n := now) (k := 0) (Nat.zero_le _)

/-- An input that is not late is inserted behind the cursor. -/
theorem InSync.queue {evs : List InputEvent} {q : DriverQueue} (h : InSync evs q)
    (hq : QueueHolds evs q) {input : PendingInput}
    (hlate : ∀ earlier ∈ served evs, earlier.atTime ≤ input.atTime) (queuedAt : Nat) :
    InSync (evs ++ [.queue queuedAt input]) (q.queueDriverInput input) := by
  have hcursor : (q.pendingInputs.take q.inputCursor).length = q.inputCursor := by
    rw [h.applied.length_eq, hq.cursor]
  have hinsert : (q.queueDriverInput input).pendingInputs =
      q.pendingInputs.take q.inputCursor ++
        Core.insertLast PendingInput.atTime input (q.pendingInputs.drop q.inputCursor) := by
    show Core.sortByKey PendingInput.atTime (q.pendingInputs ++ [input]) = _
    rw [Core.sortByKey_snoc, hq.sorted.sortByKey_eq, ← Core.insertLast_append,
      List.take_append_drop]
    exact fun earlier hearlier => hlate earlier (h.applied.mem_iff.mp hearlier)
  constructor
  · show ((q.queueDriverInput input).pendingInputs.take q.inputCursor).Perm _
    rw [hinsert, List.take_left' hcursor, served_queue]
    exact h.applied
  · show (q.queueDriverInput input).pendingInputs.drop q.inputCursor = _
    rw [hinsert, List.drop_left' hcursor, waiting_queue, Core.sortByKey_snoc, h.waits]

/-- A step moves the cursor behind the inputs that become due. -/
theorem InSync.step {evs : List InputEvent} {q : DriverQueue} (h : InSync evs q) {now : Nat}
    (htime : ∀ e ∈ evs, e.time ≤ now) : InSync (evs ++ [.step now]) (q.applied now) := by
  have hdue := h.dueInputs_eq now
  have hsorted := Core.sortedByKey_sortByKey PendingInput.atTime (waiting evs)
  have hsplit := hsorted.split now
  rw [Core.filter_sortByKey, Core.filter_sortByKey, ← hdue] at hsplit
  constructor
  · show (q.pendingInputs.take (q.inputCursor + (q.dueInputs now).length)).Perm _
    rw [List.take_add, h.waits, ← hsplit, List.take_left' rfl, hdue]
    refine List.Perm.trans ?_ (served_step htime).symm
    exact h.applied.append (Core.perm_sortByKey _ _)
  · show q.pendingInputs.drop (q.inputCursor + (q.dueInputs now).length) = _
    rw [← List.drop_drop, h.waits, ← hsplit, List.drop_left' rfl, waiting_step htime]

/-- Without late inputs the queue is in sync behind every history. -/
theorem inSync_run {evs : List InputEvent} (h : Chronological evs) (htimes : OnTime evs) :
    InSync evs (queueRun evs) := by
  induction evs using List.reverseRecOn with
  | nil => exact ⟨List.Perm.refl _, rfl⟩
  | append_singleton evs e ih =>
    obtain ⟨hbefore, -, hlast⟩ := List.pairwise_append.mp h
    obtain ⟨hontime, hlate⟩ := onTime_snoc htimes
    have hsync := ih hbefore hontime
    cases e with
    | queue queuedAt input =>
      rw [queueRun_queue]
      exact hsync.queue (queueHolds_run hbefore) (hlate queuedAt input rfl) queuedAt
    | step now =>
      rw [queueRun_step]
      exact hsync.step fun e' he' => hlast e' he' (.step now) (by simp)

/-- A history with a step has a first one. -/
theorem exists_first_step (evs : List InputEvent) (now : Nat) (after : List InputEvent) :
    ∃ first time rest, evs ++ .step now :: after = first ++ .step time :: rest ∧
      ∀ e ∈ first, ∀ t, e ≠ .step t := by
  induction evs with
  | nil => exact ⟨[], now, after, rfl, nofun⟩
  | cons e evs ih =>
    cases e with
    | step time => exact ⟨[], time, evs ++ .step now :: after, rfl, nofun⟩
    | queue queuedAt input =>
      obtain ⟨first, time, rest, hsplit, hnone⟩ := ih
      refine ⟨.queue queuedAt input :: first, time, rest, by rw [List.cons_append, hsplit]; rfl, ?_⟩
      intro e he t
      rcases List.mem_cons.mp he with rfl | hmem
      · exact nofun
      · exact hnone e hmem t

/-- An input waits as long as no step follows it. -/
theorem mem_waiting_of_no_step {before mid : List InputEvent} {queuedAt : Nat}
    {input : PendingInput} (h : ∀ e ∈ mid, ∀ t, e ≠ .step t) :
    input ∈ waiting (before ++ .queue queuedAt input :: mid) := by
  induction mid using List.reverseRecOn with
  | nil =>
    rw [waiting_queue]
    exact List.mem_append_right _ List.mem_cons_self
  | append_singleton mid e ih =>
    have hmid := ih fun e' he' => h e' (List.mem_append_left _ he')
    cases e with
    | step now => exact absurd rfl (h (.step now) List.mem_concat_self now)
    | queue queuedAt' input' =>
      rw [← List.cons_append, ← List.append_assoc, waiting_queue]
      exact List.mem_append_left _ hmid

/-- Inputs that were due stay so. -/
theorem served_append {before : List InputEvent} {input : PendingInput}
    (h : input ∈ served before) (after : List InputEvent) : input ∈ served (before ++ after) := by
  induction before with
  | nil => exact absurd h List.not_mem_nil
  | cons e before ih =>
    cases e with
    | step now => exact ih h
    | queue queuedAt input' =>
      rw [List.cons_append, served, stepsFrom, List.any_append]
      rw [served] at h
      split at h
      · rename_i hany
        rw [stepsFrom] at hany
        rw [hany, Bool.true_or, if_pos rfl]
        rcases List.mem_cons.mp h with rfl | hmem
        · exact List.mem_cons_self
        · exact List.mem_cons_of_mem _ (ih hmem)
      · split
        · exact List.mem_cons_of_mem _ (ih h)
        · exact ih h

/-- Where a step applies the inputs that become due with it, none of them is for a time before
that of an input already due. -/
theorem QueueHolds.le_of_dueInputs_eq {evs : List InputEvent} {q : DriverQueue}
    (hq : QueueHolds evs q) {now : Nat} (h : ∀ e ∈ evs, e.time ≤ now)
    (heq : q.dueInputs now = Core.sortByKey PendingInput.atTime (firstDue evs now))
    {earlier input : PendingInput} (hearlier : earlier ∈ served evs) (hinput : input ∈ waiting evs)
    (hdue : input.atTime ≤ now) : earlier.atTime ≤ input.atTime := by
  have htake := hq.take_perm h heq
  have happlied : input ∈ q.dueInputs now := by
    rw [heq, firstDue_eq h, (Core.perm_sortByKey _ _).mem_iff, List.mem_filter]
    exact ⟨hinput, by simpa using hdue⟩
  rw [hq.dueInputs_eq h] at happlied
  have hsorted := hq.sorted.filter fun input => decide (input.atTime ≤ now)
  rw [← List.take_append_drop q.inputCursor (List.filter _ _), List.pairwise_append] at hsorted
  exact hsorted.2.2 earlier (htake.mem_iff.mpr hearlier) input happlied

/-- In a chronological history, every step applies exactly the inputs that become due with it, in
order, exactly when no step follows an input that was queued for a time before that of an input
already applied. -/
theorem driverInputs_applied_once_iff {evs : List InputEvent} (h : Chronological evs) :
    AppliedOnce evs ↔ NoLateInput evs := by
  constructor
  · rintro hall before queuedAt input mid now after rfl earlier hearlier
    -- the first step behind a late input shows it
    obtain ⟨first, time, rest, hsplit, hnone⟩ := exists_first_step mid now after
    rw [hsplit] at h hall
    have hcut : before ++ .queue queuedAt input :: (first ++ .step time :: rest) =
        (before ++ .queue queuedAt input :: first) ++ .step time :: rest := by simp
    have hsteps := h
    rw [hcut, Chronological, List.pairwise_append] at hsteps
    have htime : ∀ e ∈ before ++ .queue queuedAt input :: first, e.time ≤ time :=
      fun e he => hsteps.2.2 e he (.step time) List.mem_cons_self
    have hserved := served_append hearlier (.queue queuedAt input :: first)
    by_contra hlate
    obtain ⟨due, hstep, hdue⟩ := exists_step_of_served hserved
    have hnow : due ≤ time := htime _ hstep
    have happlied := hall _ time rest hcut
    rw [DriverQueue.applyPending_eq] at happlied
    exact hlate ((queueHolds_run hsteps.1).le_of_dueInputs_eq htime happlied hserved
      (mem_waiting_of_no_step hnone) (by omega))
  · rintro hnolate before now after rfl
    obtain ⟨hbefore, -, hlast⟩ := List.pairwise_append.mp h
    have hontime : OnTime before := by
      rintro first queuedAt input mid rfl
      exact hnolate first queuedAt input mid now after (by simp)
    rw [DriverQueue.applyPending_eq, (inSync_run hbefore hontime).dueInputs_eq, firstDue_eq]
    exact fun e he => hlast e he (.step now) List.mem_cons_self

/-- An input queued ahead of its time, and one for an earlier time behind a step that applied
neither. -/
def orderlyInputs : List InputEvent :=
  [.queue 0 ⟨20, 50, false⟩, .step 5, .queue 5 ⟨10, 30, false⟩, .step 20]

theorem orderlyInputs_applied_once : AppliedOnce orderlyInputs := by
  refine (driverInputs_applied_once_iff (by decide)).mpr ?_
  rintro before queuedAt input mid now after heq earlier hearlier
  rcases before with _ | ⟨e, _ | ⟨e', _ | ⟨e'', before⟩⟩⟩
  · exact absurd hearlier List.not_mem_nil
  · simp [orderlyInputs] at heq
  · obtain ⟨rfl, rfl, -⟩ : .queue 0 ⟨20, 50, false⟩ = e ∧ .step 5 = e' ∧ _ := by
      simpa [orderlyInputs] using heq
    exact absurd hearlier (by simp [served, stepsFrom, InputEvent.isStepFrom])
  · -- no input is queued behind the third event
    have hlength := congrArg List.length heq
    simp only [orderlyInputs, List.length_cons, List.length_nil, List.length_append] at hlength
    omega

/-- An input for time 5 that is queued behind a step that has applied the input for time 10: the
next step applies the old input once more and never the new one. -/
def lateInput : List InputEvent :=
  [.queue 0 ⟨10, 80, false⟩, .step 10, .queue 10 ⟨5, 20, true⟩, .step 20]

theorem lateInput_never_applied : Chronological lateInput ∧ ¬ AppliedOnce lateInput := by
  refine ⟨by decide, ?_⟩
  intro hall
  have hsecond := hall [.queue 0 ⟨10, 80, false⟩, .step 10, .queue 10 ⟨5, 20, true⟩] 20 [] rfl
  exact absurd hsecond (by decide)

end Microcar.Plant
