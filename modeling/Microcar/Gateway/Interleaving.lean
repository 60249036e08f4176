import Microcar.Gateway.Emissions

/-!
# Interleavings of the gateway tasks

The main loop runs one phase after the other and keeps the time it read when it woke up;
the receive task and the fault aggregator can run between any two phases. An event says
which task runs next and at what time, so that the histories of events are exactly the
interleavings of the tasks at this grain, for any relative speed; the drain of the heartbeat
queue is one phase, and a batch of received frames is a series of receive events. Real time
is a natural number, of which the tasks see the 32-bit clock.
-/

namespace Microcar.Gateway

/-- The phases of the loop in `gateway_main`. -/
inductive LoopPhase where
  | dequeue
  | scripts
  | notify
  | process
  | readOldMode
  | updateMode
  | heartbeat
  | readMode
  | readFaultCd
  | sendMode
  deriving DecidableEq, Repr

/-- The phase behind a phase; the iteration ends with the mode frame. -/
def LoopPhase.next : LoopPhase → LoopPhase
  | .dequeue => .scripts
  | .scripts => .notify
  | .notify => .process
  | .process => .readOldMode
  | .readOldMode => .updateMode
  | .updateMode => .heartbeat
  | .heartbeat => .readMode
  | .readMode => .readFaultCd
  | .readFaultCd => .sendMode
  | .sendMode => .dequeue

/-- The step a phase makes. -/
def LoopPhase.op (nowMs : UInt32) (take : Bool) : LoopPhase → GatewayOp
  | .dequeue => .dequeue nowMs
  | .scripts => .scripts take
  | .notify => .notify
  | .process => .process nowMs take
  | .readOldMode => .readOldMode
  | .updateMode => .updateMode nowMs take
  | .heartbeat => .heartbeat nowMs
  | .readMode => .readMode nowMs
  | .readFaultCd => .readFaultCd take
  | .sendMode => .sendMode

/-- The gateway with the control state of its main loop. -/
structure TaskState where
  /-- The shared context. -/
  ctx : GatewayCtx
  /-- The phase the loop runs next. -/
  phase : LoopPhase
  /-- The time at which the loop last woke up. -/
  now : Nat

/-- The task that runs next, with the outcome of its mutex takes. -/
inductive TaskChoice where
  /-- The receive task dispatches a frame. -/
  | rx (f : RxFrame) (take : Bool)
  /-- The main loop runs its next phase. -/
  | loop (take : Bool)
  /-- The fault aggregator runs a period. -/
  | aggregate (take : Bool)
  deriving DecidableEq

/-- A scheduled step of a task. -/
structure TaskEvent where
  /-- Real time in milliseconds. -/
  time : Nat
  /-- Which task runs. -/
  choice : TaskChoice
  deriving DecidableEq

/-- The loop reads the clock when it wakes up for an iteration. -/
def taskNow (s : TaskState) (e : TaskEvent) : Nat :=
  match e.choice, s.phase with
  | .loop _, .dequeue => e.time
  | _, _ => s.now

/-- The step the scheduled task makes. -/
def taskOp (s : TaskState) (e : TaskEvent) : GatewayOp :=
  match e.choice with
  | .rx f take => .frame f take
  | .loop take => s.phase.op (UInt32.ofNat (taskNow s e)) take
  | .aggregate take => .aggregate take

/-- The gateway behind a scheduled step. -/
def taskStep (s : TaskState) (e : TaskEvent) : TaskState where
  ctx := gatewayStep s.ctx (taskOp s e)
  phase := match e.choice with
    | .loop _ => s.phase.next
    | _ => s.phase
  now := taskNow s e

/-- The gateway at boot, before its first iteration. -/
def taskBoot (cfg : GatewayConfig) : TaskState := ⟨gatewayBoot cfg, .dequeue, 0⟩

/-- The events of an undisturbed iteration. -/
def iterationEvents (time : Nat) : List TaskEvent := List.replicate 10 ⟨time, .loop true⟩

/-- Scheduled without interruption, the loop runs a whole iteration. -/
theorem run_iterationEvents (ctx : GatewayCtx) (now time : Nat) :
    Core.run taskStep ⟨ctx, .dequeue, now⟩ (iterationEvents time) =
      ⟨Core.run gatewayStep ctx (gatewayMain (UInt32.ofNat time)), .dequeue, time⟩ := by
  simp only [iterationEvents, List.replicate_succ, List.replicate_zero, Core.run_cons,
    Core.run_nil, taskStep, taskOp, taskNow, LoopPhase.op, LoopPhase.next, gatewayMain]

/-- The event is the last step of an iteration. -/
def endsIteration (s : TaskState) (e : TaskEvent) : Bool :=
  match e.choice, s.phase with
  | .loop _, .sendMode => true
  | _, _ => false

/-- The last step of an iteration sends a mode that was read. -/
theorem endsIteration_op {s : TaskState} {e : TaskEvent} (h : endsIteration s e = true) :
    s.phase = .sendMode ∧ (taskStep s e).phase = .dequeue ∧ taskOp s e = .sendMode := by
  obtain ⟨ctx, phase, now⟩ := s
  obtain ⟨time, choice⟩ := e
  cases choice with
  | loop take =>
    cases phase with
    | sendMode => exact ⟨rfl, rfl, rfl⟩
    | _ => exact absurd h Bool.false_ne_true
  | _ => exact absurd h Bool.false_ne_true

/-- No other step sends a mode. -/
theorem taskOp_ne_sendMode {s : TaskState} {e : TaskEvent} (h : endsIteration s e = false) :
    taskOp s e ≠ .sendMode := by
  obtain ⟨ctx, phase, now⟩ := s
  obtain ⟨time, choice⟩ := e
  cases choice with
  | loop take =>
    cases phase with
    | sendMode => exact absurd h.symm Bool.false_ne_true
    | _ => exact fun hop => nomatch hop
  | _ => exact fun hop => nomatch hop

end Microcar.Gateway
