import Microcar.Dogfood.Answers
import Microcar.Dogfood.Corpus

/-!
# The diagnostics lane

The lane of `diagnostics.rs` runs a scenario and compares the responses it collects from the trace
with the directives of the scenario's file. What it collects for a service and a request is the
gateway's last answer to them on the bus, so its verdict is one about the bus.
-/

namespace Microcar.Dogfood.Diagnostics

open Microcar.Core Microcar.Gateway Microcar.Powertrain

/-! ### The lane -/

/-- The verdict on one expectation. -/
structure DiagnosticsCheck where
  name : String
  passed : Bool
  detail : String

/-- The verdict on one scenario. -/
structure DiagnosticsScenarioResult where
  name : String
  passed : Bool
  runError : Option String
  checks : List DiagnosticsCheck

/-- A directive `diagnostics-expect`. -/
inductive Expectation where
  | serviceMode
  | dtc (req count : UInt8) (code : Option UInt8)
  | actuator (status : UInt8)
  | motorTorque (max : Int8) (afterMs : Nat)
  deriving DecidableEq

/-- The byte of SERVICE, `VEHICLE_SERVICE`. -/
def vehicleService : UInt8 := 6

/-- The response to a request. -/
def response (responses : List DiagResponse) (service req : UInt8) : Option DiagResponse :=
  responses.find? fun r => r.service == service && r.req == req

/-- The torques of the motor commands in SERVICE. -/
def collectServiceMotorCommands (trace : List UserTrace) : List Int8 :=
  (trace.filter fun e => e.machine == nodePowertrain && e.label == "diag_motor_command").map
    fun e => (e.value >>> (8 : UInt32)).toUInt8.toInt8

/-- The payload that a response is shown with. -/
def responsePayload (r : DiagResponse) : List UInt8 :=
  [1, r.service, r.req, r.status, r.value0, r.value1]

/-- A list as the format `?` writes it. -/
def debugList {α : Type} [ToString α] (values : List α) : String :=
  "[" ++ ", ".intercalate (values.map toString) ++ "]"

/-- A response as the details show it. -/
def debugResponse (r : Option DiagResponse) : String :=
  debugOption (fun r => debugList (responsePayload r)) r

/-- The check of one expectation. -/
def evaluate (responses : List DiagResponse) (serviceMotorCommands : List Int8) :
    Expectation → DiagnosticsCheck
  | .serviceMode =>
    let start := response responses mcDiagStartSession 1
    let mode := response responses mcDiagReadMode 2
    let passed := (start.any fun r => r.status == mcDiagOk && r.value0 == vehicleService) &&
      mode.any fun r => r.status == mcDiagOk && r.value0 == vehicleService
    { name := "service-mode"
      passed := passed
      detail := if passed then "gateway entered SERVICE and read-mode returned SERVICE"
        else "expected START_SESSION and READ_MODE status=0 mode=6; start=" ++
          debugResponse start ++ " mode=" ++ debugResponse mode }
  | .dtc req count code =>
    let resp := response responses mcDiagReadDtcs req
    let passed := resp.any fun r =>
      r.status == mcDiagOk && r.value0 == count && code.all fun c => r.value1 == c
    { name := "dtc-req-" ++ toString req
      passed := passed
      detail := if passed then
          match code with
          | some c => "request " ++ toString req ++ " returned " ++ toString count ++
              " DTC(s), first code " ++ toString c
          | none => "request " ++ toString req ++ " returned " ++ toString count ++ " DTC(s)"
        else "expected READ_DTCS req=" ++ toString req ++ " count=" ++ toString count ++
          " code=" ++ debugOption toString code ++ "; got " ++ debugResponse resp }
  | .actuator status =>
    let resp := response responses mcDiagActuatorTest 6
    let passed := resp.any fun r => r.status == status
    { name := "actuator-test"
      passed := passed
      detail := if passed then "actuator self-test returned status " ++ toString status
        else "expected ACTUATOR_TEST status " ++ toString status ++ "; got " ++
          debugResponse resp }
  | .motorTorque max afterMs =>
    let passed := !serviceMotorCommands.isEmpty && serviceMotorCommands.all fun t => t ≤ max
    { name := "motor-torque"
      passed := passed
      detail := if passed then "all " ++ toString serviceMotorCommands.length ++
          " SERVICE motor command(s) were <= " ++ toString max ++ " (expectation after " ++
          toString afterMs ++ "ms)"
        else "expected SERVICE motor torque <= " ++ toString max ++ "; saw " ++
          debugList serviceMotorCommands }

/-- A file without directives asks for SERVICE, as `parse_expectations` ends. -/
def orServiceMode (directives : List Expectation) : List Expectation :=
  if directives.isEmpty then [.serviceMode] else directives

/-- The end of `run_diagnostics_scenario`, behind a run that passed and a file that was read. -/
def runDiagnosticsScenario (name : String) (directives : List Expectation)
    (trace : List UserTrace) : DiagnosticsScenarioResult :=
  let responses := collectDiagResponses trace
  let serviceMotorCommands := collectServiceMotorCommands trace
  let checks := (orServiceMode directives).map (evaluate responses serviceMotorCommands)
  { name := name
    passed := !checks.isEmpty && checks.all DiagnosticsCheck.passed
    runError := none
    checks := checks }

/-! ### What the lane collects -/

/-- The labels of the responses. -/
def diagWords : List String := ["gateway_diag_response", "gateway_diag_response_v1"]

/-- The last answer with a key among the answers on the bus. -/
def lastAnswer (calls : List DiagCall) (key : DiagKey) : Option DiagCall :=
  calls.reverse.find? fun call => call.key == key

theorem lastAnswer_eq_some_iff {calls : List DiagCall} {key : DiagKey} {call : DiagCall} :
    lastAnswer calls key = some call ↔ ∃ before after, calls = before ++ call :: after ∧
      (∀ later ∈ after, later.key ≠ call.key) ∧ call.key = key := by
  rw [lastAnswer, List.find?_eq_some_iff_append]
  constructor
  · rintro ⟨hkey, after, before, hsplit, hafter⟩
    obtain rfl := beq_iff_eq.mp hkey
    refine ⟨before.reverse, after.reverse, ?_, fun later hlater => ?_, rfl⟩
    · have hcalls := congrArg List.reverse hsplit
      rw [List.reverse_reverse] at hcalls
      rw [hcalls]
      simp
    · simpa using hafter later (List.mem_reverse.mp hlater)
  · rintro ⟨before, after, rfl, hafter, rfl⟩
    refine ⟨beq_self_eq_true _, after.reverse, before.reverse, by simp, fun later hlater => ?_⟩
    simpa using hafter later (List.mem_reverse.mp hlater)

/-- With one response for each pair, the search finds the one that stands there. -/
theorem response_eq_some_iff {responses : List DiagResponse} {service req : UInt8}
    (hnodup : (responses.map fun r => (r.service, r.req)).Nodup) {r : DiagResponse} :
    response responses service req = some r ↔
      r ∈ responses ∧ r.service = service ∧ r.req = req := by
  have hmatch (r : DiagResponse) : (r.service == service && r.req == req) = true ↔
      r.service = service ∧ r.req = req := by simp
  have hfind {r : DiagResponse} (hfound : response responses service req = some r) :
      r.service = service ∧ r.req = req := by
    rw [response] at hfound
    have hpassed := List.find?_some hfound
    exact (hmatch r).mp hpassed
  constructor
  · intro hfound
    exact ⟨List.mem_of_find?_eq_some hfound, hfind hfound⟩
  · rintro ⟨hmem, hkey⟩
    cases hfound : response responses service req with
    | none => exact absurd ((hmatch r).mpr hkey) (List.find?_eq_none.mp hfound r hmem)
    | some other =>
      have hother := hfind hfound
      have hsame := List.inj_on_of_nodup_map hnodup (List.mem_of_find?_eq_some hfound) hmem
        (Prod.ext (hother.1.trans hkey.1.symm) (hother.2.trans hkey.2.symm))
      rw [hsame]

/-- What the lane collects for a pair is the last answer to it. -/
theorem response_collected {calls : List DiagCall} {trace : List UserTrace}
    (htrace : trace.filter isDiagEvent = calls.flatMap DiagCall.events) (service req : UInt8) :
    response (collectDiagResponses trace) service req =
      (lastAnswer calls (service, req)).map DiagCall.response := by
  have hperm := collectDiagResponses_perm htrace
  apply Option.ext
  intro r
  rw [response_eq_some_iff (nodup_collected hperm), hperm.mem_iff, Option.map_eq_some_iff]
  constructor
  · rintro ⟨hmem, rfl, rfl⟩
    obtain ⟨before, call, after, hcalls, hafter, rfl⟩ := mem_collected.mp hmem
    exact ⟨call, lastAnswer_eq_some_iff.mpr ⟨before, after, hcalls, hafter, rfl⟩, rfl⟩
  · rintro ⟨call, hlast, rfl⟩
    obtain ⟨before, after, hcalls, hafter, hkey⟩ := lastAnswer_eq_some_iff.mp hlast
    obtain ⟨hservice, hreq⟩ := Prod.mk.inj hkey
    exact ⟨mem_collected.mpr ⟨before, call, after, hcalls, hafter, rfl⟩, hservice, hreq⟩

/-- The words of the gateway that the lane reads are those of its answers on the bus. -/
theorem filter_isDiagEvent {out : List Emission} {trace : List UserTrace}
    (hwhole : out.filter isAnswer = (answersIn out).flatMap DiagCall.emissions)
    (htrace : Records diagWords nodeGateway out trace) :
    trace.filter isDiagEvent = (answersIn out).flatMap DiagCall.events := by
  have hread (events : List UserTrace) :
      (events.filter fun e => e.machine == nodeGateway && diagWords.contains e.label) =
        events.filter isDiagEvent := by
    apply List.filter_congr
    intro e _
    rw [isDiagEvent, diagWords, List.contains_cons, List.contains_cons, List.contains_nil,
      Bool.or_false]
  have hlog : (tracedBy nodeGateway out).filter (fun e => diagWords.contains e.label) =
      (userTraces out).filter isDiagEvent := by
    have hsame : tracedBy nodeGateway out = userTraces out := by
      apply List.filterMap_congr
      intro emission _
      cases emission <;> rfl
    rw [← records_tracedBy diagWords nodeGateway out, hread, hsame]
  rw [← hread, htrace, hlog, ← userTraces_filter, hwhole, userTraces_emissions]

/-- The torques that the lane reads are those of the powertrain's words. -/
theorem collectServiceMotorCommands_eq {out : List Emission} {trace : List UserTrace}
    (htrace : Records ["diag_motor_command"] nodePowertrain out trace) :
    collectServiceMotorCommands trace =
      (wordsUnder "diag_motor_command" out).map
        fun word => (word >>> (8 : UInt32)).toUInt8.toInt8 := by
  rw [← htrace.values List.mem_cons_self, List.map_map]
  rfl

/-! ### The verdict -/

/-- A directive, read from the answers on the bus and the number of the motor commands that the
powertrain stated in SERVICE. -/
def Expectation.MetBy (answer : DiagKey → Option DiagCall) (commands : Nat) :
    Expectation → Prop
  | serviceMode =>
    (∃ call, answer (mcDiagStartSession, 1) = some call ∧ call.reply.status = mcDiagOk ∧
      call.reply.value0 = McVehicleMode.service.toByte) ∧
    ∃ call, answer (mcDiagReadMode, 2) = some call ∧ call.reply.status = mcDiagOk ∧
      call.reply.value0 = McVehicleMode.service.toByte
  | dtc req count code =>
    ∃ call, answer (mcDiagReadDtcs, req) = some call ∧ call.reply.status = mcDiagOk ∧
      call.reply.value0 = count ∧ ∀ c, code = some c → call.reply.value1 = c
  | actuator status =>
    ∃ call, answer (mcDiagActuatorTest, 6) = some call ∧ call.reply.status = status
  | motorTorque max _ => 0 < commands ∧ 0 ≤ max

/-- A check passes when its directive is met. -/
theorem evaluate_passed_iff {responses : List DiagResponse} {commands : Nat}
    {answer : DiagKey → Option DiagCall}
    (h : ∀ service req, response responses service req =
      (answer (service, req)).map DiagCall.response) (exp : Expectation) :
    (evaluate responses (List.replicate commands 0) exp).passed = true ↔
      exp.MetBy answer commands := by
  have hservice : McVehicleMode.service.toByte = vehicleService := rfl
  cases exp with
  | serviceMode =>
    simp only [evaluate, h, Expectation.MetBy, hservice]
    cases answer (mcDiagStartSession, 1) <;> cases answer (mcDiagReadMode, 2) <;>
      simp [DiagCall.response]
  | dtc req count code =>
    simp only [evaluate, h, Expectation.MetBy]
    cases answer (mcDiagReadDtcs, req) with
    | none => simp
    | some call => cases code <;> simp [DiagCall.response, and_assoc]
  | actuator status =>
    simp only [evaluate, h, Expectation.MetBy]
    cases answer (mcDiagActuatorTest, 6) <;> simp [DiagCall.response]
  | motorTorque max afterMs =>
    cases commands <;> simp [evaluate, Expectation.MetBy]

/-- The lane passes a scenario exactly if the gateway's last answers on the bus and the powertrain's
commands in SERVICE, none of which states torque, are what the scenario's file asks for. -/
theorem diagnosticsLane_passes_iff (cfg : GatewayConfig) (ops : List GatewayOp)
    (forceService forceCharging : Bool) (commands : List PowertrainOp) {trace : List UserTrace}
    (hgateway : Records diagWords nodeGateway (run gatewayStep (gatewayBoot cfg) ops).out trace)
    (hpowertrain : Records ["diag_motor_command"] nodePowertrain
      (run powertrainStep (powertrainBoot forceService forceCharging false) commands).out trace)
    (name : String) (directives : List Expectation) :
    (runDiagnosticsScenario name directives trace).passed = true ↔
      ∀ exp ∈ orServiceMode directives,
        exp.MetBy (lastAnswer (answersIn (run gatewayStep (gatewayBoot cfg) ops).out))
          (wordsUnder "diag_motor_command" (run powertrainStep
            (powertrainBoot forceService forceCharging false) commands).out).length := by
  have hwhole := (answers_gatewayRun cfg ops).1
  have hresponses := response_collected (filter_isDiagEvent hwhole hgateway)
  have hclamped : collectServiceMotorCommands trace = List.replicate
      (wordsUnder "diag_motor_command" (run powertrainStep
        (powertrainBoot forceService forceCharging false) commands).out).length 0 := by
    rw [collectServiceMotorCommands_eq hpowertrain, List.eq_replicate_iff]
    refine ⟨List.length_map _, fun torque htorque => ?_⟩
    obtain ⟨word, hword, rfl⟩ := List.mem_map.mp htorque
    rw [wordsUnder_clampedRun ⟨.service, rfl⟩ commands word hword]
    rfl
  have hsome : (orServiceMode directives).isEmpty = false := by
    cases directives <;> rfl
  rw [runDiagnosticsScenario, hclamped]
  simp only [List.isEmpty_map, hsome, Bool.not_false, Bool.true_and, List.all_eq_true,
    List.forall_mem_map, evaluate_passed_iff hresponses]

/-- Four requests of a service tool. -/
def toolRequests : List GatewayOp :=
  [(mcDiagStartSession, 1), (mcDiagReadMode, 2), (mcDiagActuatorTest, 6), (mcDiagReadDtcs, 3)].map
    fun key => .frame (.ofPayload mcMsgDiagRequest mcNodeDiagnostics [key.1, key.2, 0]) true

/-- The directives of `service_mode_disables_drive.toml`. -/
def serviceModeDisablesDrive : List Expectation :=
  [.serviceMode, .actuator mcDiagOk, .dtc 3 0 none, .motorTorque 0 300]

/-- Four requests and one command iteration are enough for the scenario. -/
theorem diagnosticsLane_passes_serviceMode :
    (runDiagnosticsScenario "service_mode_disables_drive" serviceModeDisablesDrive
      (tracedBy nodeGateway (run gatewayStep (gatewayBoot .off) toolRequests).out ++
        tracedBy nodePowertrain
          (run powertrainStep (powertrainBoot true false false) [.command 10 {}]).out)).passed =
      true := by
  refine (diagnosticsLane_passes_iff .off toolRequests true false [.command 10 {}] ?_ ?_ _
    _).mpr ?_
  · rfl
  · rfl
  · intro exp hexp
    rw [orServiceMode, serviceModeDisablesDrive] at hexp
    simp only [List.isEmpty_cons, Bool.false_eq_true, if_false, List.mem_cons, List.not_mem_nil,
      or_false] at hexp
    rcases hexp with rfl | rfl | rfl | rfl
    · exact ⟨⟨_, rfl, rfl, rfl⟩, _, rfl, rfl, rfl⟩
    · exact ⟨_, rfl, rfl⟩
    · exact ⟨_, rfl, rfl, rfl, by simp⟩
    · exact ⟨by decide, by decide⟩

end Microcar.Dogfood.Diagnostics
