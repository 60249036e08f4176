import Microcar.Charging.Runs
import Microcar.Validation.ActorFrames

/-!
# EVSE events and the charging state machine

The validator and the charging state machine keep a notion of being plugged in each. The state
machine is disconnected again by an unplug; the validator only remembers that there was a plug.
A handshake of an accepted scenario meets a plugged-in state machine as long as no handshake
follows an unplug without a plug in between.
-/

namespace Microcar.Validation

open Microcar.Core
open Microcar.Charging

/-- The charging station events among the messages. -/
def evseEvents (frames : List ActorFrame) : List McEvseEvent :=
  frames.filterMap fun
    | .evse event => some event
    | _ => none

/-- The last plug or unplug event. -/
def lastPlugEvent (events : List McEvseEvent) : Option McEvseEvent :=
  events.reverse.find? fun event => event = .plug ∨ event = .unplug

/-- Every handshake comes while the plug is in. -/
def PluggedHandshakes (events : List McEvseEvent) : Prop :=
  ∀ before after, events = before ++ .handshakeOk :: after → lastPlugEvent before = some .plug

/-- The charging state machine, fed with the events and neither a limit of the BMS nor a fault, is
not disconnected when a handshake comes. The other inputs of a transition are arbitrary. -/
def HandshakesConnected (events : List McEvseEvent) : Prop :=
  ∀ inputs : List McChargingEvent, inputs.map McChargingEvent.kind = events →
    (∀ input ∈ inputs, input.freshBmsLimit = 0 ∧ input.criticalFault = 0) →
    ∀ before input after, inputs = before ++ input :: after → input.kind = .handshakeOk →
      chargingRun before ≠ .disconnected

/-- No handshake follows an unplug without a plug in between. -/
def NoStaleHandshake (events : List McEvseEvent) : Prop :=
  ∀ before mid after, events = before ++ .unplug :: (mid ++ .handshakeOk :: after) → .plug ∈ mid

/-! ## What the validator remembers -/

/-- The validator's flag and the events it comes from. -/
def PlugTrail (frames : List ActorFrame) (st : FrameState) : Prop :=
  st.plugged = true → .plug ∈ evseEvents frames

theorem evseEvents_snoc (frames : List ActorFrame) (f : ActorFrame) :
    evseEvents (frames ++ [f]) = evseEvents frames ++ evseEvents [f] :=
  List.filterMap_append

/-- An accepted handshake has a plug somewhere before it. -/
theorem PlugTrail.step {frames : List ActorFrame} {st st' : FrameState} {f : ActorFrame}
    (h : PlugTrail frames st) (hstep : st.accept f = some st') :
    (f = .evse .handshakeOk → .plug ∈ evseEvents frames) ∧ PlugTrail (frames ++ [f]) st' := by
  have hkeep : st'.plugged = st.plugged → PlugTrail (frames ++ [f]) st' := by
    intro hplugged hin
    rw [evseEvents_snoc]
    exact List.mem_append_left _ (h (hplugged ▸ hin))
  cases f with
  | evse event =>
    cases event with
    | raw b hb => exact nomatch hstep
    | handshakeOk =>
      obtain ⟨hin, rfl⟩ := accept_handshakeOk.mp hstep
      exact ⟨fun _ => h hin, hkeep rfl⟩
    | plug =>
      refine ⟨nofun, fun _ => ?_⟩
      rw [evseEvents_snoc]
      exact List.mem_append_right _ List.mem_cons_self
    | unplug | stop =>
      obtain rfl := Option.some.inj hstep
      exact ⟨nofun, hkeep rfl⟩
  | otaRequest requestId total =>
    obtain rfl := Option.some.inj hstep
    exact ⟨nofun, hkeep rfl⟩
  | otaChunk requestId chunkIndex =>
    obtain ⟨total, -, -, rfl⟩ := accept_otaChunk.mp hstep
    exact ⟨nofun, hkeep rfl⟩
  | otaFinish requestId total =>
    obtain ⟨-, rfl⟩ := accept_otaFinish.mp hstep
    exact ⟨nofun, hkeep rfl⟩

/-- In an accepted scenario every handshake has a plug somewhere before it. -/
theorem plug_before_handshake {scenario : Scenario}
    (h : validateExternalActorFrames scenario = .ok ⟨⟩) {before after : List McEvseEvent}
    (hsplit : evseEvents (actorFrames scenario) = before ++ .handshakeOk :: after) :
    .plug ∈ before := by
  obtain ⟨st, hrun⟩ := actorFrames_run h
  have hinit : PlugTrail [] FrameState.init := nofun
  have hcuts := (runPartial_cuts hinit (fun _ _ _ _ => PlugTrail.step) hrun).1
  obtain ⟨first, f, last, hframes, rfl, hf⟩ := exists_cut_of_filterMap hsplit
  refine hcuts first f last hframes ?_
  cases f with
  | evse event => rw [Option.some.inj hf]
  | otaRequest | otaChunk | otaFinish => exact nomatch hf

/-! ## The last plug event -/

theorem lastPlugEvent_snoc (events : List McEvseEvent) (event : McEvseEvent) :
    lastPlugEvent (events ++ [event]) =
      if event = .plug ∨ event = .unplug then some event else lastPlugEvent events := by
  rw [lastPlugEvent, List.reverse_append, List.reverse_singleton, List.singleton_append,
    List.find?_cons]
  by_cases hevent : event = .plug ∨ event = .unplug
  · simp [hevent]
  · simp [hevent, lastPlugEvent]

/-- The last plug event stands in the history, with no further plug event behind it. -/
theorem exists_cut_of_lastPlugEvent {events : List McEvseEvent} {event : McEvseEvent}
    (h : lastPlugEvent events = some event) :
    (event = .plug ∨ event = .unplug) ∧
      ∃ before mid, events = before ++ event :: mid ∧ .plug ∉ mid := by
  obtain ⟨hevent, mid, before, hsplit, hmid⟩ := List.find?_eq_some_iff_append.mp h
  refine ⟨by simpa using hevent, before.reverse, mid.reverse, ?_, ?_⟩
  · rw [← List.reverse_reverse events, hsplit]
    simp
  · intro hplug
    simpa using hmid .plug (List.mem_reverse.mp hplug)

/-- A history with a plug event has a last one. -/
theorem exists_lastPlugEvent {events : List McEvseEvent} (h : .plug ∈ events) :
    ∃ event, lastPlugEvent events = some event := by
  apply Option.isSome_iff_exists.mp
  rw [lastPlugEvent, List.find?_isSome]
  exact ⟨.plug, List.mem_reverse.mpr h, by decide⟩

/-- An unplug without a plug behind it leaves the plug out. -/
theorem lastPlugEvent_of_unplug {before mid : List McEvseEvent} (h : .plug ∉ mid) :
    lastPlugEvent (before ++ .unplug :: mid) = some .unplug := by
  induction mid using List.reverseRecOn with
  | nil => rw [lastPlugEvent_snoc, if_pos (.inr rfl)]
  | append_singleton mid event ih =>
    have hmid : .plug ∉ mid := fun hplug => h (List.mem_append_left _ hplug)
    have hevent : event ≠ .plug := fun heq => h (by simp [heq])
    have hsplit : before ++ .unplug :: (mid ++ [event]) =
        (before ++ .unplug :: mid) ++ [event] := by
      simp
    rw [hsplit, lastPlugEvent_snoc, ih hmid]
    split_ifs with hplug
    · rw [hplug.resolve_left hevent]
    · rfl

/-! ## The state machine -/

/-- Without a limit and a fault the state machine is connected exactly while the plug is in, and
does not come further than the handshake. -/
def PlugState (events : List McEvseEvent) (cs : McChargeState) : Prop :=
  (cs = .disconnected ∧ lastPlugEvent events ≠ some .plug) ∨
    ((cs = .plugDetected ∨ cs = .handshake) ∧ lastPlugEvent events = some .plug)

theorem PlugState.step {events : List McEvseEvent} {cs : McChargeState} (h : PlugState events cs)
    {input : McChargingEvent} (hlimit : input.freshBmsLimit = 0)
    (hfault : input.criticalFault = 0) :
    PlugState (events ++ [input.kind]) (chargingNext cs input) := by
  rw [PlugState, lastPlugEvent_snoc]
  rcases h with ⟨rfl, hout⟩ | ⟨rfl | rfl, hin⟩
  · cases hkind : input.kind <;>
      simp [chargingNext, mcChargingStep, catchAll, accept, hkind, hout]
  · cases hkind : input.kind <;>
      simp [chargingNext, mcChargingStep, catchAll, accept, hkind, hfault, hin]
  · cases hkind : input.kind <;>
      simp [chargingNext, mcChargingStep, catchAll, accept, hkind, hlimit, hfault, hin]

/-- The state machine along a run without a limit and a fault. -/
theorem plugState_chargingRun {inputs : List McChargingEvent}
    (hquiet : ∀ input ∈ inputs, input.freshBmsLimit = 0 ∧ input.criticalFault = 0) :
    PlugState (inputs.map McChargingEvent.kind) (chargingRun inputs) := by
  induction inputs using List.reverseRecOn with
  | nil => exact .inl ⟨rfl, by decide⟩
  | append_singleton inputs input ih =>
    obtain ⟨hlimit, hfault⟩ := hquiet input (by simp)
    rw [List.map_append, chargingRun, run_snoc]
    exact (ih fun x hx => hquiet x (List.mem_append_left _ hx)).step hlimit hfault

/-- The events of an accepted scenario keep every handshake plugged in, for the protocol and for
the state machine, exactly when no handshake follows an unplug without a plug in between. -/
theorem handshakes_plugged_iff {scenario : Scenario}
    (h : validateExternalActorFrames scenario = .ok ⟨⟩) :
    (PluggedHandshakes (evseEvents (actorFrames scenario)) ∧
        HandshakesConnected (evseEvents (actorFrames scenario))) ↔
      NoStaleHandshake (evseEvents (actorFrames scenario)) := by
  constructor
  · rintro ⟨hplugged, -⟩ before mid after hsplit
    by_contra hmid
    have hlast := hplugged (before ++ .unplug :: mid) after (by simp [hsplit])
    rw [lastPlugEvent_of_unplug hmid] at hlast
    exact nomatch hlast
  · intro hstale
    have hplugged : PluggedHandshakes (evseEvents (actorFrames scenario)) := by
      intro before after hsplit
      obtain ⟨event, hlast⟩ := exists_lastPlugEvent (plug_before_handshake h hsplit)
      obtain ⟨rfl | rfl, first, mid, rfl, hmid⟩ := exists_cut_of_lastPlugEvent hlast
      · exact hlast
      · exact absurd (hstale first mid after (by simp [hsplit])) hmid
    refine ⟨hplugged, ?_⟩
    rintro inputs hkinds hquiet before input after rfl hkind
    have hlast := hplugged (before.map McChargingEvent.kind) (after.map McChargingEvent.kind)
      (by rw [← hkinds, ← hkind]; simp)
    have hstate := plugState_chargingRun fun x hx => hquiet x (List.mem_append_left _ hx)
    rcases hstate with ⟨-, hout⟩ | ⟨hcs | hcs, -⟩
    · exact absurd hlast hout
    · rw [hcs]
      exact nofun
    · rw [hcs]
      exact nofun

/-- A vehicle of one gateway and a charging station that sends the given event bytes, one every
ten milliseconds. -/
def evseScenario (events : List UInt8) : Scenario where
  machine := [⟨"gateway", some "firmware/gateway_ecu"⟩, ⟨"evse", none⟩]
  bus := [⟨[⟨"vcan0", "gateway"⟩, ⟨"vcan0", "evse"⟩]⟩]
  input := []
  busInject := events.mapIdx fun i event =>
    ⟨10 * i, "vcan0", "evse", msgEvseEvent, [6, event, 1, 0, 0, 0]⟩

/-- A station that is plugged in, unplugged and plugged in again, with a handshake each time. -/
theorem noStaleHandshake_replugged :
    NoStaleHandshake [.plug, .handshakeOk, .unplug, .plug, .handshakeOk] := by
  rintro before mid after hsplit
  rcases before with _ | ⟨first, _ | ⟨second, _ | ⟨third, before⟩⟩⟩
  · simp at hsplit
  · simp at hsplit
  · -- the plug follows the unplug at once
    simp only [List.cons_append, List.nil_append, List.cons.injEq] at hsplit
    obtain ⟨-, -, -, hrest⟩ := hsplit
    cases mid with
    | nil => simp at hrest
    | cons event mid =>
      rw [← (List.cons.inj hrest).1]
      exact List.mem_cons_self
  · simp only [List.cons_append, List.cons.injEq] at hsplit
    obtain ⟨-, -, -, hrest⟩ := hsplit
    have hmem : McEvseEvent.unplug ∈ before ++ .unplug :: (mid ++ .handshakeOk :: after) := by simp
    rw [← hrest] at hmem
    simp at hmem

theorem handshakes_plugged_replugged :
    validateExternalActorFrames (evseScenario [1, 2, 0, 1, 2]) = .ok ⟨⟩ ∧
      PluggedHandshakes (evseEvents (actorFrames (evseScenario [1, 2, 0, 1, 2]))) ∧
      HandshakesConnected (evseEvents (actorFrames (evseScenario [1, 2, 0, 1, 2]))) := by
  have hevents : evseEvents (actorFrames (evseScenario [1, 2, 0, 1, 2])) =
      [.plug, .handshakeOk, .unplug, .plug, .handshakeOk] := by decide
  refine ⟨by decide, (handshakes_plugged_iff (by decide)).mpr ?_⟩
  rw [hevents]
  exact noStaleHandshake_replugged

/-- A handshake behind an unplug is accepted, and finds the state machine disconnected. -/
theorem unplugged_handshake_accepted :
    validateExternalActorFrames (evseScenario [1, 0, 2]) = .ok ⟨⟩ ∧
      ¬ PluggedHandshakes (evseEvents (actorFrames (evseScenario [1, 0, 2]))) ∧
      ¬ HandshakesConnected (evseEvents (actorFrames (evseScenario [1, 0, 2]))) := by
  have hevents : evseEvents (actorFrames (evseScenario [1, 0, 2])) =
      [.plug, .unplug, .handshakeOk] := by decide
  rw [hevents]
  refine ⟨by decide, fun h => ?_, fun h => ?_⟩
  · exact absurd (h [.plug, .unplug] [] rfl) (by decide)
  · exact h [chargingEvent .plug 0 0, chargingEvent .unplug 0 0, chargingEvent .handshakeOk 0 0]
      rfl (by decide) [chargingEvent .plug 0 0, chargingEvent .unplug 0 0]
      (chargingEvent .handshakeOk 0 0) [] rfl rfl rfl

end Microcar.Validation
