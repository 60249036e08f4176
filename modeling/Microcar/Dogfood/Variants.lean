import Microcar.Gateway.Scripts
import Microcar.Powertrain.Firmware
import Microcar.Validation.Ecu

/-!
# Firmware variants of the gateway and the powertrain

The dogfood variants are the firmware with a few flags set before its task is created. A scenario
names a variant by its firmware path, boot dispatch selects the boot function, and the boot
function sets the flags.
-/

namespace Microcar.Dogfood

open Microcar.Gateway Microcar.Validation

/-- Fault of the update script that is none, `OTA_FAULT_NONE`. -/
def otaFaultNone : UInt8 := 0

/-! ### The enable functions -/

/-- The diagnostics script, with or without the made-up fault. -/
def gatewayEnableDogfoodDiagScript (injectFault : Bool) (cfg : GatewayConfig) : GatewayConfig :=
  { cfg with diagDogfoodScript := true, diagDogfoodInjectFault := injectFault }

/-- The diagnostics script with both made-up faults. -/
def gatewayEnableDogfoodDiagClearDtcs (buggy : Bool) (cfg : GatewayConfig) : GatewayConfig :=
  { cfg with diagDogfoodScript := true, diagDogfoodInjectFault := true, diagExtraPtFault := true
             diagClearAllBug := buggy }

/-- The script that asks for a session in DRIVE. -/
def gatewayEnableDogfoodDiagStartdrive (buggy : Bool) (cfg : GatewayConfig) : GatewayConfig :=
  { cfg with diagStartdriveScript := true, diagStartsessionDriveBug := buggy }

/-- The charging script. -/
def gatewayEnableDogfoodChargingScript (cfg : GatewayConfig) : GatewayConfig :=
  { cfg with chargingDogfoodScript := true }

/-- What the enable functions of the update script share. -/
def enableOta (fault : UInt8) (cfg : GatewayConfig) : GatewayConfig :=
  { cfg with otaDogfoodScript := true, otaFaultMode := fault }

/-- The update script without a fault. -/
def gatewayEnableDogfoodOtaScript : GatewayConfig → GatewayConfig := enableOta otaFaultNone

/-- The update script with a corrupt image. -/
def gatewayEnableDogfoodOtaFaultBadCrc : GatewayConfig → GatewayConfig := enableOta otaFaultBadCrc

/-- The update script with an incomplete image. -/
def gatewayEnableDogfoodOtaFaultInterruptedWrite : GatewayConfig → GatewayConfig :=
  enableOta otaFaultInterruptedWrite

/-- The update script with an image that boots unhealthy. -/
def gatewayEnableDogfoodOtaFaultBadHealth : GatewayConfig → GatewayConfig :=
  enableOta otaFaultBadHealth

/-- The update script with a power cut in front of the commit. -/
def gatewayEnableDogfoodOtaFaultPowercutPrecommit : GatewayConfig → GatewayConfig :=
  enableOta otaFaultPowercutPrecommit

/-- The update script with a corrupt image that passes its check. -/
def gatewayEnableDogfoodOtaBugBadCrc (cfg : GatewayConfig) : GatewayConfig :=
  { enableOta otaFaultBadCrc cfg with otaCrcCheckBug := true }

/-- The flags under which a boot function creates the gateway task. The context starts out
zeroed. -/
def gatewayConfig : BootFunction → Option GatewayConfig
  | .microcarBoot | .gateway => some .off
  | .gatewayDiag => some (gatewayEnableDogfoodDiagScript false .off)
  | .gatewayDiagFault => some (gatewayEnableDogfoodDiagScript true .off)
  | .gatewayDiagClear => some (gatewayEnableDogfoodDiagClearDtcs false .off)
  | .gatewayDiagClearbug => some (gatewayEnableDogfoodDiagClearDtcs true .off)
  | .gatewayDiagStartdrive => some (gatewayEnableDogfoodDiagStartdrive false .off)
  | .gatewayDiagStartdrivebug => some (gatewayEnableDogfoodDiagStartdrive true .off)
  | .gatewayCharging => some (gatewayEnableDogfoodChargingScript .off)
  | .gatewayOta => some (gatewayEnableDogfoodOtaScript .off)
  | .gatewayOtaBadcrc => some (gatewayEnableDogfoodOtaFaultBadCrc .off)
  | .gatewayOtaIntwrite => some (gatewayEnableDogfoodOtaFaultInterruptedWrite .off)
  | .gatewayOtaBadhealth => some (gatewayEnableDogfoodOtaFaultBadHealth .off)
  | .gatewayOtaPowercut => some (gatewayEnableDogfoodOtaFaultPowercutPrecommit .off)
  | .gatewayOtaCrcbug => some (gatewayEnableDogfoodOtaBugBadCrc .off)
  | _ => none

/-- The flags of a machine that boots from this firmware path. -/
def bootedConfig (name path : String) : Option GatewayConfig :=
  gatewayConfig (MicrocarFirmware.withFirmwarePath name path).init.1

/-- A boot function sets gateway flags exactly if it creates the task of a gateway. -/
theorem gatewayConfig_isSome_iff (boot : BootFunction) :
    (gatewayConfig boot).isSome = true ↔ EcuCategory.gateway ∈ boot.ecus := by
  cases boot <;> simp [gatewayConfig, BootFunction.ecus]

/-- The powertrain that a boot function starts, with the flags of its enable function. -/
def powertrainOf : BootFunction → Option Powertrain.PowertrainCtx
  | .microcarBoot | .powertrain => some (Powertrain.powertrainBoot false false false)
  | .powertrainDiagService => some (Powertrain.powertrainBoot true false false)
  | .powertrainDiagServiceBug => some (Powertrain.powertrainBoot true false true)
  | .powertrainCharging => some (Powertrain.powertrainBoot false true false)
  | _ => none

/-- The powertrain of a machine that boots from this firmware path. -/
def bootedPowertrain (name path : String) : Option Powertrain.PowertrainCtx :=
  powertrainOf (MicrocarFirmware.withFirmwarePath name path).init.1

/-- A boot function sets powertrain flags exactly if it creates the task of a powertrain. -/
theorem powertrainOf_isSome_iff (boot : BootFunction) :
    (powertrainOf boot).isSome = true ↔ EcuCategory.powertrain ∈ boot.ecus := by
  cases boot <;> simp [powertrainOf, BootFunction.ecus]

end Microcar.Dogfood
