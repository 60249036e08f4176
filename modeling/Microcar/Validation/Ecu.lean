import Microcar.Core.Pattern

/-!
# ECU resolution and boot dispatch

`lib.rs` classifies a machine twice. Validation reads the firmware path as one of the broad ECU
categories, and the boot code reads the same path as a firmware variant, which selects one of the
boot functions. Both walk an ordered table of patterns, most specific first.
-/

namespace Microcar.Validation

open Microcar.Core

/-- The canonical ECU categories. -/
inductive EcuCategory where
  | priorityInversion
  | lifecycleStress
  | netDemo
  | storageDemo
  | btDemo
  | otaTool
  | telematics
  | gateway
  | powertrain
  | diagnostics
  | bms
  | dashboard
  deriving DecidableEq, Repr

/-- A category as the source spells it. -/
def EcuCategory.name : EcuCategory → String
  | .priorityInversion => "priority_inversion"
  | .lifecycleStress => "lifecycle_stress"
  | .netDemo => "net_demo"
  | .storageDemo => "storage_demo"
  | .btDemo => "bt_demo"
  | .otaTool => "ota_tool"
  | .telematics => "telematics"
  | .gateway => "gateway"
  | .powertrain => "powertrain"
  | .diagnostics => "diagnostics"
  | .bms => "bms"
  | .dashboard => "dashboard"

/-- `ECU_CATEGORY_PATTERNS`: part of a firmware path, and the category it stands for. -/
def ecuCategoryPatterns : List (String × EcuCategory) :=
  [ -- demo and test ECUs
    ("priority_inversion", .priorityInversion),
    ("lifecycle_stress", .lifecycleStress),
    ("net_demo", .netDemo),
    ("storage_demo", .storageDemo),
    ("bt_demo", .btDemo),
    ("ota_tool", .otaTool),
    ("telematics", .telematics),
    -- diagnosis variants
    ("gateway_diag_clearbug", .gateway),
    ("gateway_diag_clear", .gateway),
    ("gateway_diag_startdrivebug", .gateway),
    ("gateway_diag_startdrive", .gateway),
    ("gateway_diag_fault", .gateway),
    ("gateway_diag", .gateway),
    ("powertrain_diag_service_bug", .powertrain),
    ("powertrain_diag_service", .powertrain),
    -- OTA variants
    ("gateway_ota_badcrc", .gateway),
    ("gateway_ota_intwrite", .gateway),
    ("gateway_ota_badhealth", .gateway),
    ("gateway_ota_powercut", .gateway),
    ("gateway_ota_crcbug", .gateway),
    ("gateway_ota", .gateway),
    -- charging variants
    ("gateway_charging", .gateway),
    ("powertrain_charging", .powertrain),
    -- base ECUs
    ("diagnostics", .diagnostics),
    ("gateway", .gateway),
    ("powertrain", .powertrain),
    ("bms", .bms),
    ("dashboard", .dashboard)]

/-- `resolve_ecu_category`: the path decides, then the name. A machine without firmware is an
external actor and has no category, whatever its name. -/
def resolveEcuCategory (firmware : Option String) (name : String) : Option EcuCategory :=
  match firmware with
  | some path =>
    match firstMatch (contains path) ecuCategoryPatterns with
    | some category => some category
    | none => firstMatch (startsWith name) ecuCategoryPatterns
  | none => none

/-- The list `VARIANTS` of firmware variants with a boot function of their own. -/
def variants : List String :=
  ["priority_inversion",
    "lifecycle_stress",
    "net_demo",
    "storage_demo",
    "bt_demo",
    "ota_tool",
    "telematics",
    "gateway_diag_clearbug",
    "gateway_diag_clear",
    "gateway_diag_startdrivebug",
    "gateway_diag_startdrive",
    "gateway_diag_fault",
    "gateway_diag",
    "powertrain_diag_service_bug",
    "powertrain_diag_service",
    "gateway_ota_badcrc",
    "gateway_ota_intwrite",
    "gateway_ota_badhealth",
    "gateway_ota_powercut",
    "gateway_ota_crcbug",
    "gateway_ota",
    "gateway_charging",
    "powertrain_charging",
    "diagnostics",
    "gateway",
    "powertrain",
    "bms",
    "dashboard"]

/-- The firmware of one machine. -/
structure MicrocarFirmware where
  name : String
  firmwarePath : Option String
  booted : Bool
  deriving DecidableEq, Repr

/-- `MicrocarFirmware::with_firmware_path`. -/
def MicrocarFirmware.withFirmwarePath (name firmwarePath : String) : MicrocarFirmware :=
  ⟨name, some firmwarePath, false⟩

/-- What boot dispatch falls back to when the path names no variant. -/
def MicrocarFirmware.categoryOrName (fw : MicrocarFirmware) : String :=
  match resolveEcuCategory fw.firmwarePath fw.name with
  | some category => category.name
  | none => fw.name

/-- `ecu_type`: the variant the path names, else the category, else the machine name. -/
def MicrocarFirmware.ecuType (fw : MicrocarFirmware) : String :=
  match fw.firmwarePath with
  | some path =>
    match variants.find? (contains path) with
    | some variant => variant
    | none => fw.categoryOrName
  | none => fw.categoryOrName

/-- The boot functions of the C firmware. -/
inductive BootFunction where
  | microcarBoot
  | priorityInversion
  | lifecycleStress
  | netDemo
  | storageDemo
  | btDemo
  | gatewayDiagClearbug
  | gatewayDiagClear
  | gatewayDiagStartdrivebug
  | gatewayDiagStartdrive
  | gatewayDiagFault
  | gatewayDiag
  | powertrainDiagServiceBug
  | powertrainDiagService
  | gatewayOtaBadcrc
  | gatewayOtaIntwrite
  | gatewayOtaBadhealth
  | gatewayOtaPowercut
  | gatewayOtaCrcbug
  | gatewayOta
  | gatewayCharging
  | powertrainCharging
  | diagnosticsTool
  | otaTool
  | telematics
  | gateway
  | powertrain
  | bms
  | dashboard
  deriving DecidableEq, Repr

namespace BootFunction

/-- The symbol the function is linked under. -/
def symbol : BootFunction → String
  | microcarBoot => "microcar_boot"
  | priorityInversion => "microcar_boot_priority_inversion"
  | lifecycleStress => "microcar_boot_lifecycle_stress"
  | netDemo => "microcar_boot_net_demo"
  | storageDemo => "microcar_boot_storage_demo"
  | btDemo => "microcar_boot_bt_demo"
  | gatewayDiagClearbug => "microcar_boot_gateway_diag_clearbug"
  | gatewayDiagClear => "microcar_boot_gateway_diag_clear"
  | gatewayDiagStartdrivebug => "microcar_boot_gateway_diag_startdrivebug"
  | gatewayDiagStartdrive => "microcar_boot_gateway_diag_startdrive"
  | gatewayDiagFault => "microcar_boot_gateway_diag_fault"
  | gatewayDiag => "microcar_boot_gateway_diag"
  | powertrainDiagServiceBug => "microcar_boot_powertrain_diag_service_bug"
  | powertrainDiagService => "microcar_boot_powertrain_diag_service"
  | gatewayOtaBadcrc => "microcar_boot_gateway_ota_badcrc"
  | gatewayOtaIntwrite => "microcar_boot_gateway_ota_intwrite"
  | gatewayOtaBadhealth => "microcar_boot_gateway_ota_badhealth"
  | gatewayOtaPowercut => "microcar_boot_gateway_ota_powercut"
  | gatewayOtaCrcbug => "microcar_boot_gateway_ota_crcbug"
  | gatewayOta => "microcar_boot_gateway_ota"
  | gatewayCharging => "microcar_boot_gateway_charging"
  | powertrainCharging => "microcar_boot_powertrain_charging"
  | diagnosticsTool => "microcar_boot_diagnostics_tool"
  | otaTool => "microcar_boot_ota_tool"
  | telematics => "microcar_boot_telematics"
  | gateway => "microcar_boot_gateway"
  | powertrain => "microcar_boot_powertrain"
  | bms => "microcar_boot_bms"
  | dashboard => "microcar_boot_dashboard"

/-- The ECUs whose tasks the function creates. The generic function starts the whole vehicle on
one machine. -/
def ecus : BootFunction → List EcuCategory
  | microcarBoot => [.gateway, .powertrain, .bms, .dashboard]
  | priorityInversion => [.priorityInversion]
  | lifecycleStress => [.lifecycleStress]
  | netDemo => [.netDemo]
  | storageDemo => [.storageDemo]
  | btDemo => [.btDemo]
  | gatewayDiagClearbug | gatewayDiagClear | gatewayDiagStartdrivebug | gatewayDiagStartdrive
  | gatewayDiagFault | gatewayDiag => [.gateway]
  | powertrainDiagServiceBug | powertrainDiagService => [.powertrain]
  | gatewayOtaBadcrc | gatewayOtaIntwrite | gatewayOtaBadhealth | gatewayOtaPowercut
  | gatewayOtaCrcbug | gatewayOta => [.gateway]
  | gatewayCharging => [.gateway]
  | powertrainCharging => [.powertrain]
  | diagnosticsTool => [.diagnostics]
  | otaTool => [.otaTool]
  | telematics => [.telematics]
  | gateway => [.gateway]
  | powertrain => [.powertrain]
  | bms => [.bms]
  | dashboard => [.dashboard]

end BootFunction

/-- The chain of tests in `init`, in the order of the source. The tools stand behind the charging
variants here, and before the diagnosis variants in the other two tables. -/
def bootChain : List (String × BootFunction) :=
  [("priority_inversion", .priorityInversion),
    ("lifecycle_stress", .lifecycleStress),
    ("net_demo", .netDemo),
    ("storage_demo", .storageDemo),
    ("bt_demo", .btDemo),
    ("gateway_diag_clearbug", .gatewayDiagClearbug),
    ("gateway_diag_clear", .gatewayDiagClear),
    ("gateway_diag_startdrivebug", .gatewayDiagStartdrivebug),
    ("gateway_diag_startdrive", .gatewayDiagStartdrive),
    ("gateway_diag_fault", .gatewayDiagFault),
    ("gateway_diag", .gatewayDiag),
    ("powertrain_diag_service_bug", .powertrainDiagServiceBug),
    ("powertrain_diag_service", .powertrainDiagService),
    ("gateway_ota_badcrc", .gatewayOtaBadcrc),
    ("gateway_ota_intwrite", .gatewayOtaIntwrite),
    ("gateway_ota_badhealth", .gatewayOtaBadhealth),
    ("gateway_ota_powercut", .gatewayOtaPowercut),
    ("gateway_ota_crcbug", .gatewayOtaCrcbug),
    ("gateway_ota", .gatewayOta),
    ("gateway_charging", .gatewayCharging),
    ("powertrain_charging", .powertrainCharging),
    ("diagnostics", .diagnosticsTool),
    ("ota_tool", .otaTool),
    ("telematics", .telematics),
    ("gateway", .gateway),
    ("powertrain", .powertrain),
    ("bms", .bms),
    ("dashboard", .dashboard)]

/-- The boot function the chain selects for an ECU type. -/
def bootFunction (ecu : String) : BootFunction :=
  (firstMatch (startsWith ecu) bootChain).getD .microcarBoot

/-- `init`: call the selected boot function and note that the machine runs. -/
def MicrocarFirmware.init (fw : MicrocarFirmware) : BootFunction × MicrocarFirmware :=
  (bootFunction fw.ecuType, { fw with booted := true })

/-- The function starts the ECU of this category and no other, and carries its name. -/
def Boots (boot : BootFunction) (category : EcuCategory) : Prop :=
  boot.ecus = [category] ∧ startsWith boot.symbol ("microcar_boot_" ++ category.name) = true

instance (boot : BootFunction) (category : EcuCategory) : Decidable (Boots boot category) :=
  inferInstanceAs (Decidable (_ ∧ _))

/-- The two lists of patterns name the same variants in the same order. -/
theorem map_fst_ecuCategoryPatterns : ecuCategoryPatterns.map Prod.fst = variants := rfl

/-- Every test of the boot chain is on one of the patterns. -/
theorem bootChain_subset_patterns :
    bootChain.map Prod.fst ⊆ ecuCategoryPatterns.map Prod.fst := by
  decide

/-- A pattern boots the category it is listed with. -/
theorem boots_pattern :
    ∀ entry ∈ ecuCategoryPatterns, Boots (bootFunction entry.1) entry.2 := by
  decide

/-- The name of a category boots that category. -/
theorem boots_categoryName (category : EcuCategory) :
    Boots (bootFunction category.name) category := by
  cases category <;> decide

/-- A machine with firmware has the ECU type of its path, if the path names a variant. -/
theorem ecuType_of_path {path name variant : String}
    (h : variants.find? (contains path) = some variant) :
    (MicrocarFirmware.withFirmwarePath name path).ecuType = variant := by
  simp only [MicrocarFirmware.ecuType, MicrocarFirmware.withFirmwarePath, h]

/-- A path without a variant leaves the choice to the category. -/
theorem ecuType_of_no_variant {path name : String}
    (h : firstMatch (contains path) ecuCategoryPatterns = none) :
    (MicrocarFirmware.withFirmwarePath name path).ecuType =
      (MicrocarFirmware.withFirmwarePath name path).categoryOrName := by
  have hvariants : variants.find? (contains path) = none := by
    rw [← map_fst_ecuCategoryPatterns, List.find?_eq_none]
    intro pattern hpattern
    rw [firstMatch_eq_none.mp h pattern hpattern]
    exact Bool.false_ne_true
  simp only [MicrocarFirmware.ecuType, MicrocarFirmware.withFirmwarePath, hvariants]

/-- A validated machine boots the ECU it is validated as. -/
theorem boots_of_resolve {path name : String} {category : EcuCategory}
    (h : resolveEcuCategory (some path) name = some category) :
    Boots (bootFunction (MicrocarFirmware.withFirmwarePath name path).ecuType) category := by
  cases hpath : firstMatch (contains path) ecuCategoryPatterns with
  | some byPath =>
    -- the first pattern in the path is also the first variant in it
    have hcategory : byPath = category := by simpa [resolveEcuCategory, hpath] using h
    obtain ⟨pattern, hentry, hfirst⟩ := firstMatch_eq_some hpath
    rw [ecuType_of_path hfirst, ← hcategory]
    exact boots_pattern (pattern, byPath) hentry
  | none =>
    have hname : (MicrocarFirmware.withFirmwarePath name path).categoryOrName = category.name := by
      simp only [MicrocarFirmware.categoryOrName, MicrocarFirmware.withFirmwarePath, h]
    rw [ecuType_of_no_variant hpath, hname]
    exact boots_categoryName category

/-- A machine that resolves to nothing keeps its own name and boots the generic function. -/
theorem boots_generic_of_unresolved {path name : String}
    (h : resolveEcuCategory (some path) name = none) :
    (MicrocarFirmware.withFirmwarePath name path).ecuType = name ∧
      bootFunction name = .microcarBoot := by
  cases hpath : firstMatch (contains path) ecuCategoryPatterns with
  | some byPath => simp [resolveEcuCategory, hpath] at h
  | none =>
    have hname : firstMatch (startsWith name) ecuCategoryPatterns = none := by
      simpa [resolveEcuCategory, hpath] using h
    constructor
    · rw [ecuType_of_no_variant hpath]
      simp only [MicrocarFirmware.categoryOrName, MicrocarFirmware.withFirmwarePath, h]
    · rw [bootFunction, firstMatch_eq_none_of_subset bootChain_subset_patterns hname]
      rfl

/-- Boot dispatch agrees with validation on every firmware path and machine name: a machine that
validation takes for one ECU boots exactly that ECU, and one that it does not know boots the
generic function under its own name. -/
theorem boot_agrees_with_validation (path name : String) :
    (∀ category, resolveEcuCategory (some path) name = some category →
      Boots (MicrocarFirmware.withFirmwarePath name path).init.1 category) ∧
    (resolveEcuCategory (some path) name = none →
      (MicrocarFirmware.withFirmwarePath name path).ecuType = name ∧
      (MicrocarFirmware.withFirmwarePath name path).init.1 = .microcarBoot) := by
  refine ⟨fun category h => boots_of_resolve h, fun h => ?_⟩
  obtain ⟨htype, hboot⟩ := boots_generic_of_unresolved h
  refine ⟨htype, ?_⟩
  rw [MicrocarFirmware.init, htype]
  exact hboot

-- a path that names several variants; the pattern that stands first in the tables decides
example :
    resolveEcuCategory (some "bms/gateway_ota_badcrc/gateway_diag") "dashboard" = some .gateway ∧
      (MicrocarFirmware.withFirmwarePath "dashboard"
        "bms/gateway_ota_badcrc/gateway_diag").init.1 = .gatewayDiag := by
  decide

end Microcar.Validation
