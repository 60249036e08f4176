import Microcar.Dashboard.Firmware
import Microcar.Plant.Model
import Microcar.Vehicle.Bus

/-!
# From the plant to the display

The plant publishes a speed and a signed current in words of 16 bits. The dashboard narrows
both to a byte: the speed without a bound, and the current after dropping its sign. What it
shows is faithful to the plant exactly as long as the speed fits and the current is not
negative, up to the coincidences of the narrowing.
-/

namespace Microcar.Vehicle

open Microcar.Dashboard (DashboardCtx McDashState dashboardStep)
open Microcar.Plant (MicrocarPlant SensorReadings)

/-- The readings of the sensor frame. -/
def plantReadings (r : SensorReadings) : Bms.PlantReadings where
  socPercent := r.socPercent
  voltageMv := r.packVoltageMv
  tempCX10 := r.packTempCX10
  currentMa := r.packCurrentMa

/-- The two frames a plant step publishes, the last part of `do_step`. -/
def plantFrames (p : MicrocarPlant) : BusFrame × BusFrame :=
  let r := SensorReadings.fromPlant p.vehicle p.battery
  (wheelSpeedFrame r.wheelSpeedKphX10, plantSensorsFrame (plantReadings r))

/-- The rendered state once the dashboard has processed the frames of a plant step, whatever
its buffers held. -/
def displayed (ctx : DashboardCtx) (p : MicrocarPlant) (buffer buffer' : Vector UInt8 8) :
    McDashState :=
  (Core.run dashboardStep ctx [.dispatch ((plantFrames p).1.receive buffer),
    .dispatch ((plantFrames p).2.receive buffer')]).dash

/-- The current the BMS decodes from the frame the dashboard reads. -/
def decodedCurrent (p : MicrocarPlant) (buffer : Vector UInt8 8) : Int :=
  (Bms.decodePlantSensors ((plantFrames p).2.receive buffer).toMcCanFrame).currentMa.toInt

/-- The display shows speed and current of the plant, at most 255 each. -/
structure DisplayFaithful (dash : McDashState) (p : MicrocarPlant) (current : Int) : Prop where
  /-- Speed in kilometres per hour. -/
  speed : dash.speedKmh.toNat = min 255 (p.vehicle.speedKphX10.toNat / 10)
  /-- Magnitude of the current in half amperes. -/
  current : dash.currentAX2.toNat = min 255 (current.natAbs / 500)

/-- Narrowing a quotient to a byte. -/
theorem toNat_div_toUInt8 (w k : UInt16) : (w / k).toUInt8.toNat = w.toNat / k.toNat % 256 := by
  rw [UInt16.toNat_toUInt8, UInt16.toNat_div]

/-- The shown speed is the one of the plant modulo 256. -/
theorem displayed_speedKmh (ctx : DashboardCtx) (p : MicrocarPlant)
    (buffer buffer' : Vector UInt8 8) :
    (displayed ctx p buffer buffer').speedKmh.toNat =
      p.vehicle.speedKphX10.toNat / 10 % 256 := by
  have hlen (i : Fin 8) (hi : i.val < 2) : i.val < (plantFrames p).1.len.toNat := hi
  have hshown : (displayed ctx p buffer buffer').speedKmh =
      (Core.wordOfBytes (((plantFrames p).1.receive buffer).data.get 0)
        (((plantFrames p).1.receive buffer).data.get 1) / 10).toUInt8 := rfl
  have hsent : Core.wordOfBytes ((plantFrames p).1.data.get 0) ((plantFrames p).1.data.get 1) =
      p.vehicle.speedKphX10 := Core.wordOfBytes_hiByte_loByte _
  rw [hshown, BusFrame.wordOfBytes_receive _ buffer (hlen 0 (by decide)) (hlen 1 (by decide)),
    hsent, toNat_div_toUInt8]
  rfl

/-- The shown current is the one of the plant without its sign. -/
theorem displayed_currentAX2 (ctx : DashboardCtx) (p : MicrocarPlant)
    (buffer buffer' : Vector UInt8 8) :
    (displayed ctx p buffer buffer').currentAX2.toNat =
      p.battery.currentMaI16.toUInt16.toNat / 500 % 256 := by
  have hlen (i : Fin 8) (hi : i.val < 7) : i.val < (plantFrames p).2.len.toNat := hi
  have hshown : (displayed ctx p buffer buffer').currentAX2 =
      (Core.wordOfBytes (((plantFrames p).2.receive buffer').data.get 5)
        (((plantFrames p).2.receive buffer').data.get 6) / 500).toUInt8 := rfl
  have hsent : Core.wordOfBytes ((plantFrames p).2.data.get 5) ((plantFrames p).2.data.get 6) =
      p.battery.currentMaI16.toUInt16 := Core.wordOfBytes_hiByte_loByte _
  rw [hshown, BusFrame.wordOfBytes_receive _ buffer' (hlen 5 (by decide)) (hlen 6 (by decide)),
    hsent, toNat_div_toUInt8]
  rfl

/-- The BMS decodes the current the plant encoded. -/
theorem decodedCurrent_eq (p : MicrocarPlant) (buffer : Vector UInt8 8) :
    decodedCurrent p buffer = p.battery.currentMaI16.toInt := by
  unfold decodedCurrent plantFrames
  rw [decodePlantSensors_receive]
  rfl

/-- The encoded current is the one of the pack, bounded by the word. -/
theorem toInt_currentMaI16 (b : Plant.BatteryModel) :
    b.currentMaI16.toInt = max (-32768) (min b.currentMa.toInt 32767) := by
  rw [Plant.BatteryModel.currentMaI16, Int16.toInt_ofInt_of_le (by omega) (by omega)]

/-- A speed narrowed to a byte is the bounded one exactly when it fits or wraps around to
255. -/
theorem mod_eq_min_iff (n : Nat) : n % 256 = min 255 n ↔ n < 256 ∨ n % 256 = 255 := by omega

/-- A word read without its sign has the magnitude of the signed one, in steps of 500, exactly
when it is not negative or close enough to the middle of the range. -/
theorem unsigned_current_eq_iff (w : Int16) :
    w.toUInt16.toNat / 500 % 256 = min 255 (w.toInt.natAbs / 500) ↔
      0 ≤ w.toInt ∨ w.toInt ≤ -32537 := by
  have hsign := Core.toInt_eq_toNat_toUInt16 w
  have hlt : w.toUInt16.toNat < 65536 := w.toUInt16.toNat_lt
  split_ifs at hsign
  · omega
  · omega

/-- The display is faithful to a plant state exactly when its speed fits a byte or wraps around
to 255, and its current is not negative or below the range in which the sign shows. -/
theorem displayFaithful_iff (ctx : DashboardCtx) (p : MicrocarPlant)
    (buffer buffer' bmsBuffer : Vector UInt8 8) :
    DisplayFaithful (displayed ctx p buffer buffer') p (decodedCurrent p bmsBuffer) ↔
      (p.vehicle.speedKphX10.toNat / 10 < 256 ∨ p.vehicle.speedKphX10.toNat / 10 % 256 = 255) ∧
        (0 ≤ p.battery.currentMa.toInt ∨ p.battery.currentMa.toInt ≤ -32537) := by
  have hspeed := displayed_speedKmh ctx p buffer buffer'
  have hcurrent := displayed_currentAX2 ctx p buffer buffer'
  have hpack := toInt_currentMaI16 p.battery
  rw [decodedCurrent_eq]
  constructor
  · rintro ⟨hshown, hshown'⟩
    rw [hspeed, mod_eq_min_iff] at hshown
    rw [hcurrent, unsigned_current_eq_iff] at hshown'
    exact ⟨hshown, by omega⟩
  · rintro ⟨hfits, hsigned⟩
    refine ⟨?_, ?_⟩
    · rw [hspeed, mod_eq_min_iff]
      exact hfits
    · rw [hcurrent, unsigned_current_eq_iff]
      omega

/-- The plant behind three seconds of full throttle, at 271.0 km/h. -/
def fastPlant : MicrocarPlant where
  vehicle := ⟨2710, 100, false, 100⟩
  battery := ⟨79, 79169, 548, 32920, 50000, 48000⟩
  tickMs := 1000

/-- The plant reaches 271.0 km/h, and the display shows 15. -/
theorem display_wraps_at_speed :
    (((MicrocarPlant.new 1000).applyInput 100 false).advance.bind fun p =>
        p.advance.bind fun p => p.advance) = some fastPlant ∧
      ¬ ∀ ctx buffer buffer' bmsBuffer, DisplayFaithful (displayed ctx fastPlant buffer buffer')
        fastPlant (decodedCurrent fastPlant bmsBuffer) := by
  refine ⟨by decide +kernel, ?_⟩
  intro h
  let buffer : Vector UInt8 8 := Vector.replicate 8 0
  have hspeed := (h (Dashboard.dashboardBoot fun _ => 0) buffer buffer buffer).speed
  rw [displayed_speedKmh] at hspeed
  exact absurd hspeed (by decide)

end Microcar.Vehicle
