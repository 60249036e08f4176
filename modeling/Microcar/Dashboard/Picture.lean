import Mathlib.Tactic.IntervalCases
import Microcar.Core.Drawing
import Microcar.Core.Run
import Microcar.Dashboard.Render

/-!
# The picture over histories of renders

Rendering is incremental: the display is cleared only when the mode has changed, and every
widget has to erase what an earlier picture of the same mode left. The widgets do. The second
page of a mode has no widgets and erases nothing, so switching to it leaves the widgets of the
first page on the display; this is the only way for a picture to depend on the history.
-/

namespace Microcar.Dashboard

/-- The pixels of a rectangle. -/
def rect (x y w h : Int) : Set Nat :=
  { i | x ≤ (i : Int) % 320 ∧ (i : Int) % 320 < x + w ∧ y ≤ (i : Int) / 320 ∧
    (i : Int) / 320 < y + h }

/-- The pixels of a border. -/
def border (x y w h : Int) : Set Nat :=
  { i | ((y * 320 + x ≤ i ∧ (i : Int) < y * 320 + x + w) ∨
      ((y + h - 1) * 320 + x ≤ i ∧ (i : Int) < (y + h - 1) * 320 + x + w) ∨
      (((i : Int) - x) % 320 = 0 ∧ y + 1 ≤ ((i : Int) - x) / 320 ∧
        ((i : Int) - x) / 320 < y + h - 1) ∨
      (((i : Int) - (x + w - 1)) % 320 = 0 ∧ y + 1 ≤ ((i : Int) - (x + w - 1)) / 320 ∧
        ((i : Int) - (x + w - 1)) / 320 < y + h - 1)) ∧ (i : Int) < 76800 }

/-- The rectangle lies on the display. -/
abbrev OnDisplay (x y w h : Int) : Prop := 0 ≤ x ∧ 0 ≤ y ∧ x + w ≤ 320 ∧ y + h ≤ 240

/-- A rectangle inside another. -/
theorem rect_subset {x y w h x' y' w' h' : Int}
    (hinside : x' ≤ x ∧ y' ≤ y ∧ x + w ≤ x' + w' ∧ y + h ≤ y' + h') :
    rect x y w h ⊆ rect x' y' w' h' := by
  rintro i ⟨hleft, hright, htop, hbottom⟩
  exact ⟨by omega, by omega, by omega, by omega⟩

/-- The value of a pixel behind a fill. -/
theorem fillRect_apply {x y w h : Int} (hon : OnDisplay x y w h) (fb : Framebuffer)
    (color : UInt16) (i : Nat) [Decidable (i ∈ rect x y w h)] :
    fillRect fb x y w h color i = if i ∈ rect x y w h then color else fb i := by
  have hinside : ¬ (x < 0 ∨ y < 0 ∨ mcDashWidth < x + w ∨ mcDashHeight < y + h) := by
    simp only [mcDashWidth, mcDashHeight]
    omega
  rw [fillRect, if_neg hinside]
  dsimp only
  exact if_congr Iff.rfl rfl rfl

/-- Filling a rectangle on the display covers it. -/
theorem covers_fillRect {x y w h : Int} (hon : OnDisplay x y w h) (color : UInt16) :
    Core.Covers (fun fb => fillRect fb x y w h color) (rect x y w h) := by
  classical
  apply Core.covers_of_colour
  · intro fb i hi
    exact (fillRect_apply hon fb color i).trans (if_pos hi)
  · intro fb i hi
    exact (fillRect_apply hon fb color i).trans (if_neg hi)

/-- A fill never leaves its rectangle, not even one that is not drawn. -/
theorem coversWithin_fillRect (x y w h : Int) (color : UInt16) :
    Core.CoversWithin (fun fb => fillRect fb x y w h color) (rect x y w h) := by
  by_cases hon : OnDisplay x y w h
  · exact (covers_fillRect hon color).within (Set.Subset.refl _)
  · have houtside : x < 0 ∨ y < 0 ∨ mcDashWidth < x + w ∨ mcDashHeight < y + h := by
      simp only [mcDashWidth, mcDashHeight]
      omega
    have hid : (fun fb => fillRect fb x y w h color) = id := by
      funext fb
      rw [fillRect, if_pos houtside]
      rfl
    rw [hid]
    exact Core.coversWithin_id _

/-- Filling with the background leaves it everywhere. -/
theorem leavesGround_fillRect (x y w h : Int) (bg : UInt16) (S : Set Nat) :
    Core.LeavesGround bg (fun fb => fillRect fb x y w h bg) S := by
  intro fb i _ hfb
  dsimp only
  unfold fillRect
  split
  · exact hfb
  · dsimp only
    split
    · rfl
    · exact hfb

/-- The value of a pixel behind a border. -/
theorem drawBorder_apply {x y w h : Int} (hsize : 0 < w ∧ 0 < h) (fb : Framebuffer)
    (color : UInt16) (i : Nat) [Decidable (i ∈ border x y w h)] :
    drawBorder fb x y w h color i = if i ∈ border x y w h then color else fb i := by
  have hdrawn : ¬ (w ≤ 0 ∨ h ≤ 0) := by omega
  rw [drawBorder, if_neg hdrawn]
  exact if_congr Iff.rfl rfl rfl

/-- Drawing a border covers it. -/
theorem covers_drawBorder {x y w h : Int} (hsize : 0 < w ∧ 0 < h) (color : UInt16) :
    Core.Covers (fun fb => drawBorder fb x y w h color) (border x y w h) := by
  classical
  apply Core.covers_of_colour
  · intro fb i hi
    exact (drawBorder_apply hsize fb color i).trans (if_pos hi)
  · intro fb i hi
    exact (drawBorder_apply hsize fb color i).trans (if_neg hi)

/-! ### Widgets -/

/-- The interior of a bar: background and fill. -/
def drawFill (fb : Framebuffer) (x y w h : Int) (value maxVal : UInt8) (bg : UInt16) :
    Framebuffer :=
  fillRect (fillRect fb (x + 1) (y + 1) (w - 2) (h - 2) bg) (x + 1) (y + 1)
    (min (((w - 2) * value.toNat).tdiv maxVal.toNat) (w - 2)) (h - 2) mcDashGreen

/-- A bar is a border and its interior. -/
theorem drawBar_eq {w h : Int} (hsize : 2 < w ∧ 2 < h) {maxVal : UInt8} (hmax : maxVal ≠ 0)
    (fb : Framebuffer) (x y : Int) (value : UInt8) (bg : UInt16) :
    drawBar fb x y w h value maxVal bg =
      drawFill (drawBorder fb x y w h mcDashWhite) x y w h value maxVal bg := by
  have hinner : ¬ (w - 2 ≤ 0 ∨ h - 2 ≤ 0) := by omega
  simp only [drawBar, if_neg hmax, if_neg hinner]
  rfl

/-- The interior of a bar is covered whatever the value. -/
theorem covers_drawFill {x y w h : Int} (hon : OnDisplay x y w h) (value maxVal : UInt8)
    (bg : UInt16) :
    Core.Covers (fun fb => drawFill fb x y w h value maxVal bg)
      (rect (x + 1) (y + 1) (w - 2) (h - 2)) :=
  (covers_fillRect (by omega) bg).comp_within
    ((coversWithin_fillRect _ _ _ _ mcDashGreen).mono (rect_subset (by omega)))

/-- A bar covers its border and its interior, whatever its value. -/
theorem covers_drawBar {x y w h : Int} (hon : OnDisplay x y w h) (hsize : 2 < w ∧ 2 < h)
    (value : UInt8) {maxVal : UInt8} (hmax : maxVal ≠ 0) (bg : UInt16) :
    Core.Covers (fun fb => drawBar fb x y w h value maxVal bg)
      (border x y w h ∪ rect (x + 1) (y + 1) (w - 2) (h - 2)) := by
  simp only [drawBar_eq hsize hmax]
  exact (covers_drawBorder (by omega) mcDashWhite).comp (covers_drawFill hon value maxVal bg)

/-- Every segment lies in the cell of a digit. -/
theorem segments_inside : ∀ seg ∈ segments, 0 ≤ seg.2.x ∧ 0 ≤ seg.2.y ∧
    seg.2.x + seg.2.w ≤ digitW ∧ seg.2.y + seg.2.h ≤ digitH := by
  decide

/-- A digit stays within its cell. -/
theorem coversWithin_drawDigit (x y : Int) (d : Nat) (color : UInt16) :
    Core.CoversWithin (fun fb => drawDigit fb x y d color) (rect x y digitW digitH) := by
  cases hmask : digitSegs[d]? with
  | none =>
    simp only [drawDigit, hmask]
    exact Core.coversWithin_id _
  | some mask =>
    simp only [drawDigit, hmask]
    apply Core.CoversWithin.foldl
    intro seg hseg
    obtain ⟨hx, hy, hw, hh⟩ := segments_inside seg hseg
    split
    · exact (coversWithin_fillRect _ _ _ _ color).mono (rect_subset (by omega))
    · exact Core.coversWithin_id _

/-- The digits of a number stay in their cells. -/
theorem coversWithin_digits (digits : List Nat) (startX startY : Int) (color : UInt16) :
    Core.CoversWithin (fun fb : Framebuffer => digits.zipIdx.foldl
      (fun fb d => drawDigit fb (startX + d.2 * digitW) startY d.1 color) fb)
      (rect startX startY (digits.length * digitW) digitH) := by
  apply Core.CoversWithin.foldl
  intro d hd
  have hlt : d.2 < digits.length := List.snd_lt_of_mem_zipIdx hd
  refine (coversWithin_drawDigit _ _ _ color).mono (rect_subset ?_)
  simp only [digitW]
  omega

/-- A number covers its region where its digits fit. -/
theorem covers_drawNumber {rx ry rw rh value : Int} (hon : OnDisplay rx ry rw rh)
    (hfit : ((numberDigits value).length : Int) * 30 ≤ rw ∧ 46 ≤ rh) (color bg : UInt16) :
    Core.Covers (fun fb => drawNumber fb rx ry rw rh value color bg) (rect rx ry rw rh) := by
  refine (covers_fillRect hon bg).comp_within
    ((coversWithin_digits (numberDigits value) _ _ color).mono (rect_subset ?_))
  simp only [digitW, digitH]
  rw [Int.tdiv_eq_ediv_of_nonneg (by omega)]
  omega

/-- A number leaves the background outside of its digits. -/
theorem leavesGround_drawNumber (rx ry rw rh value : Int) (color bg : UInt16) {S : Set Nat}
    (hdigits : rect (rx + rw - (numberDigits value).length * digitW) (ry + (rh - digitH).tdiv 2)
      ((numberDigits value).length * digitW) digitH ⊆ S) :
    Core.LeavesGround bg (fun fb => drawNumber fb rx ry rw rh value color bg) S :=
  (leavesGround_fillRect rx ry rw rh bg S).comp
    (((coversWithin_digits (numberDigits value) _ _ color).mono hdigits).leavesGround bg)

/-- A number below a power of ten has no more digits than the power. -/
theorem length_digitsUpTo_le (n : Nat) {v : Int} {k : Nat} (hv : v < 10 ^ k) :
    (digitsUpTo n v).length ≤ k := by
  induction n generalizing v k with
  | zero => exact Nat.zero_le k
  | succ n ih =>
    rw [digitsUpTo]
    split
    · rename_i hpos
      cases k with
      | zero => omega
      | succ k =>
        have hrest : v / 10 < 10 ^ k := by
          rw [pow_succ] at hv
          omega
        exact Nat.succ_le_succ (ih hrest)
    · exact Nat.zero_le k

/-- The digits of a number below a thousand fit into three cells. -/
theorem length_numberDigits_le {value : Int} (hvalue : value < 1000) :
    (numberDigits value).length ≤ 3 := by
  rw [numberDigits]
  split
  · decide
  · rw [List.length_reverse]
    exact length_digitsUpTo_le 7 (by omega)

/-- The areas of the widgets. -/
def statusArea : Set Nat := border 0 0 320 40 ∪ rect 1 1 318 38
/-- Where the speed is drawn. -/
def speedArea : Set Nat := rect 20 70 120 80
/-- Where a bar with its border is drawn. -/
def barArea (y : Int) : Set Nat := border 20 y 280 24 ∪ rect 21 (y + 1) 278 22

/-- The pixels that a torque can leave besides the background: the sign and the digits. -/
def torqueMarks : Set Nat := rect 182 106 18 8 ∪ rect 200 70 100 80

/-- The area of the torque widget; a negative torque does not erase around its sign. -/
def torqueArea (torquePercent : Int8) : Set Nat :=
  if torquePercent < 0 then torqueMarks else rect 180 70 120 80

/-- The status bar is covered. -/
theorem covers_drawStatusBar (color : UInt16) :
    Core.Covers (fun fb => drawStatusBar fb color) statusArea :=
  (covers_drawBorder (by omega) mcDashWhite).comp (covers_fillRect (by omega) color)

/-- The widget of the speed is covered whatever the speed. -/
theorem covers_drawSpeed (ds : McDashState) : Core.Covers (drawSpeed ds) speedArea := by
  have hspeed : ds.speedKmh.toNat < 256 := ds.speedKmh.toNat_lt
  have hdigits : (numberDigits ds.speedKmh.toNat).length ≤ 3 :=
    length_numberDigits_le (by omega)
  exact covers_drawNumber (by omega) (by omega) mcDashWhite ds.bgColor

/-- The steps of a negative torque: sign, background and number. -/
theorem drawTorque_of_neg {ds : McDashState} (h : ds.torquePercent < 0) :
    drawTorque ds = fun fb => drawNumber (fillRect (fillRect fb 182 106 18 8 mcDashWhite)
      200 70 100 80 ds.bgColor) 200 70 100 80 (-ds.torquePercent.toInt) mcDashWhite
        ds.bgColor := by
  funext fb
  rw [drawTorque, if_pos h]
  rfl

/-- A torque that is not negative is drawn as a number. -/
theorem drawTorque_of_nonneg {ds : McDashState} (h : ¬ ds.torquePercent < 0) :
    drawTorque ds = fun fb => drawNumber (fillRect fb 180 70 120 80 ds.bgColor) 180 70 120 80
      ds.torquePercent.toInt mcDashWhite ds.bgColor := by
  funext fb
  rw [drawTorque, if_neg h]

/-- The digits of a torque, whatever its sign. -/
theorem length_torqueDigits_le (torquePercent : Int8) :
    (numberDigits (-torquePercent.toInt)).length ≤ 3 ∧
      (numberDigits torquePercent.toInt).length ≤ 3 := by
  have hlow := torquePercent.le_toInt
  have hhigh := torquePercent.toInt_lt
  exact ⟨length_numberDigits_le (by omega), length_numberDigits_le (by omega)⟩

/-- The area of the torque widget is covered. -/
theorem covers_drawTorque (ds : McDashState) :
    Core.Covers (drawTorque ds) (torqueArea ds.torquePercent) := by
  obtain ⟨hnegdigits, hdigits⟩ := length_torqueDigits_le ds.torquePercent
  unfold torqueArea
  split
  · rename_i hneg
    have hnumber : Core.Covers (fun fb => drawNumber fb 200 70 100 80 (-ds.torquePercent.toInt)
        mcDashWhite ds.bgColor) (rect 200 70 100 80) :=
      covers_drawNumber (by omega) (by omega) mcDashWhite ds.bgColor
    rw [drawTorque_of_neg hneg]
    exact ((covers_fillRect (by omega) mcDashWhite).comp
      (covers_fillRect (by omega) ds.bgColor)).comp_within
        (hnumber.within Set.subset_union_right)
  · rename_i hneg
    have hnumber : Core.Covers (fun fb => drawNumber fb 180 70 120 80 ds.torquePercent.toInt
        mcDashWhite ds.bgColor) (rect 180 70 120 80) :=
      covers_drawNumber (by omega) (by omega) mcDashWhite ds.bgColor
    rw [drawTorque_of_nonneg hneg]
    exact (covers_fillRect (by omega) ds.bgColor).comp_within
      (hnumber.within (Set.Subset.refl _))

/-- Sign and digits lie in the area of the widget. -/
theorem torqueMarks_subset (torquePercent : Int8) : torqueMarks ⊆ torqueArea torquePercent := by
  unfold torqueArea
  split
  · exact Set.Subset.refl _
  · exact Set.union_subset (rect_subset (by omega)) (rect_subset (by omega))

/-- Left of its digits a torque leaves the background but for the sign. -/
theorem leavesGround_drawTorque (ds : McDashState) :
    Core.LeavesGround ds.bgColor (drawTorque ds) torqueMarks := by
  obtain ⟨hnegdigits, hdigits⟩ := length_torqueDigits_le ds.torquePercent
  have hrow : (80 - 46 : Int).tdiv 2 = 17 := rfl
  have hright : rect 210 87 90 46 ⊆ torqueMarks :=
    (rect_subset (by omega)).trans Set.subset_union_right
  by_cases hneg : ds.torquePercent < 0
  · have hsign := ((coversWithin_fillRect 182 106 18 8 mcDashWhite).mono
      (Set.subset_union_left (s := rect 182 106 18 8) (t := rect 200 70 100 80))).leavesGround
        ds.bgColor
    rw [drawTorque_of_neg hneg]
    refine (hsign.comp (leavesGround_fillRect 200 70 100 80 ds.bgColor torqueMarks)).comp
      (leavesGround_drawNumber 200 70 100 80 _ mcDashWhite ds.bgColor
        ((rect_subset ?_).trans hright))
    simp only [digitW, digitH, hrow]
    omega
  · rw [drawTorque_of_nonneg hneg]
    refine (leavesGround_fillRect 180 70 120 80 ds.bgColor torqueMarks).comp
      (leavesGround_drawNumber 180 70 120 80 _ mcDashWhite ds.bgColor
        ((rect_subset ?_).trans hright))
    simp only [digitW, digitH, hrow]
    omega

/-- A bar is covered whatever the value. -/
theorem covers_bar {y : Int} (hon : OnDisplay 20 y 280 24) (value : UInt8) (bg : UInt16) :
    Core.Covers (fun fb => drawBar fb 20 y 280 24 value 100 bg) (barArea y) :=
  covers_drawBar hon (by omega) value (by decide) bg

/-! ### Redrawing a mode -/

/-- Modes whose widgets stand on the first page. -/
def hasPages : McVehicleMode → Bool
  | .off | .ready | .drive | .limp | .charging => true
  | .fault | .otaUpdate | .service | .transportMode | .raw _ _ => false

/-- A page without widgets is drawn where the first page of the same mode was shown. -/
def HidesWidgets (shownPage : UInt8) (ds : McDashState) : Prop :=
  hasPages ds.mode = true ∧ shownPage = 0 ∧ ds.page ≠ 0

/-- The picture of a state covers an area outside of which no earlier picture of the mode left
more than the background. -/
def Erases (ds ds0 : McDashState) (draw : McDashState → Core.Drawing Nat UInt16) : Prop :=
  ∃ S, Core.Covers (draw ds) S ∧ Core.LeavesGround ds.bgColor (draw ds0) S

/-- Drawings that cover the same area in every state. -/
theorem erases_of_covers {draw : McDashState → Core.Drawing Nat UInt16} {S : Set Nat}
    (hdraw : ∀ ds, Core.Covers (draw ds) S) (ds ds0 : McDashState) : Erases ds ds0 draw :=
  ⟨S, hdraw ds, ((hdraw ds0).within (Set.Subset.refl S)).leavesGround ds.bgColor⟩

/-- Two drawings that erase what they left do so in turn. -/
theorem Erases.comp {ds ds0 : McDashState} {first second : McDashState → Core.Drawing Nat UInt16}
    (hfirst : Erases ds ds0 first) (hsecond : Erases ds ds0 second) :
    Erases ds ds0 fun ds fb => second ds (first ds fb) := by
  obtain ⟨S, hcovers, hleaves⟩ := hfirst
  obtain ⟨T, hcovers', hleaves'⟩ := hsecond
  exact ⟨S ∪ T, hcovers.comp hcovers',
    (hleaves.mono Set.subset_union_left).comp (hleaves'.mono Set.subset_union_right)⟩

/-- Widgets of the first page over a status bar that both pages have. -/
theorem Erases.paged {status widgets : McDashState → Core.Drawing Nat UInt16} {S : Set Nat}
    {ds ds0 : McDashState} (hstatus : ∀ ds, Core.Covers (status ds) S)
    (hwidgets : Erases ds ds0 widgets) (hpage : ds.page = 0 ∨ ds0.page ≠ 0) :
    Erases ds ds0 fun ds fb =>
      if ds.page = 0 then widgets ds (status ds fb) else status ds fb := by
  obtain ⟨W, hcovers, hleaves⟩ := hwidgets
  have hleft (T : Set Nat) (hT : S ⊆ T) : Core.LeavesGround ds.bgColor (status ds0) T :=
    ((hstatus ds0).within hT).leavesGround ds.bgColor
  by_cases hnew : ds.page = 0
  · refine ⟨S ∪ W, ?_, ?_⟩
    · simp only [hnew, if_true]
      exact (hstatus ds).comp hcovers
    · by_cases hold : ds0.page = 0
      · simp only [hold, if_true]
        exact (hleft (S ∪ W) Set.subset_union_left).comp (hleaves.mono Set.subset_union_right)
      · simp only [hold, if_false]
        exact hleft (S ∪ W) Set.subset_union_left
  · have hold : ds0.page ≠ 0 := hpage.resolve_left hnew
    refine ⟨S, ?_, ?_⟩
    · simp only [hnew, if_false]
      exact hstatus ds
    · simp only [hold, if_false]
      exact hleft S (Set.Subset.refl S)

/-- On the same background the torque erases what an earlier torque left. -/
theorem erases_torque {ds ds0 : McDashState} (hground : ds0.bgColor = ds.bgColor) :
    Erases ds ds0 drawTorque := by
  refine ⟨torqueArea ds.torquePercent, covers_drawTorque ds, ?_⟩
  rw [← hground]
  exact (leavesGround_drawTorque ds0).mono (torqueMarks_subset ds.torquePercent)

/-- The two bars of a charging vehicle. -/
def drawBars (ds : McDashState) (fb : Framebuffer) : Framebuffer :=
  drawBar (drawBar fb 20 90 280 24 ds.socPercent 100 ds.bgColor) 20 140 280 24 ds.currentAX2 100
    ds.bgColor

/-- Both bars are covered. -/
theorem covers_drawBars (ds : McDashState) :
    Core.Covers (drawBars ds) (barArea 90 ∪ barArea 140) :=
  (covers_bar (by omega) ds.socPercent ds.bgColor).comp
    (covers_bar (by omega) ds.currentAX2 ds.bgColor)

/-- The parts of the picture of a mode; a mode without pages has no widgets. -/
def statusOf : McVehicleMode → McDashState → Core.Drawing Nat UInt16
  | .off, _ | .ready, _ | .drive, _ => fun fb => drawStatusBar fb mcDashGreen
  | .limp, _ => fun fb => drawStatusBar fb mcDashAmber
  | .fault, _ => fun fb =>
    fillRect (drawBorder fb 0 170 320 70 mcDashWhite) 1 171 318 68 mcDashRed
  | .otaUpdate, ds => fun fb => drawBar fb 20 110 280 24 ds.otaProgress 100 ds.bgColor
  | .charging, _ | .service, _ | .transportMode, _ | .raw _ _, _ => id

/-- What a mode draws over its background. -/
def widgetsOf : McVehicleMode → McDashState → Core.Drawing Nat UInt16
  | .off, ds | .ready, ds => drawSpeed ds
  | .drive, ds | .limp, ds => fun fb => drawTorque ds (drawSpeed ds fb)
  | .charging, ds => drawBars ds
  | .fault, _ | .otaUpdate, _ | .service, _ | .transportMode, _ | .raw _ _, _ => id

/-- A mode is drawn as its status and, on the first page, its widgets. -/
theorem drawMode_eq (ds : McDashState) :
    drawMode ds = fun fb =>
      if ds.page = 0 then widgetsOf ds.mode ds (statusOf ds.mode ds fb)
      else statusOf ds.mode ds fb := by
  funext fb
  rw [drawMode]
  cases ds.mode with
  | off => rfl
  | ready => rfl
  | drive => rfl
  | limp => rfl
  | charging => rfl
  | fault => exact (ite_self _).symm
  | otaUpdate => exact (ite_self _).symm
  | service => exact (ite_self _).symm
  | transportMode => exact (ite_self _).symm
  | raw => exact (ite_self _).symm

/-- The status of a mode covers the same area in every state. -/
theorem covers_statusOf (mode : McVehicleMode) :
    ∃ S, ∀ ds, Core.Covers (statusOf mode ds) S := by
  have hgreen : ∃ S, ∀ _ : McDashState,
      Core.Covers (fun fb => drawStatusBar fb mcDashGreen) S :=
    ⟨statusArea, fun _ => covers_drawStatusBar mcDashGreen⟩
  have hnone : ∃ S, ∀ _ : McDashState, Core.Covers (id : Core.Drawing Nat UInt16) S :=
    ⟨∅, fun _ => Core.covers_id⟩
  cases mode with
  | off => exact hgreen
  | ready => exact hgreen
  | drive => exact hgreen
  | limp => exact ⟨statusArea, fun _ => covers_drawStatusBar mcDashAmber⟩
  | fault =>
    exact ⟨border 0 170 320 70 ∪ rect 1 171 318 68, fun _ =>
      (covers_drawBorder (by omega) mcDashWhite).comp (covers_fillRect (by omega) mcDashRed)⟩
  | otaUpdate =>
    exact ⟨barArea 110, fun ds => covers_bar (by omega) ds.otaProgress ds.bgColor⟩
  | charging => exact hnone
  | service => exact hnone
  | transportMode => exact hnone
  | raw => exact hnone

/-- The widgets of a mode erase what they left earlier. -/
theorem erases_widgetsOf {ds ds0 : McDashState} (hground : ds0.bgColor = ds.bgColor)
    (mode : McVehicleMode) : Erases ds ds0 (widgetsOf mode) := by
  have hspeed := erases_of_covers covers_drawSpeed ds ds0
  have hboth := hspeed.comp (erases_torque hground)
  have hnone : Erases ds ds0 fun _ => id := erases_of_covers (fun _ => Core.covers_id) ds ds0
  cases mode with
  | off => exact hspeed
  | ready => exact hspeed
  | drive => exact hboth
  | limp => exact hboth
  | charging => exact erases_of_covers covers_drawBars ds ds0
  | fault => exact hnone
  | otaUpdate => exact hnone
  | service => exact hnone
  | transportMode => exact hnone
  | raw => exact hnone

/-- A mode without pages has one picture. -/
theorem drawMode_of_noPages {ds : McDashState} (h : hasPages ds.mode = false) :
    drawMode ds = statusOf ds.mode ds := by
  have hwidgets : widgetsOf ds.mode ds = id := by
    cases hmode : ds.mode <;> rw [hmode] at h <;> first | rfl | cases h
  rw [drawMode_eq, hwidgets]
  funext fb
  exact ite_self _

/-- Redrawing a mode erases what its earlier pictures left, unless it hides their widgets. -/
theorem erases_drawMode {ds ds0 : McDashState} (hmode : ds0.mode = ds.mode)
    (hground : ds0.bgColor = ds.bgColor) (hpage : ¬ HidesWidgets ds0.page ds) :
    Erases ds ds0 drawMode := by
  obtain ⟨S, hstatus⟩ := covers_statusOf ds.mode
  cases hpages : hasPages ds.mode with
  | true =>
    have hshown : ds.page = 0 ∨ ds0.page ≠ 0 := by
      by_contra hhidden
      rw [not_or, not_not] at hhidden
      exact hpage ⟨hpages, hhidden.2, hhidden.1⟩
    obtain ⟨T, hcovers, hleaves⟩ := Erases.paged hstatus (erases_widgetsOf hground ds.mode) hshown
    refine ⟨T, ?_, ?_⟩
    · rw [drawMode_eq]
      exact hcovers
    · rw [drawMode_eq, hmode]
      exact hleaves
  | false =>
    obtain ⟨T, hcovers, hleaves⟩ := erases_of_covers hstatus ds ds0
    have hpages0 : hasPages ds0.mode = false := hmode ▸ hpages
    refine ⟨T, ?_, ?_⟩
    · rw [drawMode_of_noPages hpages]
      exact hcovers
    · rw [drawMode_of_noPages hpages0, hmode]
      exact hleaves

/-! ### Widgets that stay -/

/-- A pixel that the last digit of every speed sets. -/
def speedMark : Nat := 29255

/-- A pixel on the border of the upper bar. -/
def barMark : Nat := 28820

/-- Every digit has the upper or the upper right segment. -/
theorem drawDigit_speedMark (fb : Framebuffer) {d : Nat} (hd : d < 10) (color : UInt16) :
    drawDigit fb 110 87 d color speedMark = color := by
  interval_cases d <;> rfl

/-- The last digit of a number that is not negative. -/
theorem exists_last_digit {value : Int} (hvalue : 0 ≤ value) :
    ∃ init d, numberDigits value = init ++ [d] ∧ d < 10 := by
  rw [numberDigits]
  split
  · exact ⟨[], 0, rfl, by decide⟩
  · have hpos : 0 < value := by omega
    refine ⟨(digitsUpTo 6 (value / 10)).reverse, (value % 10).toNat, ?_, by omega⟩
    rw [digitsUpTo, if_pos hpos, List.reverse_cons]

/-- The speed sets its mark. -/
theorem drawSpeed_speedMark (ds : McDashState) (fb : Framebuffer) :
    drawSpeed ds fb speedMark = mcDashWhite := by
  obtain ⟨init, d, hdigits, hd⟩ : ∃ init d, numberDigits ds.speedKmh.toNat = init ++ [d] ∧
      d < 10 := exists_last_digit (by omega)
  have hcell : (20 : Int) + 120 - ((init ++ [d]).length : Nat) * digitW + (init.length : Nat) *
      digitW = 110 := by
    simp only [List.length_append, List.length_singleton, digitW]
    omega
  have hrow : (70 : Int) + (80 - digitH).tdiv 2 = 87 := rfl
  rw [drawSpeed, drawNumber, hdigits, List.zipIdx_append, List.foldl_append,
    List.zipIdx_singleton, List.foldl_cons, List.foldl_nil, Nat.zero_add, hcell, hrow]
  exact drawDigit_speedMark _ hd mcDashWhite

/-- The bars set theirs. -/
theorem drawBars_barMark (ds : McDashState) (fb : Framebuffer) :
    drawBars ds fb barMark = mcDashWhite := by
  have hlower : barMark ∉ barArea 140 := by
    simp only [barArea, border, rect, barMark, Set.mem_union, Set.mem_ofPred_eq]
    omega
  have hinner : barMark ∉ rect (20 + 1) (90 + 1) (280 - 2) (24 - 2) := by
    simp only [rect, barMark, Set.mem_ofPred_eq]
    omega
  have hkept := (covers_bar (y := 140) (by omega) ds.currentAX2 ds.bgColor).keeps
    barMark hlower (drawBar fb 20 90 280 24 ds.socPercent 100 ds.bgColor)
  refine hkept.trans ?_
  rw [drawBar_eq (by omega) (by decide)]
  exact (covers_drawFill (by omega) ds.socPercent 100 ds.bgColor).keeps barMark hinner _

/-- On the first page of a mode some pixel is white that the status bar does not reach. -/
theorem exists_widget_pixel {mode : McVehicleMode} (h : hasPages mode = true) :
    ∃ i < 76800, ∀ ds, (∀ fb, widgetsOf mode ds fb i = mcDashWhite) ∧
      Core.KeepsPixel (statusOf mode ds) i := by
  have hstatus (color : UInt16) :
      Core.KeepsPixel (fun fb => drawStatusBar fb color) speedMark := by
    refine (covers_drawStatusBar color).keeps speedMark ?_
    simp only [statusArea, border, rect, speedMark, Set.mem_union, Set.mem_ofPred_eq]
    omega
  have hboth (ds : McDashState) (fb : Framebuffer) :
      drawTorque ds (drawSpeed ds fb) speedMark = mcDashWhite := by
    have hbeside : speedMark ∉ torqueArea ds.torquePercent := by
      unfold torqueArea
      split
      · simp only [torqueMarks, rect, speedMark, Set.mem_union, Set.mem_ofPred_eq]
        omega
      · simp only [rect, speedMark, Set.mem_ofPred_eq]
        omega
    rw [(covers_drawTorque ds).keeps speedMark hbeside, drawSpeed_speedMark]
  cases mode with
  | off => exact ⟨speedMark, by decide, fun ds => ⟨drawSpeed_speedMark ds, hstatus _⟩⟩
  | ready => exact ⟨speedMark, by decide, fun ds => ⟨drawSpeed_speedMark ds, hstatus _⟩⟩
  | drive => exact ⟨speedMark, by decide, fun ds => ⟨hboth ds, hstatus _⟩⟩
  | limp => exact ⟨speedMark, by decide, fun ds => ⟨hboth ds, hstatus _⟩⟩
  | charging => exact ⟨barMark, by decide, fun ds => ⟨drawBars_barMark ds, fun _ => rfl⟩⟩
  | _ => cases h

/-- The background that a mode is given. -/
def modeGround (mode : McVehicleMode) : UInt16 := (mcDashSetMode mcDashInit mode).bgColor

/-- No background is white. -/
theorem modeGround_ne_white (mode : McVehicleMode) : modeGround mode ≠ mcDashWhite := by
  cases mode <;> exact of_decide_eq_true rfl

/-! ### Histories -/

/-- The display: the rendered state, the framebuffer, and the page of the last picture. -/
structure Panel where
  /-- Rendered state. -/
  ds : McDashState
  /-- Framebuffer. -/
  framebuffer : Framebuffer
  /-- Page of the last picture; nothing in the code reads it. -/
  shownPage : UInt8

/-- A change of the state or a render. -/
inductive PanelOp where
  /-- `mc_dash_set_mode`. -/
  | setMode (mode : McVehicleMode)
  /-- A new speed. -/
  | speed (speedKmh : UInt8)
  /-- A new torque. -/
  | torque (torquePercent : Int8)
  /-- A new state of charge. -/
  | soc (socPercent : UInt8)
  /-- A new current. -/
  | current (currentAX2 : UInt8)
  /-- A new progress of an update. -/
  | ota (otaProgress : UInt8)
  /-- The page toggle of the display task. -/
  | togglePage
  /-- `mc_dash_render`. -/
  | render
  deriving DecidableEq

/-- Perform one of them. -/
def panelStep (s : Panel) : PanelOp → Panel
  | .setMode mode => { s with ds := mcDashSetMode s.ds mode }
  | .speed speedKmh => { s with ds := { s.ds with speedKmh := speedKmh } }
  | .torque torquePercent => { s with ds := { s.ds with torquePercent := torquePercent } }
  | .soc socPercent => { s with ds := { s.ds with socPercent := socPercent } }
  | .current currentAX2 => { s with ds := { s.ds with currentAX2 := currentAX2 } }
  | .ota otaProgress => { s with ds := { s.ds with otaProgress := otaProgress } }
  | .togglePage => { s with ds := { s.ds with page := if s.ds.page ≠ 0 then 0 else 1 } }
  | .render =>
    let (ds, framebuffer) := mcDashRender s.ds s.framebuffer
    ⟨ds, framebuffer, s.ds.page⟩

/-- The display at boot, over whatever the framebuffer held. -/
def panelInit (framebuffer : Framebuffer) : Panel := ⟨mcDashInit, framebuffer, 0⟩

/-- The values of a state in a renderer that has not drawn yet. -/
def McDashState.undrawn (ds : McDashState) : McDashState := { ds with prevMode := mcDashModeUnset }

/-- The framebuffer holds the picture that the values of the state give from scratch, on any
display. -/
def PictureFresh (s : Panel) : Prop :=
  ∀ blank : Framebuffer, ∀ i < 76800, s.framebuffer i = (mcDashRender s.ds.undrawn blank).2 i

/-- What is wanted of a step: every render leaves a fresh picture. -/
def RendersFresh (s : Panel) (op : PanelOp) : Prop :=
  op = .render → PictureFresh (panelStep s .render)

/-- A render draws a page without widgets over the first page of the same mode. -/
def RendersOverWidgets (s : Panel) (op : PanelOp) : Prop :=
  op = .render ∧ s.ds.mode = s.ds.prevMode ∧ HidesWidgets s.shownPage s.ds

/-! ### Renders -/

/-- The mode drawn last does not enter the picture. -/
theorem drawMode_prevMode (ds : McDashState) (prevMode : McVehicleMode) :
    drawMode { ds with prevMode := prevMode } = drawMode ds := rfl

/-- A full clear reaches every pixel. -/
theorem clear_apply (fb : Framebuffer) (color : UInt16) {i : Nat} (hi : i < 76800) :
    fillRect fb 0 0 mcDashWidth mcDashHeight color i = color := by
  classical
  have hmem : i ∈ rect 0 0 mcDashWidth mcDashHeight := by
    simp only [rect, mcDashWidth, mcDashHeight, Set.mem_ofPred_eq]
    omega
  rw [fillRect_apply (by decide), if_pos hmem]

/-- A pixel of the picture depends on the same pixel before it. -/
theorem drawMode_congr (ds : McDashState) {p q : Framebuffer} {i : Nat} (h : p i = q i) :
    drawMode ds p i = drawMode ds q i := by
  obtain ⟨S, hcovers, -⟩ : Erases ds ds drawMode :=
    erases_drawMode rfl rfl fun hhides => hhides.2.2 hhides.2.1
  exact hcovers.congr h

/-- A render takes note of the mode. -/
theorem render_state (ds : McDashState) (fb : Framebuffer) :
    (mcDashRender ds fb).1 = { ds with prevMode := ds.mode } := by
  have hclear : (clearOnModeChange ds fb).1 = { ds with prevMode := ds.mode } := by
    rw [clearOnModeChange]
    split
    · rfl
    · rename_i hsame
      cases ds
      cases not_not.mp hsame
      rfl
  rw [← hclear, mcDashRender]
  dsimp only
  split <;> rfl

/-- The boot screen covers the display. -/
theorem render_unset (ds : McDashState) (h : ds.mode = mcDashModeUnset) (fb : Framebuffer)
    {i : Nat} (hi : i < 76800) :
    (mcDashRender ds fb).2 i = fillRect (fun _ => mcDashBlack) 40 108 240 24 mcDashWhite i := by
  have hmode : (clearOnModeChange ds fb).1.mode = mcDashModeUnset := by
    rw [clearOnModeChange]
    split
    · exact h
    · exact h
  rw [mcDashRender]
  dsimp only
  rw [if_pos hmode]
  have hcovers : Core.Covers (fun fb => fillRect fb 40 108 240 24 mcDashWhite)
      (rect 40 108 240 24) :=
    covers_fillRect (by omega) mcDashWhite
  exact hcovers.congr (clear_apply _ mcDashBlack hi)

/-- A render that finds another mode draws over a cleared display. -/
theorem render_changed (ds : McDashState) (hset : ds.mode ≠ mcDashModeUnset)
    (hchanged : ds.mode ≠ ds.prevMode) (fb : Framebuffer) :
    mcDashRender ds fb = ({ ds with prevMode := ds.mode },
      drawMode ds (fillRect fb 0 0 mcDashWidth mcDashHeight ds.bgColor)) := by
  rw [mcDashRender, clearOnModeChange, if_pos hchanged]
  dsimp only
  rw [if_neg hset, drawMode_prevMode]

/-- A render that finds the same mode draws over the last picture. -/
theorem render_same {ds : McDashState} (hset : ds.mode ≠ mcDashModeUnset)
    (hsame : ds.mode = ds.prevMode) (fb : Framebuffer) :
    mcDashRender ds fb = (ds, drawMode ds fb) := by
  rw [mcDashRender, clearOnModeChange, if_neg (not_not.mpr hsame)]
  dsimp only
  rw [if_neg hset]

/-- The picture from scratch is drawn on the background. -/
theorem fresh_apply (ds : McDashState) (hset : ds.mode ≠ mcDashModeUnset) (blank : Framebuffer)
    {i : Nat} (hi : i < 76800) :
    (mcDashRender ds.undrawn blank).2 i = drawMode ds (fun _ => ds.bgColor) i := by
  rw [render_changed ds.undrawn hset hset]
  exact drawMode_congr ds (clear_apply blank ds.bgColor hi)

/-- What the display shows: the background belongs to the mode, and behind a render in some
mode the framebuffer holds a picture of that mode and of the shown page. -/
structure PanelShows (s : Panel) : Prop where
  /-- The background is that of the mode. -/
  ground : s.ds.bgColor = modeGround s.ds.mode
  /-- The last picture. -/
  shown : s.ds.prevMode ≠ mcDashModeUnset → ∃ ds0 : McDashState, ds0.mode = s.ds.prevMode ∧
    ds0.bgColor = modeGround s.ds.prevMode ∧ ds0.page = s.shownPage ∧
    ∀ i < 76800, s.framebuffer i = drawMode ds0 (fun _ => ds0.bgColor) i

/-- At boot nothing has been drawn. -/
theorem panelShows_init (framebuffer : Framebuffer) : PanelShows (panelInit framebuffer) :=
  ⟨rfl, fun h => absurd rfl h⟩

/-- A render in one piece: the background where the mode is new, and the mode. -/
theorem panelStep_render (s : Panel) :
    panelStep s .render = ⟨{ s.ds with prevMode := s.ds.mode },
      (mcDashRender s.ds s.framebuffer).2, s.ds.page⟩ := by
  rw [← render_state s.ds s.framebuffer]
  rfl

/-- In a mode the picture is fresh when it equals the one drawn on the background. -/
theorem pictureFresh_iff {s : Panel} (hset : s.ds.mode ≠ mcDashModeUnset) :
    PictureFresh (panelStep s .render) ↔ ∀ i < 76800, (mcDashRender s.ds s.framebuffer).2 i =
      drawMode s.ds (fun _ => s.ds.bgColor) i := by
  rw [panelStep_render]
  constructor
  · intro h i hi
    exact (h (fun _ => 0) i hi).trans (fresh_apply s.ds hset _ hi)
  · intro h blank i hi
    exact (h i hi).trans (fresh_apply s.ds hset blank hi).symm

/-- A fresh picture is what a later render finds. -/
theorem PanelShows.render {s : Panel} (h : PanelShows s)
    (hfresh : PictureFresh (panelStep s .render)) : PanelShows (panelStep s .render) := by
  rw [panelStep_render]
  refine ⟨h.ground, fun hset => ⟨s.ds, rfl, h.ground, rfl, ?_⟩⟩
  exact (pictureFresh_iff hset).mp hfresh

/-- Widgets that are not erased are seen. -/
theorem widgets_remain {ds ds0 : McDashState} (hmode : ds0.mode = ds.mode)
    (hground : ds.bgColor = modeGround ds.mode) (hhides : HidesWidgets ds0.page ds)
    (fb : Framebuffer) : ∃ i < 76800, drawMode ds (drawMode ds0 fb) i ≠
      drawMode ds (fun _ => ds.bgColor) i := by
  obtain ⟨hpages, hold, hnew⟩ := hhides
  obtain ⟨i, hi, hpixel⟩ := exists_widget_pixel hpages
  have hkeeps (p : Framebuffer) : drawMode ds p i = p i := by
    rw [drawMode_eq]
    dsimp only
    rw [if_neg hnew]
    exact (hpixel ds).2 p
  have hwhite : drawMode ds0 fb i = mcDashWhite := by
    rw [drawMode_eq]
    dsimp only
    rw [if_pos hold, hmode]
    exact (hpixel ds0).1 _
  refine ⟨i, hi, ?_⟩
  rw [hkeeps, hkeeps, hwhite, hground]
  exact (modeGround_ne_white ds.mode).symm

/-- A render leaves a fresh picture exactly when it does not draw over widgets. -/
theorem PanelShows.fresh_iff {s : Panel} (h : PanelShows s) :
    PictureFresh (panelStep s .render) ↔ ¬ RendersOverWidgets s .render := by
  by_cases hset : s.ds.mode = mcDashModeUnset
  -- the boot screen is drawn over everything
  · refine iff_of_true ?_ ?_
    · rw [panelStep_render]
      intro blank i hi
      exact (render_unset s.ds hset _ hi).trans (render_unset s.ds.undrawn hset blank hi).symm
    · rintro ⟨-, -, hpages, -⟩
      rw [hset] at hpages
      cases hpages
  by_cases hsame : s.ds.mode = s.ds.prevMode
  -- the framebuffer holds the last picture of the mode
  · obtain ⟨ds0, hmode, hground, hpage, hshown⟩ := h.shown (hsame ▸ hset)
    have hmode' : ds0.mode = s.ds.mode := hmode.trans hsame.symm
    have hground' : ds0.bgColor = s.ds.bgColor := by rw [hground, h.ground, hsame]
    have hover : RendersOverWidgets s .render ↔ HidesWidgets ds0.page s.ds := by
      rw [RendersOverWidgets, hpage]
      exact ⟨fun hrender => hrender.2.2, fun hhides => ⟨rfl, hsame, hhides⟩⟩
    have hpicture : ∀ i < 76800, (mcDashRender s.ds s.framebuffer).2 i =
        drawMode s.ds (drawMode ds0 fun _ => s.ds.bgColor) i := by
      intro i hi
      rw [render_same hset hsame, ← hground']
      exact drawMode_congr s.ds (hshown i hi)
    rw [pictureFresh_iff hset, hover]
    constructor
    · intro hfresh hhides
      obtain ⟨i, hi, hdiffers⟩ := widgets_remain hmode' h.ground hhides fun _ => s.ds.bgColor
      exact hdiffers ((hpicture i hi).symm.trans (hfresh i hi))
    · intro hhides i hi
      obtain ⟨S, hcovers, hleaves⟩ := erases_drawMode hmode' hground' hhides
      exact (hpicture i hi).trans (hcovers.redraw hleaves rfl)
  -- a change of the mode clears the display
  · refine iff_of_true ?_ fun hrender => hsame hrender.2.1
    rw [pictureFresh_iff hset]
    intro i hi
    rw [render_changed s.ds hset hsame]
    exact drawMode_congr s.ds (clear_apply _ _ hi)

/-- Changes of the state leave the display alone. -/
theorem PanelShows.step {s : Panel} (h : PanelShows s) (op : PanelOp)
    (hfresh : RendersFresh s op) : PanelShows (panelStep s op) := by
  cases op with
  | setMode mode => exact ⟨rfl, h.shown⟩
  | speed => exact ⟨h.ground, h.shown⟩
  | torque => exact ⟨h.ground, h.shown⟩
  | soc => exact ⟨h.ground, h.shown⟩
  | current => exact ⟨h.ground, h.shown⟩
  | ota => exact ⟨h.ground, h.shown⟩
  | togglePage => exact ⟨h.ground, h.shown⟩
  | render => exact h.render (hfresh rfl)

/-- Whatever the framebuffer held and whatever changes and renders follow, every render leaves
the picture of the current state exactly when none draws a page without widgets over the first
page of the same mode. -/
theorem renders_fresh_iff (framebuffer : Framebuffer) (ops : List PanelOp) :
    Core.StepsMeet panelStep RendersFresh (panelInit framebuffer) ops ↔
      Core.StepsMeet panelStep (fun s op => ¬ RendersOverWidgets s op) (panelInit framebuffer)
        ops := by
  refine Core.stepsMeet_congr (fun s op h => ?_) (fun s op h => h.step op)
    (panelShows_init framebuffer) ops
  by_cases hrender : op = .render
  · subst hrender
    exact (forall_prop_of_true rfl).trans h.fresh_iff
  · exact iff_of_true (fun hop => absurd hop hrender) fun hover => hrender hover.1

/-- Switching to the second page while driving leaves the speed on the display. -/
theorem secondPage_keeps_speed :
    ¬ Core.StepsMeet panelStep RendersFresh (panelInit fun _ => 0)
      [.setMode .drive, .render, .togglePage, .render] := by
  rintro ⟨-, -, -, hfresh, -⟩
  have hpixel := hfresh rfl (fun _ => 0) speedMark (by decide)
  exact absurd hpixel (by decide +kernel)

end Microcar.Dashboard
