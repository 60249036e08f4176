import Microcar.Protocol.Modes

/-!
# The dashboard renderer

Drawing of the dashboard state into a framebuffer of 320 by 240 pixels. A framebuffer is
read at the index of a pixel, rows first; the loops of the drawing functions become updates
of exactly the pixels they write.
-/

namespace Microcar.Dashboard

/-- Dimensions of the display, `MC_DASH_WIDTH` and `MC_DASH_HEIGHT`. -/
def mcDashWidth : Int := 320
/-- The height. -/
def mcDashHeight : Int := 240

/-- Colours, `MC_DASH_*`. -/
def mcDashBlack : UInt16 := 0x0000
/-- White. -/
def mcDashWhite : UInt16 := 0xFFFF
/-- Green. -/
def mcDashGreen : UInt16 := 0x07E0
/-- Red. -/
def mcDashRed : UInt16 := 0xF800
/-- Amber. -/
def mcDashAmber : UInt16 := 0xFD20

/-- The colour of the pixel at an index. -/
abbrev Framebuffer := Nat → UInt16

/-- Fill a rectangle; one that leaves the display is not drawn, `fill_rect`. -/
def fillRect (fb : Framebuffer) (x y w h : Int) (color : UInt16) : Framebuffer :=
  if x < 0 ∨ y < 0 ∨ mcDashWidth < x + w ∨ mcDashHeight < y + h then fb
  else fun i =>
    let row := (i : Int) / mcDashWidth
    let col := (i : Int) % mcDashWidth
    if x ≤ col ∧ col < x + w ∧ y ≤ row ∧ row < y + h then color else fb i

/-- Draw a border one pixel wide, `draw_border`. -/
def drawBorder (fb : Framebuffer) (x y w h : Int) (color : UInt16) : Framebuffer :=
  if w ≤ 0 ∨ h ≤ 0 then fb
  else fun i =>
    let onRow (row : Int) : Prop := row * mcDashWidth + x ≤ i ∧ i < row * mcDashWidth + x + w
    let onCol (col : Int) : Prop := (i - col) % mcDashWidth = 0 ∧
      y + 1 ≤ (i - col) / mcDashWidth ∧ (i - col) / mcDashWidth < y + h - 1
    if (onRow y ∨ onRow (y + h - 1) ∨ onCol x ∨ onCol (x + w - 1)) ∧
        (i : Int) < mcDashWidth * mcDashHeight then color
    else fb i

/-- Draw a bordered bar with a green fill, `draw_bar`. -/
def drawBar (fb : Framebuffer) (x y w h : Int) (value maxVal : UInt8) (bg : UInt16) :
    Framebuffer :=
  let fb := drawBorder fb x y w h mcDashWhite
  if maxVal = 0 then fb
  else
    let innerW := w - 2
    let innerH := h - 2
    if innerW ≤ 0 ∨ innerH ≤ 0 then fb
    else
      let fillW := min ((innerW * value.toNat).tdiv maxVal.toNat) innerW
      let fb := fillRect fb (x + 1) (y + 1) innerW innerH bg
      fillRect fb (x + 1) (y + 1) fillW innerH mcDashGreen

/-- Size of a digit cell and width of a stroke. -/
def digitW : Int := 30
/-- The height of a digit cell. -/
def digitH : Int := 46
/-- The width of a stroke. -/
def stroke : Int := 8

/-- A segment within a digit cell, `seg_t`. -/
structure Seg where
  /-- Left edge. -/
  x : Int
  /-- Upper edge. -/
  y : Int
  /-- Width. -/
  w : Int
  /-- Height. -/
  h : Int
  deriving DecidableEq

/-- The seven segments with their bits in a digit's mask. -/
def segments : List (UInt8 × Seg) :=
  [(0x40, ⟨1, 0, 28, 8⟩), (0x20, ⟨22, 1, 8, 18⟩), (0x10, ⟨22, 20, 8, 18⟩),
    (0x08, ⟨1, 38, 28, 8⟩), (0x04, ⟨0, 20, 8, 18⟩), (0x02, ⟨0, 1, 8, 18⟩),
    (0x01, ⟨1, 19, 28, 8⟩)]

/-- The segments of the digits, `DIGIT_SEGS`. -/
def digitSegs : List UInt8 := [0x7E, 0x30, 0x6D, 0x79, 0x33, 0x5B, 0x5F, 0x70, 0x7F, 0x7B]

/-- Draw a segment, `draw_seg`. -/
def drawSeg (fb : Framebuffer) (baseX baseY : Int) (s : Seg) (color : UInt16) : Framebuffer :=
  fillRect fb (baseX + s.x) (baseY + s.y) s.w s.h color

/-- Draw a digit; a number above nine is not drawn, `draw_digit`. -/
def drawDigit (fb : Framebuffer) (x y : Int) (d : Nat) (color : UInt16) : Framebuffer :=
  match digitSegs[d]? with
  | none => fb
  | some mask => segments.foldl
      (fun fb seg => if mask &&& seg.1 ≠ 0 then drawSeg fb x y seg.2 color else fb) fb

/-- The digits of a positive number, lowest first and not more than the given number. -/
def digitsUpTo : Nat → Int → List Nat
  | 0, _ => []
  | n + 1, v => if 0 < v then (v % 10).toNat :: digitsUpTo n (v / 10) else []

/-- The digits drawn for a number, highest first; the digit buffer holds seven. -/
def numberDigits (value : Int) : List Nat :=
  if value = 0 then [0] else (digitsUpTo 7 value).reverse

/-- Draw a number right-aligned in a cleared region, `draw_number`. -/
def drawNumber (fb : Framebuffer) (rx ry rw rh value : Int) (color bg : UInt16) : Framebuffer :=
  let digits := numberDigits value
  let startX := rx + rw - digits.length * digitW
  let startY := ry + (rh - digitH).tdiv 2
  let fb := fillRect fb rx ry rw rh bg
  digits.zipIdx.foldl
    (fun fb d => drawDigit fb (startX + d.2 * digitW) startY d.1 color) fb

/-- Draw a minus sign at the left of a region, `draw_minus`. -/
def drawMinus (fb : Framebuffer) (rx ry rw rh : Int) (color bg : UInt16) : Framebuffer :=
  let barW := 18
  let barX := rx + 2
  let barY := ry + (rh - stroke).tdiv 2
  let fb := fillRect fb barX barY barW stroke color
  if barX + barW < rx + rw then fillRect fb (barX + barW) ry (rx + rw - barX - barW) rh bg
  else fb

/-- The rendered state, `mc_dash_state_t`. -/
structure McDashState where
  /-- Vehicle mode. -/
  mode : McVehicleMode
  /-- Mode of the last rendered picture. -/
  prevMode : McVehicleMode
  /-- Page, 0 or 1. -/
  page : UInt8
  /-- Background colour. -/
  bgColor : UInt16
  /-- Speed in kilometres per hour. -/
  speedKmh : UInt8
  /-- Torque in percent. -/
  torquePercent : Int8
  /-- State of charge in percent. -/
  socPercent : UInt8
  /-- Current in half amperes. -/
  currentAX2 : UInt8
  /-- Progress of an update in percent. -/
  otaProgress : UInt8
  deriving DecidableEq

/-- The mode before the first mode message, `MC_DASH_MODE_UNSET`. -/
def mcDashModeUnset : McVehicleMode := .ofByte 0xFF

/-- The state at boot, `mc_dash_init`. -/
def mcDashInit : McDashState where
  mode := mcDashModeUnset
  prevMode := mcDashModeUnset
  page := 0
  bgColor := 0
  speedKmh := 0
  torquePercent := 0
  socPercent := 0
  currentAX2 := 0
  otaProgress := 0

/-- Store a mode and its background, `mc_dash_set_mode`. -/
def mcDashSetMode (ds : McDashState) (mode : McVehicleMode) : McDashState :=
  { ds with
    mode := mode
    bgColor := match mode with
      | .ready => 0x0010
      | .drive => 0x0200
      | .limp => 0xFD20
      | .fault => 0x7800
      | .charging => 0x4010
      | .otaUpdate => 0x0008
      | .off | .service | .transportMode | .raw _ _ => 0x0000 }

/-- Draw the status bar. -/
def drawStatusBar (fb : Framebuffer) (color : UInt16) : Framebuffer :=
  fillRect (drawBorder fb 0 0 320 40 mcDashWhite) 1 1 318 38 color

/-- Draw the speed. -/
def drawSpeed (ds : McDashState) (fb : Framebuffer) : Framebuffer :=
  drawNumber fb 20 70 120 80 ds.speedKmh.toNat mcDashWhite ds.bgColor

/-- Draw the signed torque. -/
def drawTorque (ds : McDashState) (fb : Framebuffer) : Framebuffer :=
  if ds.torquePercent < 0 then
    let fb := drawMinus fb 180 70 120 80 mcDashWhite ds.bgColor
    drawNumber fb 200 70 100 80 (-ds.torquePercent.toInt) mcDashWhite ds.bgColor
  else
    let fb := fillRect fb 180 70 120 80 ds.bgColor
    drawNumber fb 180 70 120 80 ds.torquePercent.toInt mcDashWhite ds.bgColor

/-- Clear the display when the mode has changed since the last picture. -/
def clearOnModeChange (ds : McDashState) (fb : Framebuffer) : McDashState × Framebuffer :=
  if ds.mode ≠ ds.prevMode then
    ({ ds with prevMode := ds.mode }, fillRect fb 0 0 mcDashWidth mcDashHeight ds.bgColor)
  else (ds, fb)

/-- Draw the picture of a mode; OFF falls through to READY. -/
def drawMode (ds : McDashState) (fb : Framebuffer) : Framebuffer :=
  match ds.mode with
  | .off | .ready =>
    let fb := drawStatusBar fb mcDashGreen
    if ds.page = 0 then drawSpeed ds fb else fb
  | .drive =>
    let fb := drawStatusBar fb mcDashGreen
    if ds.page = 0 then drawTorque ds (drawSpeed ds fb) else fb
  | .limp =>
    let fb := drawStatusBar fb mcDashAmber
    if ds.page = 0 then drawTorque ds (drawSpeed ds fb) else fb
  | .fault => fillRect (drawBorder fb 0 170 320 70 mcDashWhite) 1 171 318 68 mcDashRed
  | .charging =>
    if ds.page = 0 then
      let fb := drawBar fb 20 90 280 24 ds.socPercent 100 ds.bgColor
      drawBar fb 20 140 280 24 ds.currentAX2 100 ds.bgColor
    else fb
  | .otaUpdate => drawBar fb 20 110 280 24 ds.otaProgress 100 ds.bgColor
  | .service | .transportMode | .raw _ _ => fb

/-- Render the state into the framebuffer, `mc_dash_render`. -/
def mcDashRender (ds : McDashState) (fb : Framebuffer) : McDashState × Framebuffer :=
  let (ds, fb) := clearOnModeChange ds fb
  if ds.mode = mcDashModeUnset then
    let fb := fillRect fb 0 0 mcDashWidth mcDashHeight mcDashBlack
    (ds, fillRect fb 40 108 240 24 mcDashWhite)
  else (ds, drawMode ds fb)

end Microcar.Dashboard
