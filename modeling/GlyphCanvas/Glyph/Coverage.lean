import GlyphCanvas.Font.Outline

namespace GlyphCanvas

/-- Cover and area accumulated per cell over a grid of `width` by `height` cells whose lower
left cell is at `(left, bottom)`. Contributions outside the grid are dropped. -/
structure CellGrid where
  left : Int
  bottom : Int
  width : Nat
  height : Nat
  cover : Array Int
  area : Array Int

namespace CellGrid

def empty (left bottom : Int) (width height : Nat) : CellGrid :=
  ⟨left, bottom, width, height, Array.replicate (width * height) 0, Array.replicate (width * height) 0⟩

/-- Adds to cell `(ex, ey)`. -/
def add (g : CellGrid) (ex ey cover area : Int) : CellGrid :=
  let cx := ex - g.left
  let cy := ey - g.bottom
  if cx < 0 ∨ cy < 0 ∨ cx ≥ g.width ∨ cy ≥ g.height then g
  else
    let i := cx.toNat + g.width * cy.toNat
    { g with cover := g.cover.modify i (· + cover), area := g.area.modify i (· + area) }

end CellGrid

/-- One pixel in 1/256 units. -/
def onePixel : Int := 256

/-- `⌊0xFFFFFFFF / |b|⌋` with the sign of `b`, zero when not needed. -/
def reciprocal (needed : Bool) (b : Int) : Int :=
  if !needed || b = 0 then 0
  else
    let r : Int := 0xFFFFFFFF / b.natAbs
    if b < 0 then -r else r

/-- The quotient by the divisor whose reciprocal is `r`: bits 32 to 63 of the 64-bit product. -/
def reciprocalDiv (a r : Int) : Int :=
  let m : Nat := Nat.pow 2 64
  ((a % m).toNat * (r % m).toNat / Nat.pow 2 32 % Nat.pow 2 32 : Nat)

/-- State of a line walk through the cells: the current cell, the entry point within it and
the exit test value. -/
structure LineWalk where
  ex : Int
  ey : Int
  fx : Int
  fy : Int
  prod : Int

/-- Adds the line from `(x, y)` to `(toX, toY)` to the grid. -/
def CellGrid.line (g : CellGrid) (x y toX toY : Int) : CellGrid :=
  let ex1 := x / onePixel
  let ey1 := y / onePixel
  let ex2 := toX / onePixel
  let ey2 := toY / onePixel
  let fx1 := x % onePixel
  let fy1 := y % onePixel
  let fx2 := toX % onePixel
  let fy2 := toY % onePixel
  let dx := toX - x
  let dy := toY - y
  if ex1 = ex2 ∧ ey1 = ey2 then g.add ex2 ey2 (fy2 - fy1) ((fy2 - fy1) * (fx1 + fx2))
  else if dy = 0 then g
  else if dx = 0 then
    let step : Int := if dy > 0 then 1 else -1
    let (edge, enter) : Int × Int := if dy > 0 then (onePixel, 0) else (0, onePixel)
    let rec vertical : Nat → CellGrid → Int → Int → CellGrid × Int
      | 0, g, _, fy => (g, fy)
      | fuel + 1, g, ey, fy =>
        let g := g.add ex1 ey (edge - fy) ((edge - fy) * fx1 * 2)
        if ey + step = ey2 then (g, enter) else vertical fuel g (ey + step) enter
    let (g, fy) := vertical ((ey2 - ey1).natAbs + 1) g ey1 fy1
    g.add ex2 ey2 (fy2 - fy) ((fy2 - fy) * (fx1 + fx2))
  else
    let dxR := reciprocal (ex1 ≠ ex2) dx
    let dyR := reciprocal (ey1 ≠ ey2) dy
    let rec walk : Nat → CellGrid → LineWalk → CellGrid × LineWalk
      | 0, g, w => (g, w)
      | fuel + 1, g, w =>
        let prod := w.prod
        let (g, w) :=
          if prod - dx * onePixel > 0 ∧ prod ≤ 0 then
            let fy := reciprocalDiv (-prod) (-dxR)
            (g.add w.ex w.ey (fy - w.fy) ((fy - w.fy) * w.fx),
              { ex := w.ex - 1, ey := w.ey, fx := onePixel, fy, prod := prod - dy * onePixel })
          else if prod - dx * onePixel + dy * onePixel > 0 ∧ prod - dx * onePixel ≤ 0 then
            let prod := prod - dx * onePixel
            let fx := reciprocalDiv (-prod) dyR
            (g.add w.ex w.ey (onePixel - w.fy) ((onePixel - w.fy) * (w.fx + fx)),
              { ex := w.ex, ey := w.ey + 1, fx, fy := 0, prod })
          else if prod + dy * onePixel ≥ 0 ∧ prod - dx * onePixel + dy * onePixel ≤ 0 then
            let prod := prod + dy * onePixel
            let fy := reciprocalDiv prod dxR
            (g.add w.ex w.ey (fy - w.fy) ((fy - w.fy) * (w.fx + onePixel)),
              { ex := w.ex + 1, ey := w.ey, fx := 0, fy, prod })
          else
            let fx := reciprocalDiv prod (-dyR)
            (g.add w.ex w.ey (-w.fy) ((-w.fy) * (w.fx + fx)),
              { ex := w.ex, ey := w.ey - 1, fx, fy := onePixel, prod := prod + dx * onePixel })
        if w.ex = ex2 ∧ w.ey = ey2 then (g, w) else walk fuel g w
    let fuel := (ex2 - ex1).natAbs + (ey2 - ey1).natAbs + 1
    let (g, w) := walk fuel g ⟨ex1, ey1, fx1, fy1, dx * fy1 - dy * fx1⟩
    g.add ex2 ey2 (fy2 - w.fy) ((fy2 - w.fy) * (w.fx + fx2))

/-- Adds the quadratic arc from `(x0, y0)` through control `(x1, y1)` to `(x2, y2)`. -/
def CellGrid.conic (g : CellGrid) (x0 y0 x1 y1 x2 y2 : Int) : CellGrid :=
  let bx := x1 - x0
  let by_ := y1 - y0
  let ax := x2 - x1 - bx
  let ay := y2 - y1 - by_
  let dev := max ax.natAbs ay.natAbs
  if dev ≤ 64 then g.line x0 y0 x2 y2
  else
    let rec quarterings : Nat → Nat → Nat → Nat
      | 0, _, k => k
      | fuel + 1, d, k => if d / 4 > 64 then quarterings fuel (d / 4) (k + 1) else k + 1
    let shift := quarterings 32 dev 0
    let rx := ax * Int.pow 2 (33 - 2 * shift)
    let ry := ay * Int.pow 2 (33 - 2 * shift)
    let qx := bx * Int.pow 2 (33 - shift) + ax * Int.pow 2 (32 - 2 * shift)
    let qy := by_ * Int.pow 2 (33 - shift) + ay * Int.pow 2 (32 - 2 * shift)
    let (g, _, _, _, _, lx, ly) := (List.range (Nat.pow 2 shift)).foldl
      (fun (acc : CellGrid × Int × Int × Int × Int × Int × Int) _ =>
        let (g, px, py, qx, qy, lx, ly) := acc
        let px := px + qx
        let py := py + qy
        let nx := px / Int.pow 2 32
        let ny := py / Int.pow 2 32
        (g.line lx ly nx ny, px, py, qx + rx, qy + ry, nx, ny))
      (g, x0 * Int.pow 2 32, y0 * Int.pow 2 32, qx, qy, x0, y0)
    if lx = x2 ∧ ly = y2 then g else g.line lx ly x2 y2

/-- A drawing step of a contour, in the grid's units. -/
inductive PathStep where
  | line (x y : Int)
  | conic (cx cy x y : Int)
  deriving Repr

/-- Midway between two points of an outline, each coordinate truncated. -/
def midpoint (a b : OutlinePoint) : Int × Int :=
  ((a.x + b.x).tdiv 2, (a.y + b.y).tdiv 2)

/-- The start and steps of a closed contour, with implied on-curve points between control
points; coordinates scaled by `k`. -/
def contourPath (contour : Array OutlinePoint) (k : Int) : Int × Int × List PathStep :=
  if contour.isEmpty then (0, 0, [])
  else
    let first := contour[0]!
    let last := contour[contour.size - 1]!
    let (start, rest) : (Int × Int) × List OutlinePoint :=
      if first.onCurve then ((first.x, first.y), contour.toList.drop 1)
      else if last.onCurve then ((last.x, last.y), (contour.toList.take (contour.size - 1)))
      else (midpoint first last, contour.toList)
    let rec steps : List OutlinePoint → Option OutlinePoint → List PathStep
      | [], none => [.line (start.1 * k) (start.2 * k)]
      | [], some ctl => [.conic (ctl.x * k) (ctl.y * k) (start.1 * k) (start.2 * k)]
      | p :: ps, none =>
        if p.onCurve then .line (p.x * k) (p.y * k) :: steps ps none
        else steps ps (some p)
      | p :: ps, some ctl =>
        if p.onCurve then .conic (ctl.x * k) (ctl.y * k) (p.x * k) (p.y * k) :: steps ps none
        else
          let (mx, my) := midpoint ctl p
          .conic (ctl.x * k) (ctl.y * k) (mx * k) (my * k) :: steps ps (some p)
    (start.1 * k, start.2 * k, steps rest none)

/-- Adds a contour to the grid. -/
def CellGrid.contour (g : CellGrid) (c : Array OutlinePoint) (k : Int) : CellGrid :=
  let (sx, sy, steps) := contourPath c k
  let (g, _, _) := steps.foldl (fun (acc : CellGrid × Int × Int) s =>
    let (g, x, y) := acc
    match s with
    | .line tx ty => (g.line x y tx ty, tx, ty)
    | .conic cx cy tx ty => (g.conic x y cx cy tx ty, tx, ty)) (g, sx, sy)
  g

/-- The 0–255 coverage of an accumulated area under the non-zero rule. -/
def areaCoverage (area : Int) : Nat :=
  let c := area / 512
  let c := if c < 0 then -c - 1 else c
  if c ≥ 256 then 255 else c.toNat

/-- The coverage rows of a grid, top row first. -/
def CellGrid.rows (g : CellGrid) : ByteArray :=
  (List.range g.height).foldl (fun out r =>
    let cy := g.height - 1 - r
    let (out, _) := (List.range g.width).foldl (fun (acc : ByteArray × Int) cx =>
      let (out, cover) := acc
      let i := cx + g.width * cy
      let cover := cover + g.cover[i]!
      let area := cover * (2 * onePixel) - g.area[i]!
      (out.push (areaCoverage area).toUInt8, cover)) (out, 0)
    out) ByteArray.empty

end GlyphCanvas
