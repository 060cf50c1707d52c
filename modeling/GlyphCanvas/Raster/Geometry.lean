import GlyphCanvas.Geometry.Bounds
import GlyphCanvas.Float.Binary64

namespace GlyphCanvas

namespace Point

def zero : Point := ⟨0, 0⟩

instance : Add Point := ⟨fun a b => ⟨a.x + b.x, a.y + b.y⟩⟩
instance : Sub Point := ⟨fun a b => ⟨a.x - b.x, a.y - b.y⟩⟩
instance : Neg Point := ⟨fun a => ⟨-a.x, -a.y⟩⟩

/-- Both coordinates times a factor. -/
def scale (p : Point) (k : Binary32) : Point := ⟨p.x * k, p.y * k⟩

def dot (a b : Point) : Binary32 := a.x * b.x + a.y * b.y
def cross (a b : Point) : Binary32 := a.x * b.y - a.y * b.x
def lengthSqd (p : Point) : Binary32 := p.dot p

/-- Squared distance between two points. -/
def distanceSqd (a b : Point) : Binary32 := (b - a).lengthSqd

def isFinite (p : Point) : Bool := p.x.isFinite && p.y.isFinite

/-- Coordinates compare equal as values (`-0 = +0`, NaN equals nothing). -/
def eqv (a b : Point) : Bool := a.x.eqv b.x && a.y.eqv b.y

/-- Nonzero and finite: a direction can be taken from it. -/
def canNormalize (p : Point) : Bool := p.x.isFinite && p.y.isFinite && !(p.x.eqv 0 && p.y.eqv 0)

/-- A quarter turn counterclockwise in device space (y down): `(x, y) ↦ (y, -x)`. -/
def rotateCCW (p : Point) : Point := ⟨p.y, -p.x⟩

/-- A quarter turn clockwise: `(x, y) ↦ (-y, x)`. -/
def rotateCW (p : Point) : Point := ⟨-p.y, p.x⟩

/-- Rescales to a given length. The magnitude and the factor are taken in double precision so
that very long vectors do not overflow; a zero or non-finite result fails. -/
def setLength (p : Point) (len : Binary32) : Option Point :=
  let xx := p.x.toBinary64
  let yy := p.y.toBinary64
  let dmag := (xx * xx + yy * yy).sqrt
  let dscale := (len.toBinary64 / dmag).toBinary32
  let x := p.x * dscale
  let y := p.y * dscale
  if !x.isFinite || !y.isFinite || (x.eqv 0 && y.eqv 0) then none else some ⟨x, y⟩

/-- The unit vector in the direction of `(x, y)`. -/
def normalize? (x y : Binary32) : Option Point := setLength ⟨x, y⟩ 1

/-- `|a - b| ≤ tol` in both coordinates. -/
def equalsWithinTolerance (a b : Point) (tol : Binary32) : Bool :=
  (a.x - b.x).abs ≤ tol && (a.y - b.y).abs ≤ tol

end Point

/-- Values this close to zero count as zero: `1/4096`. -/
def nearlyZero : Binary32 := 0.000244140625

def Binary32.isNearlyZero (x : Binary32) : Bool := x.abs ≤ nearlyZero

def Binary32.half (x : Binary32) : Binary32 := x * 0.5

/-- The mean of two values. -/
def Binary32.ave (a b : Binary32) : Binary32 := (a + b) * 0.5

/-- `√2 / 2` in single precision. -/
def rootTwoOverTwo : Binary32 := 0.707106781

end GlyphCanvas
