import GlyphCanvas.Float.Binary32

namespace GlyphCanvas

structure Point where
  x : Binary32
  y : Binary32
  deriving DecidableEq, Repr, Inhabited

structure Bounds where
  left : Binary32
  top : Binary32
  right : Binary32
  bottom : Binary32
  deriving DecidableEq, Repr, Inhabited

/-- A rectangle with finite edges, `left ≤ right`, `top ≤ bottom` and finite extents. -/
structure Rect where
  left : Binary32
  top : Binary32
  right : Binary32
  bottom : Binary32
  deriving DecidableEq, Repr

namespace Rect

/-- Checks the edges of a rectangle. -/
def ofLTRB (l t r b : Binary32) : Option Rect :=
  if l.isFinite && t.isFinite && r.isFinite && b.isFinite && l ≤ r && t ≤ b &&
      (r - l).isFinite && (b - t).isFinite then some ⟨l, t, r, b⟩
  else none

def width (r : Rect) : Binary32 := r.right - r.left
def height (r : Rect) : Binary32 := r.bottom - r.top

/-- A rectangle by its corner and extents. -/
def ofXYWH (x y w h : Binary32) : Option Rect := ofLTRB x y (x + w) (y + h)

end Rect

namespace Bounds

def ofXYWH (x y w h : Binary32) : Bounds := ⟨x, y, x + w, y + h⟩

def width (b : Bounds) : Binary32 := b.right - b.left
def height (b : Bounds) : Binary32 := b.bottom - b.top

def isEmpty (b : Bounds) : Bool := b.width ≤ 0 || b.height ≤ 0

/-- Moves the right and bottom edges in by one pixel. -/
def insetTrailing (b : Bounds) : Bounds := ⟨b.left, b.top, b.right - 1, b.bottom - 1⟩

/-- The rectangle of non-empty bounds with usable edges. -/
def toRect (b : Bounds) : Option Rect :=
  if b.isEmpty then none else Rect.ofLTRB b.left b.top b.right b.bottom

end Bounds

end GlyphCanvas
