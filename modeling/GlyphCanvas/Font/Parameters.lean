import GlyphCanvas.Float.Binary32

namespace GlyphCanvas

/-- Whether glyph edges are smoothed. -/
inductive Antialias where
  | none
  | prefer
  | default
  deriving DecidableEq, Repr, Inhabited

/-- A rendering quality, as requested by a caller. -/
inductive FontQuality where
  | default
  | nonAntialiased
  | antialiased
  | lcdOptimized
  deriving DecidableEq, Repr

/-- The antialiasing a quality asks for. -/
def FontQuality.antialias : FontQuality → Antialias
  | .nonAntialiased => .none
  | .antialiased | .lcdOptimized => .prefer
  | .default => .default

/-- Weights above this are bold. -/
def boldThreshold : Nat := 500

/-- Pixels for a size in points at a resolution in dots per inch. -/
def pointsToPixels (points dpi : Binary32) : Binary32 := points * dpi / 72

structure FontParameters where
  family : String
  sizePoints : Binary32
  weight : Nat := 400
  italic : Bool := false
  antialias : Antialias := .default
  deriving DecidableEq, Repr

namespace FontParameters

/-- A request of the given family and size, regular weight, upright, default antialiasing. -/
def new (family : String) (size : Binary32) : FontParameters := ⟨family, size, 400, false, .default⟩

def isBold (p : FontParameters) : Bool := decide (p.weight > boldThreshold)

def pixelSize (p : FontParameters) (dpi : Binary32) : Binary32 := pointsToPixels p.sizePoints dpi

end FontParameters

/-- The part of a request that picks a face: family, boldness and slant. -/
structure FaceKey where
  family : String
  bold : Bool
  italic : Bool
  deriving DecidableEq, Repr

def FaceKey.ofParams (p : FontParameters) : FaceKey := ⟨p.family, p.isBold, p.italic⟩

end GlyphCanvas
