import GlyphCanvas.Layout.Service
import GlyphCanvas.Text.Utf8

namespace GlyphCanvas

/-- One pen position per octet of a line. -/
structure PositionTable where
  positions : List Binary32
  deriving DecidableEq, Repr, Inhabited

namespace PositionTable

def len (t : PositionTable) : Nat := t.positions.length

/-- The position of an octet, if the line has it. -/
def xAt (t : PositionTable) (byte : Nat) : Option Binary32 := t.positions[byte]?

/-- The last position, or `0` for an empty line. -/
def width (t : PositionTable) : Binary32 := t.positions.getLast?.getD 0

/-- Scans the entries from index `i` on, keeping the best offset and its distance. An entry ends
a character when it is the last one or the next one differs from it; such an entry stands for the
offset after it, and wins when strictly nearer. -/
def hitScan (x : Binary32) : List Binary32 → Nat → Nat → Binary32 → Nat
  | [], _, best, _ => best
  | p :: rest, i, best, dist =>
    let ends : Bool := match rest with
      | [] => true
      | n :: _ => !n.eqv p
    if ends && (x - p).abs < dist then hitScan x rest (i + 1) (i + 1) (x - p).abs
    else hitScan x rest (i + 1) best dist

/-- The character boundary nearest to `x`: offset `0` stands at `0`, and ties go to the earlier
offset. NaN never wins, so a NaN `x` gives `0`. -/
def hitTest (t : PositionTable) (x : Binary32) : Nat := hitScan x t.positions 0 0 x.abs

end PositionTable

/-- The caret walk over the octets left, `unit` UTF-16 units in, after position `last`. -/
def walk (layout : ShapedLayout) : List UInt8 → Nat → Binary32 → List Binary32
  | [], _, _ => []
  | b :: bs, unit, last =>
    let s := Utf8.step b
    if unit < layout.codeUnits ∧ s.bytes ≤ bs.length + 1 then
      let x := (layout.cursorToX (unit + s.units)).max last
      List.replicate s.bytes x ++ walk layout ((b :: bs).drop s.bytes) (unit + s.units) x
    else List.replicate (bs.length + 1) last
termination_by bs => bs.length
decreasing_by
  have := Utf8.step_bytes_pos b
  simp; omega

/-- The position table of a line: all zeros for a released font or a line the service cannot
shape, and the walk over the shaped layout otherwise. -/
def measure (line : List UInt8) (font : Option FontParameters) (service : LayoutService)
    (device : DeviceContext) : PositionTable :=
  match line, font with
  | [], _ => ⟨[]⟩
  | _, none => ⟨List.replicate line.length 0⟩
  | _, some params =>
    match service.shape (Utf8.textOf line) params device with
    | none => ⟨List.replicate line.length 0⟩
    | some layout => ⟨walk layout line 0 0⟩

end GlyphCanvas
