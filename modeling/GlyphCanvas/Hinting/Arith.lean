namespace GlyphCanvas.Hinting

/-- `a * b / 65536`, rounded half away from zero. -/
def mulFix (a b : Int) : Int :=
  let c : Int := (a.natAbs * b.natAbs + 0x8000) / 0x10000
  if (a < 0) != (b < 0) then -c else c

/-- `a * 65536 / b`, rounded half away from zero. -/
def divFix (a b : Int) : Int :=
  let q : Int := if b = 0 then 0x7FFFFFFF else (a.natAbs * 0x10000 + b.natAbs / 2) / b.natAbs
  if (a < 0) != (b < 0) then -q else q

/-- `a * b / c`, rounded half away from zero. -/
def mulDiv (a b c : Int) : Int :=
  let d : Int := if c = 0 then 0x7FFFFFFF else (a.natAbs * b.natAbs + c.natAbs / 2) / c.natAbs
  if ((a < 0) != (b < 0)) != (c < 0) then -d else d

def tdiv (a b : Int) : Int := a.tdiv b

/-- The pixel boundary at or below a position. -/
def pixFloor (x : Int) : Int := x / 64 * 64

/-- The nearest pixel boundary, halves rounding up. -/
def pixRound (x : Int) : Int := pixFloor (x + 32)

/-- A vector length estimate: the longer leg plus three eighths of the shorter one. -/
def hypot (x y : Int) : Int :=
  let x := x.natAbs
  let y := y.natAbs
  if x > y then x + 3 * y / 8 else y + 3 * x / 8

/-- Whether the corner between an incoming and an outgoing vector is nearly straight: the two
legs together exceed the direct distance by less than a sixteenth of it. -/
def cornerIsFlat (inX inY outX outY : Int) : Bool :=
  let dIn := hypot inX inY
  let dOut := hypot outX outY
  let dHyp := hypot (inX + outX) (inY + outY)
  dIn + dOut - dHyp < dHyp / 16

end GlyphCanvas.Hinting
