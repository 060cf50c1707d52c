import GlyphCanvas.Toml.Failure

namespace GlyphCanvas.Toml

/-- A byte range of the input. -/
structure Span where
  start : Nat
  stop : Nat
  deriving DecidableEq, Repr, Inhabited

/-- A scan of the input from a position. -/
def Scan (α : Type) : Type := ByteArray → Nat → Except Failure (α × Nat)

namespace Scan

instance : Monad Scan where
  pure a := fun _ pos => .ok (a, pos)
  bind m f := fun src pos =>
    match m src pos with
    | .ok (a, next) => f a src next
    | .error e => .error e

/-- Runs a scan from a position. -/
def run (m : Scan α) (src : ByteArray) (pos : Nat) : Except Failure (α × Nat) := m src pos

def position : Scan Nat := fun _ pos => .ok (pos, pos)

/-- The byte at the current position, if any, without consuming it. -/
def peek? : Scan (Option UInt8) := fun src pos => .ok (src[pos]?, pos)

/-- The two bytes at the current position, as far as they exist. -/
def peekTwo : Scan (List UInt8) := fun src pos =>
  .ok ((List.range 2).filterMap fun k => src[pos + k]?, pos)

/-- Fails here, with nothing said. -/
def fail : Scan α := fun _ pos => .error { pos }

/-- Fails here with a cause. -/
def failWith (c : Cause) : Scan α := fun _ pos => .error { pos, cause := some c }

/-- Makes every failure of `m` final. -/
def cut (m : Scan α) : Scan α := fun src pos =>
  match m src pos with
  | .error e => .error { e with cut := true }
  | ok => ok

/-- Adds a context to every failure of `m`. -/
def context (c : Context) (m : Scan α) : Scan α := fun src pos =>
  match m src pos with
  | .error e => .error { e with contexts := e.contexts ++ [c] }
  | ok => ok

/-- Labels the construct that `m` reads. -/
def label (s : String) (m : Scan α) : Scan α := context (.label s) m

/-- Records what was expected where `m` fails. -/
def expecting (e : Expected) (m : Scan α) : Scan α := context (.expected e) m

/-- `m`, or nothing from where it began when it fails without a cut. -/
def opt (m : Scan α) : Scan (Option α) := fun src pos =>
  match m src pos with
  | .ok (a, next) => .ok (some a, next)
  | .error e => if e.cut then .error e else .ok (none, pos)

/-- The first of the scans that succeeds, each tried from the same start; when all fail
without a cut, the last failure. -/
def firstOf : List (Scan α) → Scan α
  | [] => fail
  | [m] => m
  | m :: ms => fun src pos =>
    match m src pos with
    | .error e => if e.cut then .error e else firstOf ms src pos
    | ok => ok

/-- Runs `m` and returns to the start, whatever the outcome. -/
def lookahead (m : Scan α) : Scan α := fun src pos =>
  match m src pos with
  | .ok (a, _) => .ok (a, pos)
  | .error e => .error { e with pos }

/-- `m` with the span it consumed. -/
def withSpan (m : Scan α) : Scan (α × Span) := fun src pos =>
  match m src pos with
  | .ok (a, next) => .ok ((a, ⟨pos, next⟩), next)
  | .error e => .error e

/-- The span that `m` consumed. -/
def span (m : Scan α) : Scan Span := do
  let (_, s) ← withSpan m
  pure s

/-- `m`, then a check of its result; when the check fails, a failure with that cause at the
start. -/
def tryMap (m : Scan α) (f : α → Except Cause β) : Scan β := fun src pos =>
  match m src pos with
  | .ok (a, next) =>
    match f a with
    | .ok b => .ok (b, next)
    | .error c => .error { pos, cause := some c }
  | .error e => .error e

/-- `m`, then a test of its result; when the test fails, a failure at the start. -/
def verify (m : Scan α) (p : α → Bool) : Scan α := fun src pos =>
  match m src pos with
  | .ok (a, next) => if p a then .ok (a, next) else .error { pos }
  | .error e => .error e

/-- `m`, whose failures are reported from where it began. -/
def fromStart (m : Scan α) : Scan α := fun src pos =>
  match m src pos with
  | .error e => .error { e with pos }
  | ok => ok

/-- Repeats `m` while it succeeds, at most `fuel` times; a failure without a cut ends the
repetition where that attempt began. An attempt that consumes nothing ends it too. -/
def repeatFuel (m : Scan α) : Nat → Scan (List α)
  | 0 => pure []
  | fuel + 1 => fun src pos =>
    match m src pos with
    | .ok (a, next) =>
      if next ≤ pos then .ok ([a], next)
      else
        match repeatFuel m fuel src next with
        | .ok (as, last) => .ok (a :: as, last)
        | .error e => .error e
    | .error e => if e.cut then .error e else .ok ([], pos)

/-- Repeats `m` while it succeeds. -/
def many (m : Scan α) : Scan (List α) := fun src pos =>
  repeatFuel m (src.size + 1 - pos) src pos

/-- One or more of `m`. -/
def many1 (m : Scan α) : Scan (List α) := do
  let a ← m
  let as ← many m
  pure (a :: as)

/-- One or more of `m` separated by `sep`; a separator or an element after it that fails
without a cut ends the list before that separator. -/
def sepBy1Fuel (m : Scan α) (sep : Scan Unit) : Nat → Scan (List α)
  | 0 => pure []
  | fuel + 1 => fun src pos =>
    match sep src pos with
    | .error e => if e.cut then .error e else .ok ([], pos)
    | .ok (_, afterSep) =>
      match m src afterSep with
      | .error e => if e.cut then .error e else .ok ([], pos)
      | .ok (a, next) =>
        if next ≤ pos then .ok ([a], next)
        else
          match sepBy1Fuel m sep fuel src next with
          | .ok (as, last) => .ok (a :: as, last)
          | .error e => .error e

/-- One or more of `m` separated by `sep`. -/
def sepBy1 (m : Scan α) (sep : Scan Unit) : Scan (List α) := fun src pos =>
  match m src pos with
  | .error e => .error e
  | .ok (a, next) =>
    match sepBy1Fuel m sep (src.size + 1 - next) src next with
    | .ok (as, last) => .ok (a :: as, last)
    | .error e => .error e

/-- Zero or more of `m` separated by `sep`. -/
def sepBy (m : Scan α) (sep : Scan Unit) : Scan (List α) := fun src pos =>
  match sepBy1 m sep src pos with
  | .error e => if e.cut then .error e else .ok ([], pos)
  | ok => ok

/-- One byte that satisfies `p`. -/
def satisfy (p : UInt8 → Bool) : Scan UInt8 := fun src pos =>
  match src[pos]? with
  | some b => if p b then .ok (b, pos + 1) else .error { pos }
  | none => .error { pos }

def byte (b : UInt8) : Scan Unit := do
  let _ ← satisfy (· == b)
  pure ()

/-- The character `c`, which must be ASCII. -/
def char (c : Char) : Scan Unit := byte c.toNat.toUInt8

def anyByte : Scan UInt8 := satisfy fun _ => true

/-- The bytes of `s` in order, consumed only when all of them are there. -/
def literal (s : String) : Scan Unit := fun src pos =>
  let bs := s.toUTF8
  if (List.range bs.size).all fun k => src[pos + k]? == bs[k]? then .ok ((), pos + bs.size)
  else .error { pos }

/-- The length of the run of bytes from `pos` that satisfy `p`, counting at most `fuel`. -/
def runLength (src : ByteArray) (p : UInt8 → Bool) (pos n : Nat) : Nat → Nat
  | 0 => n
  | fuel + 1 =>
    match src[pos + n]? with
    | some b => if p b then runLength src p pos (n + 1) fuel else n
    | none => n

/-- The longest run, of at most `max` bytes, that satisfy `p`; fails without consuming when it
is shorter than `min`. -/
def takeWhile (min max : Nat) (p : UInt8 → Bool) : Scan Span := fun src pos =>
  let n := runLength src p pos 0 (Nat.min (src.size - pos) max)
  if n < min then .error { pos } else .ok (⟨pos, pos + n⟩, pos + n)

/-- The longest run of bytes that satisfy `p`, possibly empty. -/
def takeAll (p : UInt8 → Bool) : Scan Span := fun src pos => takeWhile 0 (src.size - pos) p src pos

/-- A run of at least one byte that satisfies `p`. -/
def takeSome (p : UInt8 → Bool) : Scan Span := fun src pos => takeWhile 1 (src.size - pos) p src pos

/-- The end of the input. -/
def eof : Scan Unit := fun src pos =>
  if pos ≥ src.size then .ok ((), pos) else .error { pos }

end Scan

/-- The text of a span of the input. -/
def Span.text (s : Span) (src : ByteArray) : String :=
  (String.fromUTF8? (src.extract s.start s.stop)).getD ""

end GlyphCanvas.Toml
