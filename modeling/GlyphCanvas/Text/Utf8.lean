namespace GlyphCanvas

namespace Utf8

/-- The octets a sequence takes, read off its lead octet alone. -/
def sequenceLength (lead : UInt8) : Nat :=
  if lead ≥ 0xF0 then 4 else if lead ≥ 0xE0 then 3 else if lead ≥ 0x80 then 2 else 1

/-- UTF-16 units of a sequence of `len` octets: only four-octet sequences need a surrogate pair. -/
def codeUnitWidth (len : Nat) : Nat := if len < 4 then 1 else 2

/-- One step of the caret walk: the octets and UTF-16 units of the sequence a lead opens. -/
structure Step where
  bytes : Nat
  units : Nat
  deriving DecidableEq, Repr

/-- The step a lead octet opens. -/
def step (lead : UInt8) : Step := ⟨sequenceLength lead, codeUnitWidth (sequenceLength lead)⟩

theorem step_bytes_pos (lead : UInt8) : 1 ≤ (step lead).bytes := by
  simp only [step, sequenceLength]
  split <;> (try split) <;> (try split) <;> omega

/-- Continuation octets a lead octet owes, with the range its first continuation must lie in;
`none` for an octet that opens no well-formed sequence. -/
def leadNeeds (b : Nat) : Option (Nat × Nat × Nat) :=
  if 0xC2 ≤ b ∧ b ≤ 0xDF then some (1, 0x80, 0xBF)
  else if b = 0xE0 then some (2, 0xA0, 0xBF)
  else if (0xE1 ≤ b ∧ b ≤ 0xEC) ∨ b = 0xEE ∨ b = 0xEF then some (2, 0x80, 0xBF)
  else if b = 0xED then some (2, 0x80, 0x9F)
  else if b = 0xF0 then some (3, 0x90, 0xBF)
  else if 0xF1 ≤ b ∧ b ≤ 0xF3 then some (3, 0x80, 0xBF)
  else if b = 0xF4 then some (3, 0x80, 0x8F)
  else none

/-- How many of the `n` continuation octets owed are present at the front of `bs`: the first
must lie in `[lo, hi]`, the others in `[0x80, 0xBF]`. -/
def tailsPresent : Nat → Nat → Nat → List UInt8 → Nat
  | 0, _, _, _ => 0
  | _ + 1, _, _, [] => 0
  | n + 1, lo, hi, b :: bs =>
    if lo ≤ b.toNat ∧ b.toNat ≤ hi then tailsPresent n 0x80 0xBF bs + 1 else 0

theorem tailsPresent_le (n lo hi : Nat) (bs : List UInt8) : tailsPresent n lo hi bs ≤ n := by
  induction n generalizing lo hi bs with
  | zero => simp [tailsPresent]
  | succ n ih =>
    cases bs with
    | nil => simp [tailsPresent]
    | cons b bs =>
      simp only [tailsPresent]
      split
      · have := ih 0x80 0xBF bs; omega
      · omega

/-- The scalar value of a lead octet and its continuation octets. -/
def scalarOf (lead : Nat) (tails : List UInt8) : Nat :=
  let init := match tails.length with
    | 1 => lead % 0x20
    | 2 => lead % 0x10
    | _ => lead % 0x08
  tails.foldl (fun acc b => acc * 64 + b.toNat % 64) init

def replacement : Char := '�'

/-- Decodes octets, replacing each maximal ill-formed subsequence by U+FFFD. -/
def decodeLossy : List UInt8 → List Char
  | [] => []
  | b :: rest =>
    if b.toNat < 0x80 then Char.ofNat b.toNat :: decodeLossy rest
    else
      match leadNeeds b.toNat with
      | none => replacement :: decodeLossy rest
      | some (n, lo, hi) =>
        let k := tailsPresent n lo hi rest
        if k = n then Char.ofNat (scalarOf b.toNat (rest.take n)) :: decodeLossy (rest.drop n)
        else replacement :: decodeLossy (rest.drop k)
termination_by bs => bs.length
decreasing_by all_goals (simp only [List.length_cons, List.length_drop]; omega)

/-- The text of a line of octets, ill-formed parts replaced. -/
def textOf (bytes : List UInt8) : String := String.ofList (decodeLossy bytes)

end Utf8

/-- UTF-16 units of a character: two for one outside the basic plane. -/
def charUnits (c : Char) : Nat := if c.val ≥ 0x10000 then 2 else 1

/-- UTF-16 units of a text. -/
def utf16Length (s : String) : Nat := s.toList.foldl (fun n c => n + charUnits c) 0

end GlyphCanvas
