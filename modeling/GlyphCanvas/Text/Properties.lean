namespace GlyphCanvas

namespace Unicode

def inRange (c lo hi : Nat) : Bool := lo ≤ c && c ≤ hi

/-- Enclosing marks (general category `Me`). -/
def isEnclosingMark (c : Nat) : Bool :=
  inRange c 0x0488 0x0489 || inRange c 0x1ABE 0x1ABE || inRange c 0x20DD 0x20E0 || inRange c 0x20E2 0x20E4 ||
    inRange c 0xA670 0xA672

/-- Combining marks (general categories `Mn`, `Mc` and `Me`) of the scripts that combine with
Latin, Greek and Cyrillic text. -/
def isMark (c : Nat) : Bool :=
  inRange c 0x0300 0x036F || inRange c 0x0483 0x0489 || inRange c 0x0591 0x05BD || c == 0x05BF ||
    inRange c 0x05C1 0x05C2 || inRange c 0x05C4 0x05C5 || c == 0x05C7 || inRange c 0x0610 0x061A ||
    inRange c 0x064B 0x065F || c == 0x0670 || inRange c 0x06D6 0x06DC || inRange c 0x06DF 0x06E4 ||
    inRange c 0x06E7 0x06E8 || inRange c 0x06EA 0x06ED || inRange c 0x1AB0 0x1ACE ||
    inRange c 0x1DC0 0x1DFF || inRange c 0x20D0 0x20F0 || inRange c 0xFE20 0xFE2F

/-- Non-spacing marks (general category `Mn`). -/
def isNonspacingMark (c : Nat) : Bool := isMark c && !isEnclosingMark c

/-- The canonical combining class of the marks combining with Latin letters (zero elsewhere,
except for the Hebrew and Arabic points, which are placed above or below). -/
def combiningClass (c : Nat) : Nat :=
  if inRange c 0x0300 0x036F then
    if c ≤ 0x0314 then 230
    else if c == 0x0315 || c == 0x031A then 232
    else if inRange c 0x0316 0x0319 then 220
    else if c == 0x031B then 216
    else if inRange c 0x031C 0x0320 then 220
    else if inRange c 0x0321 0x0322 then 202
    else if inRange c 0x0323 0x0326 then 220
    else if inRange c 0x0327 0x0328 then 202
    else if inRange c 0x0329 0x0333 then 220
    else if inRange c 0x0334 0x0338 then 1
    else if inRange c 0x0339 0x033C then 220
    else if inRange c 0x033D 0x0344 then 230
    else if c == 0x0345 then 240
    else if c == 0x0346 then 230
    else if inRange c 0x0347 0x0349 then 220
    else if inRange c 0x034A 0x034C then 230
    else if inRange c 0x034D 0x034E then 220
    else if c == 0x034F then 0
    else if inRange c 0x0350 0x0352 then 230
    else if inRange c 0x0353 0x0356 then 220
    else if c == 0x0357 then 230
    else if c == 0x0358 then 232
    else if inRange c 0x0359 0x035A then 220
    else if c == 0x035B then 230
    else if c == 0x035C || c == 0x035F || c == 0x0362 then 233
    else if inRange c 0x035D 0x035E || inRange c 0x0360 0x0361 then 234
    else 230
  else if inRange c 0x0483 0x0487 || inRange c 0x1DC0 0x1DFF || inRange c 0x20D0 0x20DC ||
      c == 0x20E1 || inRange c 0x20E5 0x20F0 || inRange c 0xFE20 0xFE2F || inRange c 0x1AB0 0x1ABD then 230
  else 0

/-- Default-ignorable code points: format controls, joiners, variation selectors and the like,
which are drawn as nothing. -/
def isDefaultIgnorable (c : Nat) : Bool :=
  c == 0x00AD || c == 0x034F || c == 0x061C || inRange c 0x17B4 0x17B5 || inRange c 0x180B 0x180E ||
    inRange c 0x200B 0x200F || inRange c 0x202A 0x202E || inRange c 0x2060 0x206F ||
    inRange c 0xFE00 0xFE0F || c == 0xFEFF || inRange c 0xFFF0 0xFFF8 || inRange c 0x1D173 0x1D17A ||
    inRange c 0xE0000 0xE0FFF

def zeroWidthNonJoiner : Nat := 0x200C
def zeroWidthJoiner : Nat := 0x200D

/-- Default ignorables that stay in place during substitution, so that lookups see them. -/
def isHiddenIgnorable (c : Nat) : Bool :=
  inRange c 0x180B 0x180D || c == 0x180F || inRange c 0xE0020 0xE007F || c == 0x034F

/-- Space separators (general category `Zs`). -/
def isSpaceSeparator (c : Nat) : Bool :=
  c == 0x20 || c == 0xA0 || c == 0x1680 || inRange c 0x2000 0x200A || c == 0x202F || c == 0x205F ||
    c == 0x3000

/-- How wide a space separator missing from a font is drawn, in terms of the font. -/
inductive SpaceWidth where
  /-- The width of the font's own space. -/
  | space
  /-- A fraction `1/n` of the em. -/
  | emFraction (n : Nat)
  /-- Four eighteenths of the em. -/
  | fourEighteenthsEm
  /-- The width of the font's digits. -/
  | figure
  /-- The width of the font's full stop or comma. -/
  | punctuation
  /-- Half the width of the font's space. -/
  | narrow
  deriving DecidableEq, Repr

/-- The drawn width of a space separator; none for the Ogham space mark, which has ink. -/
def spaceWidth (c : Nat) : Option SpaceWidth :=
  match c with
  | 0x0020 | 0x00A0 => some .space
  | 0x2000 | 0x2002 => some (.emFraction 2)
  | 0x2001 | 0x2003 | 0x3000 => some (.emFraction 1)
  | 0x2004 => some (.emFraction 3)
  | 0x2005 => some (.emFraction 4)
  | 0x2006 => some (.emFraction 6)
  | 0x2007 => some .figure
  | 0x2008 => some .punctuation
  | 0x2009 => some (.emFraction 5)
  | 0x200A => some (.emFraction 16)
  | 0x202F => some .narrow
  | 0x205F => some .fourEighteenthsEm
  | _ => none

/-- Letters (`Lu`, `Ll`, `Lt`, `Lo`) and space separators: the characters that always begin a
grapheme of their own. Covers the alphabetic blocks up to the CJK ideographs. -/
def isLetterOrSpace (c : Nat) : Bool :=
  isSpaceSeparator c || inRange c 0x41 0x5A || inRange c 0x61 0x7A || c == 0xAA || c == 0xBA ||
    inRange c 0xC0 0xD6 || inRange c 0xD8 0xF6 || inRange c 0xF8 0x2AF || inRange c 0x370 0x373 ||
    inRange c 0x386 0x3FF || inRange c 0x400 0x481 || inRange c 0x48A 0x52F || inRange c 0x1E00 0x1FFF ||
    inRange c 0x3040 0x30FF || inRange c 0x3400 0x4DBF || inRange c 0x4E00 0x9FFF || inRange c 0xAC00 0xD7A3

def isRegionalIndicator (c : Nat) : Bool := inRange c 0x1F1E6 0x1F1FF

def isEmojiModifier (c : Nat) : Bool := inRange c 0x1F3FB 0x1F3FF

/-- Pictographs that a zero width joiner glues into one emoji. -/
def isExtendedPictographic (c : Nat) : Bool :=
  c == 0xA9 || c == 0xAE || c == 0x203C || c == 0x2049 || c == 0x2122 || c == 0x2139 ||
    inRange c 0x2194 0x2199 || inRange c 0x21A9 0x21AA || inRange c 0x231A 0x231B || c == 0x2328 ||
    c == 0x23CF || inRange c 0x23E9 0x23F3 || inRange c 0x23F8 0x23FA || c == 0x24C2 ||
    inRange c 0x25AA 0x25AB || c == 0x25B6 || c == 0x25C0 || inRange c 0x25FB 0x25FE ||
    inRange c 0x2600 0x27BF || inRange c 0x2934 0x2935 || inRange c 0x2B05 0x2B07 ||
    inRange c 0x2B1B 0x2B1C || c == 0x2B50 || c == 0x2B55 || c == 0x3030 || c == 0x303D ||
    c == 0x3297 || c == 0x3299 || (inRange c 0x1F000 0x1FAFF && !isRegionalIndicator c && !isEmojiModifier c) ||
    inRange c 0x1FC00 0x1FFFD

/-- Canonical decompositions `(composite, base, mark)`. -/
def decompositions : List (Nat × Nat × Nat) :=
  let latin1 : List (Nat × Nat × Nat) := [
    (0xC0, 0x41, 0x300), (0xC1, 0x41, 0x301), (0xC2, 0x41, 0x302), (0xC3, 0x41, 0x303),
    (0xC4, 0x41, 0x308), (0xC5, 0x41, 0x30A), (0xC7, 0x43, 0x327), (0xC8, 0x45, 0x300),
    (0xC9, 0x45, 0x301), (0xCA, 0x45, 0x302), (0xCB, 0x45, 0x308), (0xCC, 0x49, 0x300),
    (0xCD, 0x49, 0x301), (0xCE, 0x49, 0x302), (0xCF, 0x49, 0x308), (0xD1, 0x4E, 0x303),
    (0xD2, 0x4F, 0x300), (0xD3, 0x4F, 0x301), (0xD4, 0x4F, 0x302), (0xD5, 0x4F, 0x303),
    (0xD6, 0x4F, 0x308), (0xD9, 0x55, 0x300), (0xDA, 0x55, 0x301), (0xDB, 0x55, 0x302),
    (0xDC, 0x55, 0x308), (0xDD, 0x59, 0x301)]
  let lower := latin1.map fun (c, b, m) => (c + 0x20, b + 0x20, m)
  let extA : List (Nat × Nat × Nat) := [
    (0x100, 0x41, 0x304), (0x102, 0x41, 0x306), (0x104, 0x41, 0x328), (0x106, 0x43, 0x301),
    (0x108, 0x43, 0x302), (0x10A, 0x43, 0x307), (0x10C, 0x43, 0x30C), (0x10E, 0x44, 0x30C),
    (0x112, 0x45, 0x304), (0x114, 0x45, 0x306), (0x116, 0x45, 0x307), (0x118, 0x45, 0x328),
    (0x11A, 0x45, 0x30C), (0x11C, 0x47, 0x302), (0x11E, 0x47, 0x306), (0x120, 0x47, 0x307),
    (0x122, 0x47, 0x327), (0x124, 0x48, 0x302), (0x128, 0x49, 0x303), (0x12A, 0x49, 0x304),
    (0x12C, 0x49, 0x306), (0x12E, 0x49, 0x328), (0x134, 0x4A, 0x302), (0x136, 0x4B, 0x327),
    (0x14C, 0x4F, 0x304), (0x14E, 0x4F, 0x306), (0x150, 0x4F, 0x30B), (0x154, 0x52, 0x301),
    (0x156, 0x52, 0x327), (0x158, 0x52, 0x30C), (0x15A, 0x53, 0x301), (0x15C, 0x53, 0x302),
    (0x15E, 0x53, 0x327), (0x160, 0x53, 0x30C), (0x162, 0x54, 0x327), (0x164, 0x54, 0x30C),
    (0x168, 0x55, 0x303), (0x16A, 0x55, 0x304), (0x16C, 0x55, 0x306), (0x16E, 0x55, 0x30A),
    (0x170, 0x55, 0x30B), (0x172, 0x55, 0x328), (0x174, 0x57, 0x302), (0x176, 0x59, 0x302)]
  let extALower := extA.map fun (c, b, m) => (c + 1, b + 0x20, m)
  let oddPairs : List (Nat × Nat × Nat) := [
    (0x139, 0x4C, 0x301), (0x13B, 0x4C, 0x327), (0x13D, 0x4C, 0x30C), (0x143, 0x4E, 0x301),
    (0x145, 0x4E, 0x327), (0x147, 0x4E, 0x30C), (0x179, 0x5A, 0x301), (0x17B, 0x5A, 0x307),
    (0x17D, 0x5A, 0x30C)]
  let oddLower := oddPairs.map fun (c, b, m) => (c + 1, b + 0x20, m)
  latin1 ++ lower ++ [(0xFF, 0x79, 0x308)] ++ extA ++ extALower ++ [(0x130, 0x49, 0x307), (0x178, 0x59, 0x308)] ++
    oddPairs ++ oddLower

/-- The canonical decomposition of a character into a base and a mark. -/
def decompose (c : Nat) : Option (Nat × Nat) :=
  (decompositions.find? fun (x, _, _) => x == c).map fun (_, b, m) => (b, m)

/-- The precomposed character of a base and a mark. -/
def compose (base mark : Nat) : Option Nat :=
  (decompositions.find? fun (_, b, m) => b == base && m == mark).map fun (c, _, _) => c

end Unicode

end GlyphCanvas
