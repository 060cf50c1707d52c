import Mathlib
import GlyphCanvas.Text.Utf8

namespace GlyphCanvas

namespace Utf8

theorem utf8Size_cases (c : Char) :
    (c.toNat ≤ 0x7f ∧ c.utf8Size = 1) ∨
    (0x7f < c.toNat ∧ c.toNat ≤ 0x7ff ∧ c.utf8Size = 2) ∨
    (0x7ff < c.toNat ∧ c.toNat ≤ 0xffff ∧ (c.toNat < 0xd800 ∨ 0xdfff < c.toNat) ∧ c.utf8Size = 3) ∨
    (0xffff < c.toNat ∧ c.toNat < 0x110000 ∧ c.utf8Size = 4) := by
  have valid := c.valid
  simp only [UInt32.isValidChar, Nat.isValidChar] at valid
  simp only [Char.utf8Size, UInt32.le_iff_toNat_le, UInt32.toNat_ofNatLT, Char.toNat]
  split_ifs <;> omega

theorem tailsPresent_append {n lo hi : Nat} {tails : List UInt8} (rest : List UInt8)
    (len : tails.length = n) (present : tailsPresent n lo hi tails = n) :
    tailsPresent n lo hi (tails ++ rest) = n := by
  induction tails generalizing n lo hi with
  | nil => subst len; simp [tailsPresent]
  | cons t ts ih =>
    obtain ⟨m, rfl⟩ : ∃ m, n = m + 1 := ⟨ts.length, by simp [← len]⟩
    simp only [tailsPresent, List.cons_append] at present ⊢
    split at present
    · rename_i inRange
      rw [if_pos inRange, ih (by simpa using len) (by omega)]
    · omega

theorem decodeLossy_sequence {b : UInt8} {tails : List UInt8} {n lo hi : Nat} (rest : List UInt8)
    (lead : 0x80 ≤ b.toNat) (needs : leadNeeds b.toNat = some (n, lo, hi)) (len : tails.length = n)
    (present : tailsPresent n lo hi tails = n) :
    decodeLossy (b :: (tails ++ rest)) = Char.ofNat (scalarOf b.toNat tails) :: decodeLossy rest := by
  rw [decodeLossy, if_neg (by omega)]
  simp only [needs, tailsPresent_append rest len present, if_true]
  rw [List.take_append_of_le_length (by omega), List.take_of_length_le (by omega),
    List.drop_append_of_le_length (by omega), List.drop_of_length_le (by omega), List.nil_append]

theorem decodeLossy_ascii (c : Char) (rest : List UInt8) (small : c.toNat ≤ 0x7f) :
    decodeLossy (UInt8.ofNat c.toNat :: rest) = c :: decodeLossy rest := by
  have lead := UInt8.toNat_ofNat_of_lt' (n := c.toNat) (by simp only [UInt8.size]; omega)
  rw [decodeLossy, if_pos (by rw [lead]; omega), lead, Char.ofNat_toNat]

theorem decodeLossy_two (c : Char) (rest : List UInt8) (low : 0x7f < c.toNat) (small : c.toNat ≤ 0x7ff) :
    decodeLossy (UInt8.ofNat (c.toNat / 64 % 32 + 192) :: ([UInt8.ofNat (c.toNat % 64 + 128)] ++ rest)) =
      c :: decodeLossy rest := by
  have lead := UInt8.toNat_ofNat_of_lt' (n := c.toNat / 64 % 32 + 192) (by simp only [UInt8.size]; omega)
  have tail := UInt8.toNat_ofNat_of_lt' (n := c.toNat % 64 + 128) (by simp only [UInt8.size]; omega)
  have needs : leadNeeds (UInt8.ofNat (c.toNat / 64 % 32 + 192)).toNat = some (1, 0x80, 0xBF) := by
    rw [lead]; simp only [leadNeeds]; rw [if_pos (by omega)]
  have present : tailsPresent 1 0x80 0xBF [UInt8.ofNat (c.toNat % 64 + 128)] = 1 := by
    simp only [tailsPresent, tail]
    split_ifs <;> omega
  rw [decodeLossy_sequence (n := 1) rest (by omega) needs rfl present]
  have scalar : scalarOf (c.toNat / 64 % 32 + 192) [UInt8.ofNat (c.toNat % 64 + 128)] = c.toNat := by
    simp only [scalarOf, List.length_singleton, List.foldl_cons, List.foldl_nil, tail]
    omega
  rw [lead, scalar, Char.ofNat_toNat]

theorem leadNeeds_three {b : Nat} (low : 0xE0 ≤ b) (high : b ≤ 0xEF) :
    leadNeeds b = some (2, if b = 0xE0 then 0xA0 else 0x80, if b = 0xED then 0x9F else 0xBF) := by
  have notTwo : ¬ (0xC2 ≤ b ∧ b ≤ 0xDF) := by omega
  simp only [leadNeeds, notTwo, if_false]
  rcases (by omega : b = 0xE0 ∨ b = 0xED ∨ (b ≠ 0xE0 ∧ b ≠ 0xED)) with rfl | rfl | ⟨notE0, notED⟩
  · rfl
  · rfl
  · simp only [notE0, notED, if_false]
    rw [if_pos (by omega)]

theorem decodeLossy_three (c : Char) (rest : List UInt8) (low : 0x7ff < c.toNat) (small : c.toNat ≤ 0xffff)
    (scalar : c.toNat < 0xd800 ∨ 0xdfff < c.toNat) :
    decodeLossy (UInt8.ofNat (c.toNat / 4096 % 16 + 224) ::
      ([UInt8.ofNat (c.toNat / 64 % 64 + 128), UInt8.ofNat (c.toNat % 64 + 128)] ++ rest)) =
      c :: decodeLossy rest := by
  have lead := UInt8.toNat_ofNat_of_lt' (n := c.toNat / 4096 % 16 + 224) (by simp only [UInt8.size]; omega)
  have tail₁ := UInt8.toNat_ofNat_of_lt' (n := c.toNat / 64 % 64 + 128) (by simp only [UInt8.size]; omega)
  have tail₂ := UInt8.toNat_ofNat_of_lt' (n := c.toNat % 64 + 128) (by simp only [UInt8.size]; omega)
  have needs : leadNeeds (UInt8.ofNat (c.toNat / 4096 % 16 + 224)).toNat =
      some (2, if c.toNat / 4096 % 16 + 224 = 0xE0 then 0xA0 else 0x80,
        if c.toNat / 4096 % 16 + 224 = 0xED then 0x9F else 0xBF) := by
    rw [lead]; exact leadNeeds_three (by omega) (by omega)
  have present : tailsPresent 2 (if c.toNat / 4096 % 16 + 224 = 0xE0 then 0xA0 else 0x80)
      (if c.toNat / 4096 % 16 + 224 = 0xED then 0x9F else 0xBF)
      [UInt8.ofNat (c.toNat / 64 % 64 + 128), UInt8.ofNat (c.toNat % 64 + 128)] = 2 := by
    simp only [tailsPresent, tail₁, tail₂]
    split_ifs <;> omega
  rw [decodeLossy_sequence (n := 2) rest (by omega) needs rfl present]
  have scalar : scalarOf (c.toNat / 4096 % 16 + 224)
      [UInt8.ofNat (c.toNat / 64 % 64 + 128), UInt8.ofNat (c.toNat % 64 + 128)] = c.toNat := by
    simp only [scalarOf, List.length_cons, List.length_nil, List.foldl_cons, List.foldl_nil, tail₁, tail₂]
    omega
  rw [lead, scalar, Char.ofNat_toNat]

theorem leadNeeds_four {b : Nat} (low : 0xF0 ≤ b) (high : b ≤ 0xF4) :
    leadNeeds b = some (3, if b = 0xF0 then 0x90 else 0x80, if b = 0xF4 then 0x8F else 0xBF) := by
  have notShorter : ¬ (0xC2 ≤ b ∧ b ≤ 0xDF) ∧ b ≠ 0xE0 ∧ ¬ ((0xE1 ≤ b ∧ b ≤ 0xEC) ∨ b = 0xEE ∨ b = 0xEF) ∧
      b ≠ 0xED := by omega
  simp only [leadNeeds, notShorter, if_false]
  rcases (by omega : b = 0xF0 ∨ b = 0xF4 ∨ (b ≠ 0xF0 ∧ b ≠ 0xF4)) with rfl | rfl | ⟨notF0, notF4⟩
  · rfl
  · rfl
  · simp only [notF0, notF4, if_false]
    rw [if_pos (by omega)]

theorem decodeLossy_four (c : Char) (rest : List UInt8) (low : 0xffff < c.toNat) (small : c.toNat < 0x110000) :
    decodeLossy (UInt8.ofNat (c.toNat / 262144 % 8 + 240) ::
      ([UInt8.ofNat (c.toNat / 4096 % 64 + 128), UInt8.ofNat (c.toNat / 64 % 64 + 128),
        UInt8.ofNat (c.toNat % 64 + 128)] ++ rest)) =
      c :: decodeLossy rest := by
  have lead := UInt8.toNat_ofNat_of_lt' (n := c.toNat / 262144 % 8 + 240) (by simp only [UInt8.size]; omega)
  have tail₁ := UInt8.toNat_ofNat_of_lt' (n := c.toNat / 4096 % 64 + 128) (by simp only [UInt8.size]; omega)
  have tail₂ := UInt8.toNat_ofNat_of_lt' (n := c.toNat / 64 % 64 + 128) (by simp only [UInt8.size]; omega)
  have tail₃ := UInt8.toNat_ofNat_of_lt' (n := c.toNat % 64 + 128) (by simp only [UInt8.size]; omega)
  have needs : leadNeeds (UInt8.ofNat (c.toNat / 262144 % 8 + 240)).toNat =
      some (3, if c.toNat / 262144 % 8 + 240 = 0xF0 then 0x90 else 0x80,
        if c.toNat / 262144 % 8 + 240 = 0xF4 then 0x8F else 0xBF) := by
    rw [lead]; exact leadNeeds_four (by omega) (by omega)
  have present : tailsPresent 3 (if c.toNat / 262144 % 8 + 240 = 0xF0 then 0x90 else 0x80)
      (if c.toNat / 262144 % 8 + 240 = 0xF4 then 0x8F else 0xBF)
      [UInt8.ofNat (c.toNat / 4096 % 64 + 128), UInt8.ofNat (c.toNat / 64 % 64 + 128),
        UInt8.ofNat (c.toNat % 64 + 128)] = 3 := by
    simp only [tailsPresent, tail₁, tail₂, tail₃]
    split_ifs <;> omega
  rw [decodeLossy_sequence (n := 3) rest (by omega) needs rfl present]
  have scalar : scalarOf (c.toNat / 262144 % 8 + 240)
      [UInt8.ofNat (c.toNat / 4096 % 64 + 128), UInt8.ofNat (c.toNat / 64 % 64 + 128),
        UInt8.ofNat (c.toNat % 64 + 128)] = c.toNat := by
    simp only [scalarOf, List.length_cons, List.length_nil, List.foldl_cons, List.foldl_nil, tail₁, tail₂, tail₃]
    omega
  rw [lead, scalar, Char.ofNat_toNat]

theorem decodeLossy_utf8EncodeChar (c : Char) (rest : List UInt8) :
    decodeLossy (String.utf8EncodeChar c ++ rest) = c :: decodeLossy rest := by
  rcases utf8Size_cases c with ⟨small, -⟩ | ⟨low, small, -⟩ | ⟨low, small, scalar, -⟩ | ⟨low, small, -⟩
  all_goals simp only [String.utf8EncodeChar, Char.toNat_val]
  · rw [if_pos small]
    exact decodeLossy_ascii c rest small
  · rw [if_neg (by omega), if_pos small]
    exact decodeLossy_two c rest low small
  · rw [if_neg (by omega), if_neg (by omega), if_pos small]
    exact decodeLossy_three c rest low small scalar
  · rw [if_neg (by omega), if_neg (by omega), if_neg (by omega)]
    exact decodeLossy_four c rest low small

/-- The UTF-8 octets of a list of characters. -/
def encode (cs : List Char) : List UInt8 := cs.flatMap String.utf8EncodeChar

@[simp] theorem encode_nil : encode [] = [] := rfl

@[simp] theorem encode_cons (c : Char) (cs : List Char) :
    encode (c :: cs) = String.utf8EncodeChar c ++ encode cs := rfl

@[simp] theorem encode_append (cs ds : List Char) : encode (cs ++ ds) = encode cs ++ encode ds := by
  simp [encode]

theorem decodeLossy_encode (cs : List Char) : decodeLossy (encode cs) = cs := by
  induction cs with
  | nil => simp [decodeLossy]
  | cons c cs ih => rw [encode_cons, decodeLossy_utf8EncodeChar, ih]

theorem textOf_encode (cs : List Char) : textOf (encode cs) = String.ofList cs := by
  rw [textOf, decodeLossy_encode]

theorem toByteArray_eq_encode (s : String) : s.toByteArray.data.toList = encode s.toList := by
  rw [← String.utf8Encode_toList, List.utf8Encode, List.toList_data_toByteArray]
  rfl

@[simp] theorem length_utf8EncodeChar_pos (c : Char) : 0 < (String.utf8EncodeChar c).length := by
  rw [String.length_utf8EncodeChar]; exact Char.utf8Size_pos c

theorem utf8ByteSize_ofList (cs : List Char) : (String.ofList cs).utf8ByteSize = (encode cs).length := by
  rw [← String.size_toByteArray, String.toByteArray_ofList, List.utf8Encode, List.size_toByteArray]
  rfl

/-- UTF-16 units of a list of characters. -/
def units (cs : List Char) : Nat := (cs.map charUnits).sum

@[simp] theorem units_nil : units [] = 0 := rfl

@[simp] theorem units_cons (c : Char) (cs : List Char) : units (c :: cs) = charUnits c + units cs := by
  simp [units]

@[simp] theorem units_append (cs ds : List Char) : units (cs ++ ds) = units cs + units ds := by
  simp [units]

theorem charUnits_pos (c : Char) : 0 < charUnits c := by
  unfold charUnits; split <;> omega

theorem charUnits_of_toNat (c : Char) : charUnits c = if 0xffff < c.toNat then 2 else 1 := by
  have wide : c.val ≥ 0x10000 ↔ 0xffff < c.toNat := by
    rw [ge_iff_le, UInt32.le_iff_toNat_le, ← Char.toNat_val]
    constructor <;> intro h <;> simp only [UInt32.reduceToNat] at h ⊢ <;> omega
  simp only [charUnits, wide]

theorem charUnits_le_utf8Size (c : Char) : charUnits c ≤ c.utf8Size := by
  rw [charUnits_of_toNat]
  rcases utf8Size_cases c with ⟨small, size⟩ | ⟨-, small, size⟩ | ⟨-, small, -, size⟩ | ⟨big, -, size⟩
  · rw [if_neg (by omega), size]
  · rw [if_neg (by omega), size]; omega
  · rw [if_neg (by omega), size]; omega
  · rw [if_pos big, size]; omega

theorem units_le_length_encode (cs : List Char) : units cs ≤ (encode cs).length := by
  induction cs with
  | nil => simp
  | cons c cs ih =>
    rw [units_cons, encode_cons, List.length_append, String.length_utf8EncodeChar]
    have := charUnits_le_utf8Size c
    omega

theorem units_le_utf8ByteSize (s : String) : units s.toList ≤ s.utf8ByteSize := by
  have bound := units_le_length_encode s.toList
  rwa [← utf8ByteSize_ofList, String.ofList_toList] at bound

theorem units_take_le (cs : List Char) (m : Nat) : units (cs.take m) ≤ units cs := by
  have whole := congrArg units (List.take_append_drop m cs)
  rw [units_append] at whole
  omega

theorem units_take_mono (cs : List Char) {k m : Nat} (order : k ≤ m) :
    units (cs.take k) ≤ units (cs.take m) := by
  have shorter : (cs.take m).take k = cs.take k := by rw [List.take_take, Nat.min_eq_left order]
  rw [← shorter]
  exact units_take_le (cs.take m) k

theorem charUnits_le_two (c : Char) : charUnits c ≤ 2 := by
  unfold charUnits; split <;> omega

theorem units_take_succ {cs : List Char} {k : Nat} {c : Char} (hc : cs[k]? = some c) :
    units (cs.take (k + 1)) = units (cs.take k) + charUnits c := by
  rw [List.take_add_one, hc, Option.toList_some, units_append, units_cons, units_nil, Nat.add_zero]

theorem units_take_succ_pos {cs : List Char} {k : Nat} (inside : k < cs.length) :
    0 < units (cs.take (k + 1)) := by
  cases cs with
  | nil => simp at inside
  | cons c cs =>
    rw [List.take_succ_cons, units_cons]
    have := charUnits_pos c
    omega

theorem utf16Length_eq_units (s : String) : utf16Length s = units s.toList := by
  have shift : ∀ (cs : List Char) (n : Nat), cs.foldl (fun n c => n + charUnits c) n = n + units cs := by
    intro cs
    induction cs with
    | nil => simp
    | cons c cs ih => intro n; simp only [List.foldl_cons, ih, units_cons]; omega
  rw [utf16Length, shift, Nat.zero_add]

theorem step_ofNat {n : Nat} (small : n < 256) :
    step (UInt8.ofNat n) =
      if 0xF0 ≤ n then ⟨4, 2⟩ else if 0xE0 ≤ n then ⟨3, 1⟩ else if 0x80 ≤ n then ⟨2, 1⟩ else ⟨1, 1⟩ := by
  have value := UInt8.toNat_ofNat_of_lt' (n := n) (by simp only [UInt8.size]; omega)
  simp only [step, sequenceLength, codeUnitWidth, ge_iff_le, UInt8.le_iff_toNat_le, value, UInt8.reduceToNat]
  by_cases four : 0xF0 ≤ n
  · simp [four]
  · by_cases three : 0xE0 ≤ n
    · simp [four, three]
    · by_cases two : 0x80 ≤ n
      · simp [four, three, two]
      · simp [four, three, two]

theorem step_utf8EncodeChar (c : Char) :
    (String.utf8EncodeChar c).head?.map step = some ⟨c.utf8Size, charUnits c⟩ := by
  rw [charUnits_of_toNat]
  rcases utf8Size_cases c with ⟨small, size⟩ | ⟨low, small, size⟩ | ⟨low, small, -, size⟩ | ⟨low, small, size⟩
  all_goals simp only [String.utf8EncodeChar, Char.toNat_val, size]
  · rw [if_pos small, List.head?_cons, Option.map_some, step_ofNat (by omega), if_neg (by omega),
      if_neg (by omega), if_neg (by omega), if_neg (by omega)]
  · rw [if_neg (by omega), if_pos small, List.head?_cons, Option.map_some, step_ofNat (by omega),
      if_neg (by omega), if_neg (by omega), if_pos (by omega), if_neg (by omega)]
  · rw [if_neg (by omega), if_neg (by omega), if_pos small, List.head?_cons, Option.map_some,
      step_ofNat (by omega), if_neg (by omega), if_pos (by omega), if_neg (by omega)]
  · rw [if_neg (by omega), if_neg (by omega), if_neg (by omega), List.head?_cons, Option.map_some,
      step_ofNat (by omega), if_pos (by omega), if_pos low]

theorem utf8EncodeChar_lead (c : Char) :
    ∃ b bs, String.utf8EncodeChar c = b :: bs ∧ step b = ⟨c.utf8Size, charUnits c⟩ := by
  have lead := step_utf8EncodeChar c
  cases h : String.utf8EncodeChar c with
  | nil => simp [h] at lead
  | cons b bs =>
    rw [h, List.head?_cons, Option.map_some, Option.some.injEq] at lead
    exact ⟨b, bs, rfl, lead⟩

/-- The octet and UTF-16 offsets the caret walk stands at, stepping by the lead octet of each
sequence from `(byte, unit)` until the octets run out. -/
def leadStops : List UInt8 → Nat → Nat → List (Nat × Nat)
  | [], byte, unit => [(byte, unit)]
  | b :: bs, byte, unit =>
    (byte, unit) :: leadStops ((b :: bs).drop (step b).bytes) (byte + (step b).bytes) (unit + (step b).units)
termination_by bs => bs.length
decreasing_by
  have := step_bytes_pos b
  simp only [List.length_drop, List.length_cons]; omega

theorem leadStops_encode (cs : List Char) (byte unit : Nat) :
    leadStops (encode cs) byte unit =
      (List.range (cs.length + 1)).map fun k => (byte + (encode (cs.take k)).length, unit + units (cs.take k)) := by
  induction cs generalizing byte unit with
  | nil => simp [leadStops]
  | cons c cs ih =>
    obtain ⟨b, bs, encoded, stepped⟩ := utf8EncodeChar_lead c
    have width : (b :: bs).length = c.utf8Size := by rw [← encoded, String.length_utf8EncodeChar]
    rw [encode_cons, encoded, List.cons_append, leadStops, stepped, ← List.cons_append,
      List.drop_left' width, ih]
    conv_rhs => rw [List.length_cons, List.range_succ_eq_map, List.map_cons, List.map_map]
    -- the heads agree by computation; the tails differ only by reassociating the sums
    congr 1
    apply List.map_congr_left
    intro k _
    simp only [Function.comp, List.take_succ_cons, encode_cons, units_cons, List.length_append,
      encoded, width, Prod.mk.injEq]
    omega

end Utf8

end GlyphCanvas
