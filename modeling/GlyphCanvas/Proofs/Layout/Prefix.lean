import Mathlib
import GlyphCanvas.Proofs.Layout.Caret

namespace GlyphCanvas

open Binary32 Utf8

theorem decodeLossy_encode_append (cs : List Char) (t : List UInt8) :
    decodeLossy (encode cs ++ t) = cs ++ decodeLossy t := by
  induction cs with
  | nil => rfl
  | cons c cs ih =>
    rw [encode_cons, List.append_assoc, decodeLossy_utf8EncodeChar, ih, List.cons_append]

theorem utf16Length_textOf_encode_append (cs : List Char) (t : List UInt8) :
    utf16Length (textOf (encode cs ++ t)) = units cs + units (decodeLossy t) := by
  rw [utf16Length_eq_units, textOf, String.toList_ofList, decodeLossy_encode_append, units_append]

theorem getLast?_replicate_append_getD {α : Type} {n : Nat} (pos : 0 < n) (x d : α) (ys : List α) :
    (List.replicate n x ++ ys).getLast?.getD d = ys.getLast?.getD x := by
  rw [List.getLast?_append, List.getLast?_replicate, if_neg (by omega)]
  cases ys.getLast? <;> rfl

section Walk

variable (L : ShapedLayout)

theorem walk_encode_append (cs : List Char) (rest : List UInt8) (unit : Nat) (last : Binary32)
    (room : unit + units cs ≤ L.codeUnits) :
    walk L (encode cs ++ rest) unit last =
      walk L (encode cs) unit last ++
        walk L rest (unit + units cs) ((walk L (encode cs) unit last).getLast?.getD last) := by
  induction cs generalizing unit last with
  | nil => simp [walk]
  | cons c cs ih =>
    have units_pos := charUnits_pos c
    rw [units_cons] at room
    rw [encode_cons, List.append_assoc, walk_utf8EncodeChar L c _ unit last (by omega),
      walk_utf8EncodeChar L c _ unit last (by omega), ih _ _ (by omega), List.append_assoc,
      getLast?_replicate_append_getD (Char.utf8Size_pos c), units_cons, Nat.add_assoc]

theorem walk_encode_congr {L₁ L₂ : ShapedLayout} (cs : List Char) (unit : Nat) (last : Binary32)
    (room₁ : unit + units cs ≤ L₁.codeUnits) (room₂ : unit + units cs ≤ L₂.codeUnits)
    (agree : ∀ n ≤ unit + units cs, L₁.cursorToX n = L₂.cursorToX n) :
    walk L₁ (encode cs) unit last = walk L₂ (encode cs) unit last := by
  induction cs generalizing unit last with
  | nil => simp [walk]
  | cons c cs ih =>
    have units_pos := charUnits_pos c
    rw [units_cons] at room₁ room₂ agree
    rw [walk_encode_cons L₁ c cs unit last (by omega), walk_encode_cons L₂ c cs unit last (by omega),
      agree (unit + charUnits c) (by omega),
      ih _ _ (by omega) (by omega) (fun n below => agree n (by omega))]

theorem walk_cut (b : UInt8) (rest : List UInt8) (unit : Nat) (last : Binary32)
    (cut : rest.length + 1 < sequenceLength b) :
    walk L (b :: rest) unit last = List.replicate (rest.length + 1) last := by
  have long : ¬ (step b).bytes ≤ rest.length + 1 := by simp only [step]; omega
  rw [walk]
  exact if_neg fun both => long both.2

end Walk

theorem measure_released (line : List UInt8) (service : LayoutService) (device : DeviceContext) :
    measure line none service device = ⟨List.replicate line.length 0⟩ := by
  cases line <;> rfl

theorem measure_fixed (line : List UInt8) (params : FontParameters) (a : Binary32)
    (device : DeviceContext) :
    measure line (some params) (LayoutService.fixed a) device =
      ⟨walk (FixedAdvance.layout a (utf16Length (textOf line))) line 0 0⟩ := by
  cases line with
  | nil => simp [measure, walk]
  | cons b bs => exact measure_of_shape _ (List.cons_ne_nil b bs) rfl

theorem fixed_cursorToX_of_le {a : Binary32} {N n : Nat} (below : n ≤ N) :
    (FixedAdvance.layout a N).cursorToX n = Binary32.ofNat n * a := by
  simp only [FixedAdvance.layout, Nat.min_eq_left below]

/-- Appending octets to well-formed text, at any advance of the fixed service: the carets of the
text stay where they were, and octets that open a sequence the line cuts off all repeat the text's
width (`0` for empty text). -/
theorem appended_octets_keep_carets (p : String) (t : List UInt8) (a : Binary32)
    (font : Option FontParameters) (device : DeviceContext) :
    (measure (p.toByteArray.data.toList ++ t) font (LayoutService.fixed a) device).positions.take
        p.utf8ByteSize = (measure p.toByteArray.data.toList font (LayoutService.fixed a) device).positions ∧
      ∀ b rest, t = b :: rest → t.length < sequenceLength b →
        (measure (p.toByteArray.data.toList ++ t) font (LayoutService.fixed a) device).positions.drop
          p.utf8ByteSize =
            List.replicate t.length (measure p.toByteArray.data.toList font (LayoutService.fixed a) device).width := by
  have size : p.utf8ByteSize = (encode p.toList).length := by
    rw [← utf8ByteSize_ofList, String.ofList_toList]
  rw [toByteArray_eq_encode, size]
  cases font with
  | none =>
    simp only [measure_released, List.length_append, List.take_replicate, List.drop_replicate,
      PositionTable.width, List.getLast?_replicate]
    refine ⟨by rw [Nat.min_eq_left (Nat.le_add_right _ _)], fun b rest _ _ => ?_⟩
    rw [Nat.add_sub_cancel_left]
    split <;> rfl
  | some params =>
    -- the longer line's layout spans the text's units and agrees with the text's own layout there
    have room : 0 + units p.toList ≤ units p.toList + units (decodeLossy t) := by omega
    have same : walk (FixedAdvance.layout a (units p.toList + units (decodeLossy t))) (encode p.toList) 0 0 =
        walk (FixedAdvance.layout a (units p.toList)) (encode p.toList) 0 0 :=
      walk_encode_congr p.toList 0 0 room (Nat.le_of_eq (Nat.zero_add _)) fun n below => by
        rw [fixed_cursorToX_of_le (by omega), fixed_cursorToX_of_le (by omega)]
    have whole := walk_encode_append (FixedAdvance.layout a (units p.toList + units (decodeLossy t)))
      p.toList t 0 0 room
    rw [measure_fixed, measure_fixed, utf16Length_textOf_encode_append, textOf_encode,
      utf16Length_eq_units, String.toList_ofList, whole, same]
    have length : (walk (FixedAdvance.layout a (units p.toList)) (encode p.toList) 0 0).length =
        (encode p.toList).length := length_walk _ _ 0 0
    refine ⟨List.take_left' length, ?_⟩
    rintro b rest rfl cut
    rw [List.drop_left' length, walk_cut _ b rest _ _ (by simpa using cut)]
    rfl

/-- The octets of a cut-off emoji after `ab` repeat the width of `ab`. -/
theorem cut_emoji_repeats_width :
    [(0xF0 : UInt8), 0x9F].length < sequenceLength 0xF0 ∧
      (measure ("ab".toByteArray.data.toList ++ [0xF0, 0x9F]) (some (FontParameters.new "Reference" 10))
          (LayoutService.fixed 8) default).positions.drop "ab".utf8ByteSize =
        List.replicate 2 (measure "ab".toByteArray.data.toList (some (FontParameters.new "Reference" 10))
          (LayoutService.fixed 8) default).width :=
  ⟨by decide, (appended_octets_keep_carets "ab" [0xF0, 0x9F] 8 _ default).2 0xF0 [0x9F] rfl (by decide)⟩

end GlyphCanvas
