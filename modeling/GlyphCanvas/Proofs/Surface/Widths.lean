import Mathlib
import GlyphCanvas.Surface.Drawing
import GlyphCanvas.Proofs.Layout.Caret

namespace GlyphCanvas

open Binary32 Utf8

theorem PositionTable.width_of_xAt {t : PositionTable} {x : Binary32} (last : t.xAt (t.len - 1) = some x) :
    t.width = x := by
  simp only [xAt, len] at last
  rw [width, List.getLast?_eq_getElem?, last, Option.getD_some]

theorem textOf_toByteArray (s : String) : textOf s.toByteArray.data.toList = s := by
  rw [toByteArray_eq_encode, textOf_encode, String.ofList_toList]

section Table

variable {L : ShapedLayout} {s : String} {params : FontParameters} {service : LayoutService}
  {device : DeviceContext}

theorem measure_of_no_shape {line : List UInt8} (unshaped : service.shape (textOf line) params device = none) :
    measure line (some params) service device = ⟨List.replicate line.length 0⟩ := by
  cases line with
  | nil => rfl
  | cons b bs => simp only [measure, unshaped]

theorem zero_le_lastCaret (L : ShapedLayout) (cs : List Char) : ∀ k, 0 ≤ lastCaret L 0 0 cs k
  | 0 => zero_plus.le_refl
  | k + 1 => le_trans (zero_le_lastCaret L cs k) (le_max_right (not_nan_right (zero_le_lastCaret L cs k)))

theorem width_replicate_zero (n : Nat) : (⟨List.replicate n 0⟩ : PositionTable).width = 0 := by
  rw [PositionTable.width, List.getLast?_replicate]
  split <;> rfl

theorem width_measure_text (shaped : service.shape s params device = some L)
    (room : units s.toList ≤ L.codeUnits) (nonempty : s.toList ≠ []) :
    (measure s.toByteArray.data.toList (some params) service device).width =
      lastCaret L 0 0 s.toList s.toList.length := by
  obtain ⟨cs, c, split⟩ : ∃ cs c, s.toList = cs ++ [c] := by
    rcases List.eq_nil_or_concat s.toList with empty | ⟨cs, c, split⟩
    · exact absurd empty nonempty
    · exact ⟨cs, c, by rw [split, List.concat_eq_append]⟩
  have hc : s.toList[cs.length]? = some c := by simp [split]
  have wide := c.utf8Size_pos
  have last := xAt_measure_text L shaped room hc (j := c.utf8Size - 1) (by omega)
  -- the last octet of the last character is the last entry of the table
  have index : (String.ofList (s.toList.take cs.length)).utf8ByteSize + (c.utf8Size - 1) =
      (measure s.toByteArray.data.toList (some params) service device).len - 1 := by
    rw [measure_len, toByteArray_eq_encode, utf8ByteSize_ofList, split, List.take_left, encode_append,
      List.length_append, encode_cons, encode_nil, List.append_nil, String.length_utf8EncodeChar]
    omega
  have count : s.toList.length = cs.length + 1 := by simp [split]
  rw [index] at last
  rw [PositionTable.width_of_xAt last, count]

end Table

namespace DrawingSurface

variable (surface : DrawingSurface) (devices : Array PaintDevice) {params : FontParameters} {s : String}
  {L : ShapedLayout}

theorem widthText_of_shape (shaped : surface.layout.shape s params (surface.deviceContext devices) = some L) :
    surface.widthText devices (some params) s.toByteArray.data.toList = L.width := by
  simp only [widthText, textWidth, textOf_toByteArray, shaped, Option.map_some, Option.getD_some]

theorem widthText_of_no_shape (unshaped : surface.layout.shape s params (surface.deviceContext devices) = none) :
    surface.widthText devices (some params) s.toByteArray.data.toList = 0 := by
  simp only [widthText, textWidth, textOf_toByteArray, unshaped, Option.map_none, Option.getD_none]

theorem measureWidths_of_no_shape (unshaped : surface.layout.shape s params (surface.deviceContext devices) = none) :
    (surface.measureWidths devices (some params) s.toByteArray.data.toList).width = 0 := by
  rw [measureWidths, measure_of_no_shape (by rwa [textOf_toByteArray]), width_replicate_zero]

theorem widths_of_empty (empty : s.toList = [])
    (shaped : surface.layout.shape s params (surface.deviceContext devices) = some L)
    (span : L.codeUnits = utf16Length s) :
    (surface.measureWidths devices (some params) s.toByteArray.data.toList).width = 0 ∧
      surface.widthText devices (some params) s.toByteArray.data.toList = L.cursorToX 0 := by
  have none : units s.toList = 0 := by rw [empty, units_nil]
  rw [widthText_of_shape surface devices shaped, ShapedLayout.width, span, utf16Length_eq_units, none]
  rw [measureWidths, toByteArray_eq_encode, empty, encode_nil]
  exact ⟨rfl, rfl⟩

theorem widths_of_nonempty (nonempty : s.toList ≠ [])
    (shaped : surface.layout.shape s params (surface.deviceContext devices) = some L)
    (span : L.codeUnits = utf16Length s) :
    (surface.measureWidths devices (some params) s.toByteArray.data.toList).width =
        lastCaret L 0 0 s.toList s.toList.length ∧
      surface.widthText devices (some params) s.toByteArray.data.toList = L.cursorToX (units s.toList) := by
  rw [utf16Length_eq_units] at span
  rw [widthText_of_shape surface devices shaped, ShapedLayout.width, span]
  exact ⟨width_measure_text shaped span.ge nonempty, rfl⟩

theorem widths_eqv_of_growing (shaped : surface.layout.shape s params (surface.deviceContext devices) = some L)
    (span : L.codeUnits = utf16Length s) (origin : (L.cursorToX 0).eqv 0 = true)
    (grows : ∀ k < s.length, L.cursorToX (utf16Length (String.ofList (s.toList.take k))) ≤
      L.cursorToX (utf16Length (String.ofList (s.toList.take (k + 1))))) :
    (surface.measureWidths devices (some params) s.toByteArray.data.toList).width.eqv
      (surface.widthText devices (some params) s.toByteArray.data.toList) = true := by
  by_cases empty : s.toList = []
  · obtain ⟨table, text⟩ := surface.widths_of_empty devices empty shaped span
    rw [table, text]
    exact eqv_symm origin
  obtain ⟨table, text⟩ := surface.widths_of_nonempty devices empty shaped span
  have carets : ∀ k < s.toList.length, L.cursorToX (units (s.toList.take k)) ≤
      L.cursorToX (units (s.toList.take (k + 1))) := by
    intro k inside
    have step := grows k (by rwa [← String.length_toList])
    rwa [utf16Length_eq_units, utf16Length_eq_units, String.toList_ofList, String.toList_ofList] at step
  have first : 0 ≤ L.cursorToX (units (s.toList.take 1)) :=
    le_of_eqv_of_le (eqv_symm origin) (carets 0 (List.length_pos_iff.2 empty))
  have inside : s.toList.length - 1 < s.toList.length := by
    have := List.length_pos_iff.2 empty
    omega
  -- the carets grow from the origin, so their running maximum is the last of them
  have last := lastCaret_of_growing L (fun m => L.cursorToX (units (s.toList.take m)))
    (fun _ _ => rfl) first (fun m more => carets (m + 1) more) inside
  simp only [Nat.sub_add_cancel (List.length_pos_iff.2 empty), List.take_length] at last
  have above := zero_le_lastCaret L s.toList s.toList.length
  rw [last] at above
  rw [table, text, last]
  exact eqv_self (not_nan_right above)

theorem widths_eqv_of_fixed {a : Binary32} (fixed : surface.layout = LayoutService.fixed a) (ha : 0 ≤ a)
    (finite : a.isFinite = true) (size : s.utf8ByteSize < 2 ^ 64) :
    (surface.measureWidths devices (some params) s.toByteArray.data.toList).width.eqv
      (surface.widthText devices (some params) s.toByteArray.data.toList) = true := by
  have shaped : surface.layout.shape s params (surface.deviceContext devices) =
      some (FixedAdvance.layout a (utf16Length s)) := by
    rw [fixed]
    rfl
  by_cases empty : s.toList = []
  · obtain ⟨table, text⟩ := surface.widths_of_empty devices empty shaped rfl
    rw [table, text]
    change (0 : Binary32).eqv (0 * a) = true
    rcases zero_mul_of_nonneg ha finite with zero | zero
    all_goals rw [zero]; decide
  obtain ⟨table, text⟩ := surface.widths_of_nonempty devices empty shaped rfl
  have count := List.length_pos_iff.2 empty
  have span := (utf16Length_eq_units s).ge
  have small : units s.toList < 2 ^ 64 := by
    have := units_le_length_encode s.toList
    rw [← utf8ByteSize_ofList, String.ofList_toList] at this
    omega
  have last := lastCaret_fixed ha span small (k := s.toList.length - 1) (by omega)
  rw [Nat.sub_add_cancel count, List.take_length] at last
  have above := zero_le_lastCaret (FixedAdvance.layout a (utf16Length s)) s.toList s.toList.length
  rw [table, text, last]
  rw [last] at above
  simp only [FixedAdvance.layout, Nat.min_eq_left span]
  exact eqv_self (not_nan_right above)

end DrawingSurface

/-- The caret a surface gives the last octet of a well-formed line and the width it gives the
line's text are equal: when the service cannot shape the line, when it shapes it into a layout
that spans the line's UTF-16 units, starts at the origin and never moves back from one character
end to the next, and so with the fixed-advance service at any finite advance `a ≥ 0`. -/
theorem last_caret_eqv_text_width (surface : DrawingSurface) (devices : Array PaintDevice)
    (params : FontParameters) (s : String) :
    (surface.layout.shape s params (surface.deviceContext devices) = none →
      (surface.measureWidths devices (some params) s.toByteArray.data.toList).width.eqv
        (surface.widthText devices (some params) s.toByteArray.data.toList) = true) ∧
    (∀ L : ShapedLayout, surface.layout.shape s params (surface.deviceContext devices) = some L →
      L.codeUnits = utf16Length s → (L.cursorToX 0).eqv 0 = true →
      (∀ k < s.length, L.cursorToX (utf16Length (String.ofList (s.toList.take k))) ≤
        L.cursorToX (utf16Length (String.ofList (s.toList.take (k + 1))))) →
      (surface.measureWidths devices (some params) s.toByteArray.data.toList).width.eqv
        (surface.widthText devices (some params) s.toByteArray.data.toList) = true) ∧
    ∀ a : Binary32, surface.layout = LayoutService.fixed a → 0 ≤ a → a.isFinite = true →
      s.utf8ByteSize < 2 ^ 64 →
      (surface.measureWidths devices (some params) s.toByteArray.data.toList).width.eqv
        (surface.widthText devices (some params) s.toByteArray.data.toList) = true := by
  refine ⟨fun unshaped => ?_, fun L shaped span origin grows => surface.widths_eqv_of_growing devices shaped span origin grows,
    fun a fixed ha finite size => surface.widths_eqv_of_fixed devices fixed ha finite size⟩
  rw [surface.measureWidths_of_no_shape devices unshaped, surface.widthText_of_no_shape devices unshaped]
  exact eqv_self zero_plus.not_nan

/-- Eight pixels a unit: the caret after an astral character in the middle of a line and the
width of the line are both four units. -/
theorem fixed_advance_widths_agree :
    (DrawingSurface.new (LayoutService.fixed 8) 96).layout = LayoutService.fixed 8 ∧ (0 : Binary32) ≤ 8 ∧
      (8 : Binary32).isFinite = true ∧ "a😀b".utf8ByteSize < 2 ^ 64 ∧
      ((DrawingSurface.new (LayoutService.fixed 8) 96).measureWidths #[] (some (FontParameters.new "Sans" 12))
        "a😀b".toByteArray.data.toList).width.eqv
        ((DrawingSurface.new (LayoutService.fixed 8) 96).widthText #[] (some (FontParameters.new "Sans" 12))
          "a😀b".toByteArray.data.toList) = true :=
  ⟨rfl, by decide, by decide, by decide,
    (last_caret_eqv_text_width _ #[] _ "a😀b").2.2 8 rfl (by decide) (by decide) (by decide)⟩

/-- A negative advance moves the layout back: the caret after `a` stays at zero while the text is
one unit wide to the left. -/
theorem negative_advance_splits_widths :
    ((DrawingSurface.new (LayoutService.fixed (-1)) 96).measureWidths #[] (some (FontParameters.new "Sans" 12))
        "a".toByteArray.data.toList).width = 0 ∧
      (DrawingSurface.new (LayoutService.fixed (-1)) 96).widthText #[] (some (FontParameters.new "Sans" 12))
        "a".toByteArray.data.toList = -1 ∧
      ((DrawingSurface.new (LayoutService.fixed (-1)) 96).measureWidths #[] (some (FontParameters.new "Sans" 12))
        "a".toByteArray.data.toList).width.eqv
        ((DrawingSurface.new (LayoutService.fixed (-1)) 96).widthText #[] (some (FontParameters.new "Sans" 12))
          "a".toByteArray.data.toList) = false := by
  have shaped : (DrawingSurface.new (LayoutService.fixed (-1)) 96).layout.shape "a" (FontParameters.new "Sans" 12)
      ((DrawingSurface.new (LayoutService.fixed (-1)) 96).deviceContext #[]) =
      some (FixedAdvance.layout (-1) (utf16Length "a")) := rfl
  obtain ⟨table, text⟩ := (DrawingSurface.new (LayoutService.fixed (-1)) 96).widths_of_nonempty #[]
    (by decide) shaped rfl
  rw [table, text]
  decide

end GlyphCanvas
