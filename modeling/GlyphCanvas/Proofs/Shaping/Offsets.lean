import Mathlib
import GlyphCanvas.Shaping.Shaper
import GlyphCanvas.Layout.Fixed
import GlyphCanvas.Proofs.Text.Utf8

namespace GlyphCanvas

open Utf8

/-- The UTF-16 offset of every octet of the characters, starting `u` units in. -/
def unitSpread : List Char → Nat → List Nat
  | [], _ => []
  | c :: cs, u => List.replicate c.utf8Size u ++ unitSpread cs (u + charUnits c)

section Spread

theorem length_unitSpread (cs : List Char) (u : Nat) : (unitSpread cs u).length = (encode cs).length := by
  induction cs generalizing u with
  | nil => rfl
  | cons c cs ih =>
    rw [unitSpread, List.length_append, List.length_replicate, ih, encode_cons, List.length_append,
      String.length_utf8EncodeChar]

theorem mem_unitSpread {cs : List Char} {u x : Nat} (member : x ∈ unitSpread cs u) :
    ∃ k < cs.length, x = u + units (cs.take k) := by
  induction cs generalizing u with
  | nil => simp [unitSpread] at member
  | cons c cs ih =>
    rcases List.mem_append.1 member with here | later
    · exact ⟨0, by simp, by simp [List.eq_of_mem_replicate here]⟩
    · obtain ⟨k, inside, rfl⟩ := ih later
      refine ⟨k + 1, by simpa using inside, ?_⟩
      rw [List.take_succ_cons, units_cons, Nat.add_assoc]

theorem unitSpread_sorted (cs : List Char) (u : Nat) : (unitSpread cs u).Pairwise (· ≤ ·) := by
  induction cs generalizing u with
  | nil => exact List.Pairwise.nil
  | cons c cs ih =>
    rw [unitSpread, List.pairwise_append]
    refine ⟨List.pairwise_replicate.2 (Or.inr le_rfl), ih _, ?_⟩
    intro a here b later
    obtain ⟨k, -, rfl⟩ := mem_unitSpread later
    rw [List.eq_of_mem_replicate here]
    omega

theorem getElem?_unitSpread (cs : List Char) (u : Nat) {k : Nat} {c : Char} (hc : cs[k]? = some c)
    {j : Nat} (hj : j < c.utf8Size) :
    (unitSpread cs u)[(encode (cs.take k)).length + j]? = some (u + units (cs.take k)) := by
  induction cs generalizing u k with
  | nil => simp at hc
  | cons d cs ih =>
    cases k with
    | zero =>
      obtain rfl : d = c := by simpa using hc
      rw [List.take_zero, encode_nil, List.length_nil, Nat.zero_add, unitSpread,
        List.getElem?_append_left (by simpa using hj), List.getElem?_replicate, if_pos hj]
      simp
    | succ k =>
      have hc : cs[k]? = some c := by simpa using hc
      rw [List.take_succ_cons, encode_cons, List.length_append, String.length_utf8EncodeChar,
        Nat.add_assoc, unitSpread, List.getElem?_append_right (by simp), List.length_replicate,
        Nat.add_sub_cancel_left, ih (u + charUnits d) hc, units_cons, Nat.add_assoc]

end Spread

section Table

/-- The table `utf16Offsets` describes, in unbounded arithmetic: the offset of every octet, then
the whole length. -/
def unitTable (s : String) : List Nat := unitSpread s.toList 0 ++ [units s.toList]

theorem length_unitSpread_toList (s : String) : (unitSpread s.toList 0).length = s.utf8ByteSize := by
  rw [length_unitSpread, ← utf8ByteSize_ofList, String.ofList_toList]

theorem mem_unitTable {s : String} {x : Nat} (member : x ∈ unitTable s) :
    ∃ k ≤ s.toList.length, x = units (s.toList.take k) := by
  rcases List.mem_append.1 member with spread | last
  · obtain ⟨k, inside, rfl⟩ := mem_unitSpread spread
    exact ⟨k, inside.le, Nat.zero_add _⟩
  · exact ⟨s.toList.length, le_rfl, by rw [List.mem_singleton.1 last, List.take_length]⟩

theorem le_of_mem_unitTable {s : String} {x : Nat} (member : x ∈ unitTable s) : x ≤ units s.toList := by
  obtain ⟨k, -, rfl⟩ := mem_unitTable member
  exact units_take_le _ k

theorem unitTable_sorted (s : String) : (unitTable s).Pairwise (· ≤ ·) := by
  rw [unitTable, List.pairwise_append]
  refine ⟨unitSpread_sorted _ 0, List.pairwise_singleton _ _, ?_⟩
  intro a spread b last
  obtain ⟨k, -, rfl⟩ := mem_unitSpread spread
  rw [List.mem_singleton.1 last, Nat.zero_add]
  exact units_take_le _ k

theorem pushes_toList {α : Type} (n : Nat) (u : α) (offs : Array α) :
    ((List.range n).foldl (fun o _ => o.push u) offs).toList = offs.toList ++ List.replicate n u := by
  induction n with
  | zero => simp
  | succ n ih =>
    rw [List.range_succ, List.foldl_append, List.foldl_cons, List.foldl_nil, Array.toList_push, ih,
      List.replicate_succ', List.append_assoc]

theorem spread_fold {step : Array UInt32 × UInt32 → Char → Array UInt32 × UInt32}
    (spreads : ∀ offs u c,
      step (offs, u) c = ((List.range c.utf8Size).foldl (fun o _ => o.push u) offs, u + (charUnits c).toUInt32))
    (cs : List Char) (offs : Array UInt32) (u : Nat) :
    (cs.foldl step (offs, u.toUInt32)).1.toList = offs.toList ++ (unitSpread cs u).map Nat.toUInt32 ∧
      (cs.foldl step (offs, u.toUInt32)).2 = (u + units cs).toUInt32 := by
  induction cs generalizing offs u with
  | nil => simp [unitSpread]
  | cons c cs ih =>
    have sum : u.toUInt32 + (charUnits c).toUInt32 = (u + charUnits c).toUInt32 := by simp
    obtain ⟨spread, total⟩ := ih ((List.range c.utf8Size).foldl (fun o _ => o.push u.toUInt32) offs)
      (u + charUnits c)
    rw [List.foldl_cons, spreads, sum, spread, total, pushes_toList, unitSpread, List.map_append,
      List.map_replicate, List.append_assoc, units_cons, Nat.add_assoc]
    exact ⟨rfl, rfl⟩

theorem utf16Offsets_toList (s : String) : (utf16Offsets s).toList = (unitTable s).map Nat.toUInt32 := by
  unfold utf16Offsets
  split
  rename_i offsets total folded
  obtain ⟨spread, counted⟩ := folded ▸ spread_fold (by intros; rfl) s.toList #[] 0
  have counted : total = (units s.toList).toUInt32 := by simpa using counted
  rw [Array.toList_push, spread, counted, Array.toList_empty, List.nil_append, unitTable, List.map_append,
    List.map_singleton]

theorem size_utf16Offsets (s : String) : (utf16Offsets s).size = s.utf8ByteSize + 1 := by
  rw [← Array.length_toList, utf16Offsets_toList, List.length_map, unitTable, List.length_append,
    length_unitSpread_toList, List.length_singleton]

section Fits

/- Below `2^32` units in all, no offset wraps, so the words read back as the offsets themselves. -/
variable {s : String} (fits : units s.toList < 2 ^ 32)
include fits

theorem toNat_utf16Offsets : (utf16Offsets s).toList.map UInt32.toNat = unitTable s := by
  rw [utf16Offsets_toList, List.map_map]
  conv_rhs => rw [← List.map_id (unitTable s)]
  refine List.map_congr_left fun x member => ?_
  have small : x < UInt32.size := (le_of_mem_unitTable member).trans_lt fits
  simp only [Function.comp_apply, Nat.toUInt32_eq, UInt32.toNat_ofNat_of_lt' small, id]

theorem getElem?_toNat_utf16Offsets (i : Nat) :
    ((utf16Offsets s)[i]?).map UInt32.toNat = (unitTable s)[i]? := by
  rw [← toNat_utf16Offsets fits, List.getElem?_map, Array.getElem?_toList]

theorem utf16Offsets_sorted : (utf16Offsets s).toList.Pairwise (· ≤ ·) := by
  rw [utf16Offsets_toList, List.pairwise_map]
  refine (unitTable_sorted s).imp_of_mem fun {a b} memberA memberB order => ?_
  have smallA : a < UInt32.size := (le_of_mem_unitTable memberA).trans_lt fits
  have smallB : b < UInt32.size := (le_of_mem_unitTable memberB).trans_lt fits
  rw [UInt32.le_iff_toNat_le, Nat.toUInt32_eq, Nat.toUInt32_eq, UInt32.toNat_ofNat_of_lt' smallA,
    UInt32.toNat_ofNat_of_lt' smallB]
  exact order

theorem getElem?_utf16Offsets {k : Nat} {c : Char} (hc : s.toList[k]? = some c) {j : Nat}
    (hj : j < c.utf8Size) :
    ((utf16Offsets s)[(String.ofList (s.toList.take k)).utf8ByteSize + j]?).map UInt32.toNat =
      some (units (s.toList.take k)) := by
  have spread := getElem?_unitSpread s.toList 0 hc hj
  rw [Nat.zero_add] at spread
  rw [getElem?_toNat_utf16Offsets fits, unitTable, utf8ByteSize_ofList,
    List.getElem?_append_left (List.getElem?_eq_some_iff.1 spread).1, spread]

theorem utf16Offsets_end : ((utf16Offsets s)[s.utf8ByteSize]?).map UInt32.toNat = some (units s.toList) := by
  rw [getElem?_toNat_utf16Offsets fits, unitTable, ← length_unitSpread_toList,
    List.getElem?_append_right le_rfl, Nat.sub_self, List.getElem?_singleton, if_pos rfl]

theorem toNat_getElem!_utf16Offsets {i : Nat} (inside : i ≤ s.utf8ByteSize) :
    ((utf16Offsets s)[i]!).toNat ∈ unitTable s := by
  have bounded : i < (utf16Offsets s).size := by rw [size_utf16Offsets]; omega
  rw [getElem!_pos (utf16Offsets s) i bounded, ← toNat_utf16Offsets fits]
  exact List.mem_map_of_mem (Array.mem_toList_iff.2 (Array.getElem_mem bounded))

theorem clamped_utf16Offsets (b : Nat) :
    ∃ k ≤ s.toList.length, ((utf16Offsets s)[min b s.utf8ByteSize]!).toNat = units (s.toList.take k) :=
  mem_unitTable (toNat_getElem!_utf16Offsets fits (min_le_right b _))

theorem clamped_utf16Offsets_mono {b₁ b₂ : Nat} (order : b₁ ≤ b₂) :
    ((utf16Offsets s)[min b₁ s.utf8ByteSize]!).toNat ≤ ((utf16Offsets s)[min b₂ s.utf8ByteSize]!).toNat := by
  have size := size_utf16Offsets s
  have inside₁ : min b₁ s.utf8ByteSize < (utf16Offsets s).toList.length := by
    rw [Array.length_toList]; omega
  have inside₂ : min b₂ s.utf8ByteSize < (utf16Offsets s).toList.length := by
    rw [Array.length_toList]; omega
  rw [getElem!_pos (utf16Offsets s) _ (by omega), getElem!_pos (utf16Offsets s) _ (by omega),
    ← Array.getElem_toList, ← Array.getElem_toList]
  rcases Nat.lt_or_eq_of_le (min_le_min_right s.utf8ByteSize order) with before | same
  · exact UInt32.le_iff_toNat_le.1 (List.pairwise_iff_getElem.1 (utf16Offsets_sorted fits) _ _ inside₁ inside₂ before)
  · simp only [same, le_refl]

end Fits

end Table

section Run

variable (s : String) (face : FontFace) (shaping : ShapingFace) (size : Binary32)

theorem shapeRun_codeUnits :
    (shapeRun s face shaping size).codeUnits = ((utf16Offsets s)[s.utf8ByteSize]!).toNat := by
  simp only [shapeRun]

theorem shapeRun_clusters :
    (shapeRun s face shaping size).clusters =
      (shaping.shape s).map fun g => ((utf16Offsets s)[min g.cluster s.utf8ByteSize]!).toNat := by
  simp only [shapeRun]

variable {s} (fits : units s.toList < 2 ^ 32)
include fits

theorem shapeRun_codeUnits_eq_units : (shapeRun s face shaping size).codeUnits = units s.toList := by
  have final := utf16Offsets_end fits
  rw [shapeRun_codeUnits, getElem!_def]
  cases entry : (utf16Offsets s)[s.utf8ByteSize]? with
  | none => simp [entry] at final
  | some u => simpa [entry] using final

theorem shapeRun_cluster_start {cluster : Nat} (member : cluster ∈ (shapeRun s face shaping size).clusters) :
    (∃ k ≤ s.toList.length, cluster = units (s.toList.take k)) ∧
      cluster ≤ (shapeRun s face shaping size).codeUnits := by
  rw [shapeRun_clusters] at member
  obtain ⟨g, -, rfl⟩ := List.mem_map.1 member
  obtain ⟨k, inside, start⟩ := clamped_utf16Offsets fits g.cluster
  rw [shapeRun_codeUnits_eq_units face shaping size fits, start]
  exact ⟨⟨k, inside, rfl⟩, units_take_le _ k⟩

theorem shapeRun_clusters_sorted (sorted : ((shaping.shape s).map (·.cluster)).Pairwise (· ≤ ·)) :
    (shapeRun s face shaping size).clusters.Pairwise (· ≤ ·) := by
  rw [shapeRun_clusters, List.pairwise_map]
  rw [List.pairwise_map] at sorted
  exact sorted.imp fun order => clamped_utf16Offsets_mono fits order

end Run

end GlyphCanvas
