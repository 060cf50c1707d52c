import Mathlib
import GlyphCanvas.Proofs.Settings.Schema
import GlyphCanvas.Proofs.Float.Widen

namespace GlyphCanvas

open Toml

/-! ### Entries paired with written values -/

section Paired

variable {β : Type} {name : β → String} {R : β → Item → Prop} {entries : List (Key × Item)}
  {written : List β}

theorem lastValue_cons (n : String) (p : String × Item) (l : List (String × Item)) :
    lastValue n (p :: l) = (lastValue n l).or (if p.1 = n then some p.2 else none) := by
  unfold lastValue
  by_cases named : p.1 = n
  · simp only [List.filter_cons, named, beq_self_eq_true, if_true, List.getLast?_cons]
    cases (l.filter (·.1 == n)).getLast? <;> rfl
  · simp [named]

theorem lastValue_eq_none {n : String} {l : List (String × Item)} (absent : n ∉ l.map (·.1)) :
    lastValue n l = none := by
  simp only [lastValue, Option.map_eq_none_iff, List.getLast?_eq_none_iff, List.filter_eq_nil_iff, beq_iff_eq]
  intro p mem same
  exact absent (List.mem_map.2 ⟨p, mem, same⟩)

theorem names_of_forall₂ (paired : List.Forall₂ (fun e w => e.1.name = name w ∧ R w e.2) entries written) :
    (namedValues entries).map (·.1) = written.map name := by
  induction paired with
  | nil => rfl
  | cons head _ ih => simp [namedValues, head.1, ← ih]

theorem lastValue_of_forall₂ (paired : List.Forall₂ (fun e w => e.1.name = name w ∧ R w e.2) entries written)
    (distinct : (written.map name).Nodup) {w : β} (mem : w ∈ written) :
    ∃ v, lastValue (name w) (namedValues entries) = some v ∧ R w v := by
  induction paired with
  | nil => cases mem
  | @cons e w' es ws head tail ih =>
    rw [List.map_cons, List.nodup_cons] at distinct
    simp only [namedValues, List.map_cons, lastValue_cons]
    rcases List.mem_cons.1 mem with rfl | later
    · -- the head's name occurs in no later entry
      have absent : lastValue (name w) (namedValues es) = none :=
        lastValue_eq_none (by rw [names_of_forall₂ tail]; exact distinct.1)
      rw [show lastValue (name w) (List.map (fun e => (e.1.name, e.2)) es) = none from absent, if_pos head.1]
      exact ⟨e.2, rfl, head.2⟩
    · obtain ⟨v, last, held⟩ := ih distinct.2 later
      rw [show lastValue (name w) (List.map (fun e => (e.1.name, e.2)) es) = some v from last]
      exact ⟨v, rfl, held⟩

theorem lastValue_absent (paired : List.Forall₂ (fun e w => e.1.name = name w ∧ R w e.2) entries written)
    {n : String} (absent : n ∉ written.map name) : lastValue n (namedValues entries) = none :=
  lastValue_eq_none (by rwa [names_of_forall₂ paired])

theorem forall_namedValues_of_forall₂
    (paired : List.Forall₂ (fun e w => e.1.name = name w ∧ R w e.2) entries written)
    (P : String → Item → Prop) (each : ∀ w ∈ written, ∀ v, R w v → P (name w) v) :
    ∀ p ∈ namedValues entries, P p.1 p.2 := by
  induction paired with
  | nil => simp [namedValues]
  | @cons e w es ws head _ ih =>
    intro p mem
    rcases List.mem_cons.1 mem with rfl | later
    · rw [show (e.1.name, e.2).1 = name w from head.1]
      exact each w List.mem_cons_self _ head.2
    · exact ih (fun w' mem' => each w' (List.mem_cons_of_mem _ mem')) p later

end Paired

/-! ### Values read back -/

namespace Written.HeldBy

variable {v : Item}

theorem asName {s : String} (h : (Written.string s).HeldBy v) : v.asName? = some s := by
  obtain ⟨span, rfl⟩ := h
  rfl

theorem asNumber {x : Binary32} (h : (Written.number x).HeldBy v) : v.asNumber? = some x := by
  obtain ⟨z, span, rfl, narrows⟩ := h
  simp [Item.asNumber?, narrows]

theorem asFlag {b : Bool} (h : (Written.flag b).HeldBy v) : v.asFlag? = some b := by
  obtain ⟨span, rfl⟩ := h
  rfl

theorem asPaths {ss : List String} (h : (Written.strings ss).HeldBy v) : v.asPaths? = some ss := by
  obtain ⟨items, span, rfl, names⟩ := h
  exact names

end Written.HeldBy

/-! ### The written settings -/

namespace TextSettings

variable {t : TextSettings}

theorem toEntries_names_nodup (t : TextSettings) : (t.toEntries.map (·.1)).Nodup := by
  unfold toEntries
  cases t.defaultFamily <;> cases t.defaultSize <;> simp

theorem mem_toEntries {e : String × Written} :
    e ∈ t.toEntries ↔ (∃ f, t.defaultFamily = some f ∧ e = ("default_family", .string f)) ∨
      (∃ x, t.defaultSize = some x ∧ e = ("default_size", .number x)) ∨
      e = ("font_dirs", .strings t.fontDirs) ∨ e = ("load_system_fonts", .flag t.loadSystemFonts) := by
  unfold toEntries
  cases t.defaultFamily <;> cases t.defaultSize <;> simp

theorem fits_of_holds {entries : List (Key × Item)} (holds : EntriesHold entries t.toEntries) :
    ∀ p ∈ namedValues entries, fits p.1 p.2 = true := by
  refine forall_namedValues_of_forall₂ holds (fun n v => fits n v = true) ?_
  intro w mem v held
  rcases mem_toEntries.1 mem with ⟨f, -, rfl⟩ | ⟨x, -, rfl⟩ | rfl | rfl
  · simp [fits, held.asName]
  · simp [fits, held.asNumber]
  · simp [fits, held.asPaths]
  · simp [fits, held.asFlag]

theorem ofSettings_of_holds {entries : List (Key × Item)} (holds : EntriesHold entries t.toEntries) :
    ofSettings (namedValues entries) = t := by
  have written : ∀ {w}, w ∈ t.toEntries → ∃ v, lastValue w.1 (namedValues entries) = some v ∧ w.2.HeldBy v :=
    fun mem => lastValue_of_forall₂ holds t.toEntries_names_nodup mem
  have absent : ∀ {n}, n ∉ t.toEntries.map (·.1) → lastValue n (namedValues entries) = none :=
    fun missing => lastValue_absent holds missing
  obtain ⟨family, size, dirs, system⟩ := t
  unfold ofSettings
  congr 1
  · cases family with
    | none => rw [absent (by cases size <;> simp [toEntries])]; rfl
    | some f =>
      obtain ⟨v, last, held⟩ := written (mem_toEntries.2 (.inl ⟨f, rfl, rfl⟩))
      rw [show lastValue "default_family" (namedValues entries) = some v from last]
      exact held.asName
  · cases size with
    | none => rw [absent (by cases family <;> simp [toEntries])]; rfl
    | some x =>
      obtain ⟨v, last, held⟩ := written (mem_toEntries.2 (.inr (.inl ⟨x, rfl, rfl⟩)))
      rw [show lastValue "default_size" (namedValues entries) = some v from last]
      exact held.asNumber
  · obtain ⟨v, last, held⟩ := written (mem_toEntries.2 (.inr (.inr (.inl rfl))))
    rw [show lastValue "font_dirs" (namedValues entries) = some v from last]
    simp [held.asPaths]
  · obtain ⟨v, last, held⟩ := written (mem_toEntries.2 (.inr (.inr (.inr rfl))))
    rw [show lastValue "load_system_fonts" (namedValues entries) = some v from last]
    simp [held.asFlag]

end TextSettings

namespace SurfaceSettings

variable {s : SurfaceSettings}

theorem fits_of_holds {entries : List (Key × Item)} (holds : EntriesHold entries s.toEntries) :
    ∀ p ∈ namedValues entries, fits p.1 p.2 = true := by
  refine forall_namedValues_of_forall₂ holds (fun n v => fits n v = true) ?_
  intro w mem v held
  simp only [toEntries, List.mem_singleton] at mem
  subst mem
  simp [fits, held.asNumber]

theorem ofSettings_of_holds {entries : List (Key × Item)} (holds : EntriesHold entries s.toEntries) :
    ofSettings (namedValues entries) = s := by
  obtain ⟨v, last, held⟩ := lastValue_of_forall₂ holds (by simp [toEntries])
    (List.mem_singleton_self _ : ("default_dpi", Written.number s.defaultDpi) ∈ s.toEntries)
  unfold ofSettings
  rw [show lastValue "default_dpi" (namedValues entries) = some v from last]
  simp [held.asNumber]

end SurfaceSettings

namespace Settings

variable {c : Settings}

theorem printable_toDocument (size : ∀ x, c.text.defaultSize = some x → x.isNaN = false)
    (dpi : c.surface.defaultDpi.isNaN = false) : Printable c.toDocument := by
  refine ⟨by simp [toDocument], ?_⟩
  intro t mem
  simp only [toDocument, List.mem_cons, List.not_mem_nil, or_false] at mem
  rcases mem with rfl | rfl
  · refine ⟨c.text.toEntries_names_nodup, ?_⟩
    intro e mem x number
    rcases TextSettings.mem_toEntries.1 mem with ⟨f, -, rfl⟩ | ⟨y, sized, rfl⟩ | rfl | rfl
    · cases number
    · cases number
      exact size x sized
    · cases number
    · cases number
  · refine ⟨by simp [SurfaceSettings.toEntries], ?_⟩
    intro e mem x number
    simp only [SurfaceSettings.toEntries, List.mem_singleton] at mem
    subst mem
    cases number
    exact dpi

theorem accepts_of_holds {root : Table} (holds : root.Holds c.toDocument) : Accepts root := by
  unfold Table.Holds at holds
  refine forall_namedValues_of_forall₂ holds (fun n v => fits n v = true) ?_
  rintro t mem v ⟨form, entries, span, rfl, held⟩
  simp only [toDocument, List.mem_cons, List.not_mem_nil, or_false] at mem
  rcases mem with rfl | rfl
  · show (Item.table form entries span).fitsGroup TextSettings.fields TextSettings.fits = true
    exact Item.fitsGroup_iff.2 ⟨namedValues entries, rfl, TextSettings.fits_of_holds held⟩
  · show (Item.table form entries span).fitsGroup SurfaceSettings.fields SurfaceSettings.fits = true
    exact Item.fitsGroup_iff.2 ⟨namedValues entries, rfl, SurfaceSettings.fits_of_holds held⟩

theorem ofSettings_of_holds {root : Table} (holds : root.Holds c.toDocument) :
    ofSettings (namedValues root.entries) = c := by
  unfold Table.Holds at holds
  have distinct : (c.toDocument.map (·.name)).Nodup := by simp [toDocument]
  obtain ⟨v, last, form, entries, span, rfl, held⟩ :=
    lastValue_of_forall₂ holds distinct (List.mem_cons_self : ⟨"text", c.text.toEntries⟩ ∈ c.toDocument)
  obtain ⟨v', last', form', entries', span', rfl, held'⟩ :=
    lastValue_of_forall₂ holds distinct
      (List.mem_cons_of_mem _ List.mem_cons_self : ⟨"surface", c.surface.toEntries⟩ ∈ c.toDocument)
  unfold ofSettings
  rw [show lastValue "text" (namedValues root.entries) = _ from last,
    show lastValue "surface" (namedValues root.entries) = _ from last']
  simp only [Option.bind_some, Item.settings?, Item.structFields, Option.map_some, Option.getD_some,
    TextSettings.ofSettings_of_holds held, SurfaceSettings.ofSettings_of_holds held']

end Settings

/-! ### A format that meets both contracts -/

instance charEncodable : Encodable Char :=
  Encodable.ofLeftInjection Char.toNat (fun n => some (Char.ofNat n)) fun c => by rw [Char.ofNat_toNat]

instance stringEncodable : Encodable String :=
  Encodable.ofLeftInjection String.toList (fun l => some (String.ofList l)) fun s => by rw [String.ofList_toList]

instance binary32Encodable : Encodable Binary32 :=
  Encodable.ofLeftInjection (·.bits.toNat) (fun n => some ⟨n.toUInt32⟩) fun x => by simp

deriving instance Encodable for Written
deriving instance Encodable for WrittenTable

/-- The item a written value reads back as when values are kept exactly. -/
def Written.item : Written → Item
  | .string s => .string s ⟨0, 0⟩
  | .number x => .float x.toBinary64 ⟨0, 0⟩
  | .flag b => .boolean b ⟨0, 0⟩
  | .strings ss => .array (ss.map fun s => .string s ⟨0, 0⟩) ⟨0, 0⟩

/-- The root table a written document reads back as when values are kept exactly. -/
def WrittenTable.root (doc : List WrittenTable) : Table where
  entries := doc.map fun t => (⟨t.name, t.name, ⟨0, 0⟩⟩,
    .table {} (t.entries.map fun e => (⟨e.1, e.1, ⟨0, 0⟩⟩, e.2.item)) none)

/-- A format that writes a document as the unary numeral of its code and reads a text back as the
root table of the document its length codes; values are read as in TOML. -/
def ConfigFormat.coded : ConfigFormat :=
  { ConfigFormat.toml with
    print := fun doc => some (String.ofList (List.replicate (Encodable.encode doc) '|'))
    parse := fun text =>
      match (Encodable.decode text.length : Option (List WrittenTable)) with
      | some doc => .ok (WrittenTable.root doc)
      | none => .error ⟨"not a coded document", none⟩ }

theorem ConfigFormat.coded_readsValues : ConfigFormat.coded.ReadsValues :=
  ⟨toml_readsValues.fieldsOf, toml_readsValues.name, toml_readsValues.number, toml_readsValues.flag,
    toml_readsValues.paths⟩

theorem Written.heldBy_item {w : Written} (numeric : ∀ x, w = .number x → x.isNaN = false) : w.HeldBy w.item := by
  cases w with
  | string s => exact ⟨_, rfl⟩
  | number x => exact ⟨_, _, rfl, Binary32.toBinary64_toBinary32 (numeric x rfl)⟩
  | flag b => exact ⟨_, rfl⟩
  | strings ss =>
    refine ⟨_, _, rfl, ?_⟩
    induction ss with
    | nil => rfl
    | cons s ss ih => simp [Item.asName?, ih]

theorem ConfigFormat.coded_readsBack : ConfigFormat.coded.ReadsBack := by
  intro doc printable
  refine ⟨_, WrittenTable.root doc, rfl, ?_, ?_⟩
  · simp [ConfigFormat.coded, Encodable.encodek]
  · obtain ⟨-, tables⟩ := printable
    unfold Table.Holds WrittenTable.root
    rw [List.forall₂_map_left_iff, List.forall₂_same]
    intro t mem
    refine ⟨rfl, {}, _, none, rfl, ?_⟩
    unfold EntriesHold
    rw [List.forall₂_map_left_iff, List.forall₂_same]
    intro e entry
    exact ⟨rfl, Written.heldBy_item fun x number => (tables t mem).2 e entry x number⟩

end GlyphCanvas
