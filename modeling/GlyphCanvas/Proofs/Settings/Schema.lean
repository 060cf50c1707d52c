import Mathlib
import GlyphCanvas.Settings.Load
import GlyphCanvas.Proofs.Settings.Contract

namespace GlyphCanvas

open Toml

/-! ### Values and groups -/

/-- The entries of a table by the names of their keys. -/
def namedValues (entries : List (Key × Item)) : List (String × Item) :=
  entries.map fun e => (e.1.name, e.2)

/-- The last value named `name`. -/
def lastValue (name : String) (l : List (String × Item)) : Option Item :=
  ((l.filter (·.1 == name)).getLast?).map (·.2)

namespace Toml.Item

/-- The named values a value offers to a structure whose fields, in declaration order, are
`fields`: its entries by key, or its elements by position. -/
def settings? (fields : List String) (v : Item) : Option (List (String × Item)) :=
  v.structFields.map fun
    | .byKey entries => namedValues entries
    | .byPosition items => fields.zip items

/-- Whether an item is a group whose named values all fit. -/
def fitsGroup (fields : List String) (fits : String → Item → Bool) (v : Item) : Bool :=
  match v.settings? fields with
  | some l => l.all fun p => fits p.1 p.2
  | none => false

end Toml.Item

/-! ### The two groups and the root -/

namespace TextSettings

/-- Whether a value fits the text field it names. -/
def fits (name : String) (v : Item) : Bool :=
  match name with
  | "default_family" => v.asName?.isSome
  | "default_size" => v.asNumber?.isSome
  | "font_dirs" => v.asPaths?.isSome
  | "load_system_fonts" => v.asFlag?.isSome
  | _ => true

/-- The settings with one named value taken in. -/
def put (t : TextSettings) (p : String × Item) : TextSettings :=
  match p.1 with
  | "default_family" => { t with defaultFamily := p.2.asName? }
  | "default_size" => { t with defaultSize := p.2.asNumber? }
  | "font_dirs" => { t with fontDirs := p.2.asPaths?.getD [] }
  | "load_system_fonts" => { t with loadSystemFonts := p.2.asFlag?.getD true }
  | _ => t

/-- The text settings of a group's named values: each field the last value of its name, or its
default. -/
def ofSettings (l : List (String × Item)) : TextSettings where
  defaultFamily := (lastValue "default_family" l).bind Item.asName?
  defaultSize := (lastValue "default_size" l).bind Item.asNumber?
  fontDirs := ((lastValue "font_dirs" l).bind Item.asPaths?).getD []
  loadSystemFonts := ((lastValue "load_system_fonts" l).bind Item.asFlag?).getD true

end TextSettings

namespace SurfaceSettings

/-- Whether a value fits the surface field it names. -/
def fits (name : String) (v : Item) : Bool :=
  match name with
  | "default_dpi" => v.asNumber?.isSome
  | _ => true

/-- The settings with one named value taken in. -/
def put (s : SurfaceSettings) (p : String × Item) : SurfaceSettings :=
  match p.1 with
  | "default_dpi" => { s with defaultDpi := p.2.asNumber?.getD 96 }
  | _ => s

/-- The surface settings of a group's named values: the last dpi, or 96. -/
def ofSettings (l : List (String × Item)) : SurfaceSettings where
  defaultDpi := ((lastValue "default_dpi" l).bind Item.asNumber?).getD 96

end SurfaceSettings

namespace Settings

/-- Whether a value of the root table fits the group it names. -/
def fits (name : String) (v : Item) : Bool :=
  match name with
  | "text" => v.fitsGroup TextSettings.fields TextSettings.fits
  | "surface" => v.fitsGroup SurfaceSettings.fields SurfaceSettings.fits
  | _ => true

/-- The settings with one named group taken in. -/
def put (s : Settings) (p : String × Item) : Settings :=
  match p.1 with
  | "text" => { s with text := ((p.2.settings? TextSettings.fields).map TextSettings.ofSettings).getD {} }
  | "surface" =>
    { s with surface := ((p.2.settings? SurfaceSettings.fields).map SurfaceSettings.ofSettings).getD {} }
  | _ => s

/-- The settings of the root table's named values: each group read from the last value of its
name, or all its defaults. -/
def ofSettings (l : List (String × Item)) : Settings where
  text := ((lastValue "text" l).bind fun v =>
    (v.settings? TextSettings.fields).map TextSettings.ofSettings).getD (TextSettings.ofSettings [])
  surface := ((lastValue "surface" l).bind fun v =>
    (v.settings? SurfaceSettings.fields).map SurfaceSettings.ofSettings).getD (SurfaceSettings.ofSettings [])

/-- Whether every value of a root table fits the group it names. -/
def Accepts (root : Table) : Prop := ∀ p ∈ namedValues root.entries, fits p.1 p.2 = true

instance (root : Table) : Decidable (Accepts root) :=
  inferInstanceAs (Decidable (∀ p ∈ namedValues root.entries, fits p.1 p.2 = true))

end Settings

/-! ### Checked folds -/

section Folds

variable {α : Type}

theorem foldlM_eq_ok_iff {β ε : Type} {step : α → β → Except ε α} (put : α → β → α)
    (fits : β → Bool)
    (reads : ∀ a b, fits b = true → step a b = .ok (put a b))
    (refuses : ∀ a b a', step a b = .ok a' → fits b = true) (l : List β) (a r : α) :
    l.foldlM step a = .ok r ↔ (∀ b ∈ l, fits b = true) ∧ r = l.foldl put a := by
  induction l generalizing a with
  | nil =>
    simp only [List.foldlM_nil, List.not_mem_nil, IsEmpty.forall_iff, implies_true, List.foldl_nil, true_and]
    exact ⟨fun h => (Except.ok.inj h).symm, fun h => h ▸ rfl⟩
  | cons b l ih =>
    rw [List.foldlM_cons, List.foldl_cons, List.forall_mem_cons]
    cases fit : fits b
    · -- a value that does not fit stops the fold
      cases taken : step a b with
      | error e => simp [bind, Except.bind]
      | ok a' => exact absurd (refuses a b a' taken) (by simp [fit])
    · rw [reads a b fit]
      simp only [bind, Except.bind, true_and]
      exact ih (put a b)

theorem foldl_lastValue {γ : Type} (put : α → String × Item → α) (F : α → γ) (name : String)
    (g : Item → γ)
    (sets : ∀ a p, F (put a p) = if p.1 = name then g p.2 else F a) (l : List (String × Item)) (a : α) :
    F (l.foldl put a) = ((lastValue name l).map g).getD (F a) := by
  induction l generalizing a with
  | nil => rfl
  | cons p l ih =>
    rw [List.foldl_cons, ih, sets]
    by_cases named : p.1 = name
    · simp only [lastValue, named, if_true, List.filter_cons, beq_self_eq_true, List.getLast?_cons,
        Option.map_some, Option.getD_some]
      cases (l.filter (·.1 == name)).getLast? <;> rfl
    · simp only [lastValue, named, if_false, List.filter_cons, beq_iff_eq]

variable {fmt : ConfigFormat}

theorem decodeEntries_eq_ok_iff {field : α → String → Item → Except DecodeError α}
    (put : α → String × Item → α) (fits : String → Item → Bool)
    (reads : ∀ a name v, fits name v = true → field a name v = .ok (put a (name, v)))
    (refuses : ∀ a name v a', field a name v = .ok a' → fits name v = true) (entries : List (Key × Item))
    (init r : α) :
    decodeEntries fmt entries init field = .ok r ↔
      (∀ p ∈ namedValues entries, fits p.1 p.2 = true) ∧ r = (namedValues entries).foldl put init := by
  unfold decodeEntries
  rw [foldlM_eq_ok_iff (fun a e => put a (e.1.name, e.2)) (fun e => fits e.1.name e.2)]
  · simp only [namedValues, List.forall_mem_map, List.foldl_map]
  · intro a e fit
    simp only [reads a e.1.name e.2 fit, Except.mapError]
  · intro a e a' taken
    cases ok : field a e.1.name e.2 with
    | error _ => simp [ok, Except.mapError] at taken
    | ok _ => exact refuses a e.1.name e.2 _ ok

theorem decodeStruct_eq_ok_iff (reads : fmt.ReadsValues) (what : String) (fields : List String) (init : α)
    {field : α → String → Item → Except DecodeError α} (put : α → String × Item → α)
    (fits : String → Item → Bool)
    (takes : ∀ a name v, fits name v = true → field a name v = .ok (put a (name, v)))
    (refuses : ∀ a name v a', field a name v = .ok a' → fits name v = true) (item : Item) (r : α) :
    decodeStruct fmt what fields init field item = .ok r ↔
      ∃ l, item.settings? fields = some l ∧ (∀ p ∈ l, fits p.1 p.2 = true) ∧ r = l.foldl put init := by
  unfold decodeStruct Item.settings?
  rw [reads.fieldsOf]
  cases item.structFields with
  | none => simp
  | some offered =>
    cases offered with
    | byKey entries =>
      rw [decodeEntries_eq_ok_iff put fits takes refuses]
      simp
    | byPosition items =>
      rw [foldlM_eq_ok_iff put (fun p => fits p.1 p.2) (fun a p fit => takes a p.1 p.2 fit)
        (fun a p a' taken => refuses a p.1 p.2 a' taken)]
      simp

end Folds

theorem Toml.Item.fitsGroup_iff {fields : List String} {fits : String → Item → Bool} {v : Item} :
    v.fitsGroup fields fits = true ↔ ∃ l, v.settings? fields = some l ∧ ∀ p ∈ l, fits p.1 p.2 = true := by
  unfold Item.fitsGroup
  cases v.settings? fields <;> simp

section Groups

variable {β : Type} {decode : Item → Except DecodeError β} {fields : List String} {fits : String → Item → Bool}
  {ofSettings : List (String × Item) → β}

theorem decode_of_fitsGroup (default : β)
    (reads : ∀ v t, decode v = .ok t ↔
      ∃ l, v.settings? fields = some l ∧ (∀ p ∈ l, fits p.1 p.2 = true) ∧ t = ofSettings l)
    {v : Item} (fit : v.fitsGroup fields fits = true) :
    decode v = .ok (((v.settings? fields).map ofSettings).getD default) := by
  obtain ⟨l, group, all⟩ := Item.fitsGroup_iff.1 fit
  rw [(reads v _).2 ⟨l, group, all, rfl⟩, group]
  rfl

theorem fitsGroup_of_decode
    (reads : ∀ v t, decode v = .ok t ↔
      ∃ l, v.settings? fields = some l ∧ (∀ p ∈ l, fits p.1 p.2 = true) ∧ t = ofSettings l)
    {v : Item} {t : β} (ok : decode v = .ok t) : v.fitsGroup fields fits = true := by
  obtain ⟨l, group, all, -⟩ := (reads v t).1 ok
  exact Item.fitsGroup_iff.2 ⟨l, group, all⟩

end Groups

/-! ### The values of the fields -/

section Fields

variable {fmt : ConfigFormat} (reads : fmt.ReadsValues)
include reads

namespace TextSettings

theorem decodeField_of_fits (t : TextSettings) (name : String) (v : Item) (fit : fits name v = true) :
    t.decodeField fmt name v = .ok (t.put (name, v)) := by
  -- one match at a time: `fits`, `put` and `decodeField` may share their matcher
  unfold fits at fit
  unfold decodeField
  split
  · have read : v.asName?.isSome = true := fit
    rw [Except.bind_of_toOption (reads.name v) read]
    simp [put, pure, Except.pure]
  · have read : v.asNumber?.isSome = true := fit
    rw [Except.bind_of_toOption (reads.number v) read]
    simp [put, pure, Except.pure]
  · have read : v.asPaths?.isSome = true := fit
    rw [Except.bind_of_toOption (reads.paths v) read]
    simp only [put, pure, Except.pure, Except.ok.injEq]
    congr 1
    exact Option.get_eq_getD _
  · have read : v.asFlag?.isSome = true := fit
    rw [Except.bind_of_toOption (reads.flag v) read]
    simp only [put, pure, Except.pure, Except.ok.injEq]
    congr 1
    exact Option.get_eq_getD _
  · -- a name of no field leaves the settings as they are
    unfold put
    split <;> simp_all [pure, Except.pure]

theorem fits_of_decodeField {t t' : TextSettings} {name : String} {v : Item}
    (ok : t.decodeField fmt name v = .ok t') : fits name v = true := by
  unfold decodeField at ok
  split at ok
  · exact Except.isSome_of_bind_eq_ok (reads.name v) ok
  · exact Except.isSome_of_bind_eq_ok (reads.number v) ok
  · exact Except.isSome_of_bind_eq_ok (reads.paths v) ok
  · exact Except.isSome_of_bind_eq_ok (reads.flag v) ok
  · unfold fits
    split <;> simp_all

omit reads in
theorem foldl_put (l : List (String × Item)) : l.foldl put {} = ofSettings l := by
  have family := foldl_lastValue put defaultFamily "default_family" Item.asName?
    (fun a p => by unfold put; split <;> simp_all) l {}
  have size := foldl_lastValue put defaultSize "default_size" Item.asNumber?
    (fun a p => by unfold put; split <;> simp_all) l {}
  have dirs := foldl_lastValue put fontDirs "font_dirs" (fun v => v.asPaths?.getD [])
    (fun a p => by unfold put; split <;> simp_all) l {}
  have system := foldl_lastValue put loadSystemFonts "load_system_fonts" (fun v => v.asFlag?.getD true)
    (fun a p => by unfold put; split <;> simp_all) l {}
  rw [show l.foldl put {} = ⟨(l.foldl put {}).defaultFamily, (l.foldl put {}).defaultSize,
    (l.foldl put {}).fontDirs, (l.foldl put {}).loadSystemFonts⟩ from rfl, family, size, dirs, system]
  unfold ofSettings
  congr 1
  · cases lastValue "default_family" l <;> rfl
  · cases lastValue "default_size" l <;> rfl
  · cases lastValue "font_dirs" l <;> rfl
  · cases lastValue "load_system_fonts" l <;> rfl

theorem decode_eq_ok_iff (item : Item) (t : TextSettings) :
    TextSettings.decode fmt item = .ok t ↔
      ∃ l, item.settings? fields = some l ∧ (∀ p ∈ l, fits p.1 p.2 = true) ∧ t = ofSettings l := by
  rw [TextSettings.decode, decodeStruct_eq_ok_iff reads _ fields {} put fits (decodeField_of_fits reads)
    (fun _ _ _ _ ok => fits_of_decodeField reads ok)]
  simp only [foldl_put]

end TextSettings

namespace SurfaceSettings

theorem decodeField_of_fits (s : SurfaceSettings) (name : String) (v : Item) (fit : fits name v = true) :
    s.decodeField fmt name v = .ok (s.put (name, v)) := by
  unfold fits at fit
  unfold decodeField
  split
  · have read : v.asNumber?.isSome = true := fit
    rw [Except.bind_of_toOption (reads.number v) read]
    simp only [put, pure, Except.pure, Except.ok.injEq]
    congr 1
    exact Option.get_eq_getD _
  · -- a name of no field leaves the settings as they are
    unfold put
    split <;> simp_all [pure, Except.pure]

theorem fits_of_decodeField {s s' : SurfaceSettings} {name : String} {v : Item}
    (ok : s.decodeField fmt name v = .ok s') : fits name v = true := by
  unfold decodeField at ok
  split at ok
  · exact Except.isSome_of_bind_eq_ok (reads.number v) ok
  · unfold fits
    split <;> simp_all

omit reads in
theorem foldl_put (l : List (String × Item)) : l.foldl put {} = ofSettings l := by
  have dpi := foldl_lastValue put defaultDpi "default_dpi" (fun v => v.asNumber?.getD 96)
    (fun a p => by unfold put; split <;> simp_all) l {}
  rw [show l.foldl put {} = ⟨(l.foldl put {}).defaultDpi⟩ from rfl, dpi]
  unfold ofSettings
  congr 1
  cases lastValue "default_dpi" l <;> rfl

theorem decode_eq_ok_iff (item : Item) (s : SurfaceSettings) :
    SurfaceSettings.decode fmt item = .ok s ↔
      ∃ l, item.settings? fields = some l ∧ (∀ p ∈ l, fits p.1 p.2 = true) ∧ s = ofSettings l := by
  rw [SurfaceSettings.decode, decodeStruct_eq_ok_iff reads _ fields {} put fits (decodeField_of_fits reads)
    (fun _ _ _ _ ok => fits_of_decodeField reads ok)]
  simp only [foldl_put]

end SurfaceSettings

namespace Settings

omit reads in
theorem foldl_put (l : List (String × Item)) : l.foldl put {} = ofSettings l := by
  have text := foldl_lastValue put Settings.text "text"
    (fun v => ((v.settings? TextSettings.fields).map TextSettings.ofSettings).getD {})
    (fun a p => by unfold put; split <;> simp_all) l {}
  have surface := foldl_lastValue put Settings.surface "surface"
    (fun v => ((v.settings? SurfaceSettings.fields).map SurfaceSettings.ofSettings).getD {})
    (fun a p => by unfold put; split <;> simp_all) l {}
  rw [show l.foldl put {} = ⟨(l.foldl put {}).text, (l.foldl put {}).surface⟩ from rfl, text, surface]
  unfold ofSettings
  congr 1
  · cases lastValue "text" l <;> rfl
  · cases lastValue "surface" l <;> rfl

theorem decode_eq_ok_iff (root : Table) (s : Settings) :
    Settings.decode fmt root = .ok s ↔ Accepts root ∧ s = ofSettings (namedValues root.entries) := by
  unfold Settings.decode Accepts
  rw [decodeEntries_eq_ok_iff put fits ?takes ?refuses, foldl_put]
  case takes =>
    intro a name v fit
    split
    · simp only [fits] at fit
      rw [decode_of_fitsGroup {} (TextSettings.decode_eq_ok_iff reads) fit]
      simp only [put]
      rfl
    · simp only [fits] at fit
      rw [decode_of_fitsGroup {} (SurfaceSettings.decode_eq_ok_iff reads) fit]
      simp only [put]
      rfl
    · -- a name of no group leaves the settings as they are
      unfold put
      split <;> simp_all [pure, Except.pure]
  case refuses =>
    intro a name v a' ok
    split at ok
    · simp only [fits]
      cases decoded : TextSettings.decode fmt v with
      | error e => simp [decoded, bind, Except.bind] at ok
      | ok t => exact fitsGroup_of_decode (TextSettings.decode_eq_ok_iff reads) decoded
    · simp only [fits]
      cases decoded : SurfaceSettings.decode fmt v with
      | error e => simp [decoded, bind, Except.bind] at ok
      | ok t => exact fitsGroup_of_decode (SurfaceSettings.decode_eq_ok_iff reads) decoded
    · unfold fits
      split <;> simp_all

theorem ofToml_eq_ok_iff (text : String) (s : Settings) :
    Settings.ofToml fmt text = .ok s ↔
      ∃ root, fmt.parse text = .ok root ∧ Accepts root ∧ s = ofSettings (namedValues root.entries) := by
  unfold Settings.ofToml
  cases fmt.parse text with
  | error e => simp
  | ok root =>
    simp only [Except.ok.injEq, exists_eq_left']
    rw [← decode_eq_ok_iff reads]
    cases Settings.decode fmt root <;> simp

theorem loadFile_eq_ok_iff (h : Host) (path : String) (s : Settings) :
    Settings.loadFile fmt h path = .ok s ↔ ∃ text root, h.readText path = .ok text ∧ fmt.parse text = .ok root ∧
      Accepts root ∧ s = ofSettings (namedValues root.entries) := by
  unfold Settings.loadFile
  cases h.readText path with
  | error r => simp
  | ok text =>
    simp only [Except.ok.injEq, exists_and_left, exists_eq_left']
    rw [← ofToml_eq_ok_iff reads]
    split <;> simp_all

omit reads in
theorem loadFile_eq_read_iff (h : Host) (path : String) (r : ReadError) :
    Settings.loadFile fmt h path = .error (.read path r) ↔ h.readText path = .error r := by
  unfold Settings.loadFile
  split
  case h_1 r' read => simp [read]
  case h_2 text read =>
    rw [read]
    split <;> simp

theorem loadFile_parse_iff (h : Host) (path : String) :
    (∃ report, Settings.loadFile fmt h path = .error (.parse path report)) ↔
      ∃ text, h.readText path = .ok text ∧ ¬ ∃ root, fmt.parse text = .ok root ∧ Accepts root := by
  unfold Settings.loadFile
  cases h.readText path with
  | error r => simp
  | ok text =>
    simp only [Except.ok.injEq, exists_eq_left']
    cases decoded : Settings.ofToml fmt text with
    | error report =>
      simp only [Except.error.injEq, SettingsError.parse.injEq, true_and, exists_eq', not_exists, not_and,
        true_iff]
      intro root parsed accepts
      have read := (ofToml_eq_ok_iff reads text _).2 ⟨root, parsed, accepts, rfl⟩
      rw [decoded] at read
      cases read
    | ok s =>
      obtain ⟨root, parsed, accepts, -⟩ := (ofToml_eq_ok_iff reads text s).1 decoded
      simp only [reduceCtorEq, exists_false, false_iff, not_not]
      exact ⟨root, parsed, accepts⟩

end Settings

end Fields

end GlyphCanvas
