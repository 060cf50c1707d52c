import Mathlib
import GlyphCanvas.Settings.Encode
import GlyphCanvas.Toml.Format

namespace GlyphCanvas

open Toml

namespace Toml.Item

/-- The text of a string. -/
def asName? : Item → Option String
  | .string s _ => some s
  | _ => none

/-- A number rounded to single precision: an integer to the nearest value, a float from double
precision. -/
def asNumber? : Item → Option Binary32
  | .integer i _ => some (Binary32.ofInt i)
  | .float x _ => some x.toBinary32
  | _ => none

def asFlag? : Item → Option Bool
  | .boolean b _ => some b
  | _ => none

/-- The texts of an array whose elements are all strings. -/
def asPaths? : Item → Option (List String)
  | .array items _ | .tables items _ => items.mapM asName?
  | _ => none

end Toml.Item

/-- What the settings assume of how their format reads values: a value offers its fields to a
structure as `Toml.Item.structFields` says, and each reader succeeds exactly on the values its
field type takes, with the value the `Toml.Item.as…?` rules give. The messages of failures are
the format's own. -/
structure ConfigFormat.ReadsValues (fmt : ConfigFormat) : Prop where
  fieldsOf : ∀ v, fmt.fieldsOf v = v.structFields
  name : ∀ v, (fmt.name v).toOption = v.asName?
  number : ∀ v, (fmt.number v).toOption = v.asNumber?
  flag : ∀ v, (fmt.flag v).toOption = v.asFlag?
  paths : ∀ v, (fmt.paths v).toOption = v.asPaths?

theorem Except.bind_of_toOption {ε α β : Type} {e : Except ε α} {o : Option α} (h : e.toOption = o)
    (fit : o.isSome = true) (f : α → Except ε β) : e >>= f = f (o.get fit) := by
  subst h
  cases e with
  | error _ => simp [Except.toOption] at fit
  | ok a => rfl

theorem Except.isSome_of_bind_eq_ok {ε α β : Type} {e : Except ε α} {o : Option α} (h : e.toOption = o)
    {f : α → Except ε β} {b : β} (ok : e >>= f = .ok b) : o.isSome = true := by
  subst h
  cases e with
  | error _ => cases ok
  | ok a => rfl

theorem mapM_decodePath_eq_ok_iff (items : List Item) (ss : List String) :
    items.mapM decodePath = .ok ss ↔ items.mapM Item.asName? = some ss := by
  induction items generalizing ss with
  | nil =>
    simp only [List.mapM_nil, Option.pure_def, Option.some.injEq]
    exact ⟨fun h => (Except.ok.inj h), fun h => h ▸ rfl⟩
  | cons i items ih =>
    cases i
    case string s span =>
      cases rest : items.mapM Item.asName? with
      | none =>
        have failed : ∀ ss', items.mapM decodePath ≠ .ok ss' := fun ss' ok => by simp [(ih ss').1 ok] at rest
        cases restPaths : items.mapM decodePath with
        | ok ss' => exact absurd restPaths (failed ss')
        | error e => simp [List.mapM_cons, decodePath, Item.asName?, rest, restPaths, bind, Except.bind]
      | some ss' =>
        simp [List.mapM_cons, decodePath, Item.asName?, rest, (ih ss').2 rest, bind, Except.bind, pure,
          Except.pure, eq_comm]
    all_goals simp [List.mapM_cons, decodePath, Item.asName?, bind, Except.bind]

theorem ConfigFormat.toml_readsValues : ConfigFormat.toml.ReadsValues where
  fieldsOf _ := rfl
  name v := by cases v <;> rfl
  number v := by cases v <;> rfl
  flag v := by cases v <;> rfl
  paths v := by
    show (decodePaths v).toOption = v.asPaths?
    cases v
    case array items _ | tables items _ =>
      cases paths : items.mapM Item.asName? with
      | some ss => simp [decodePaths, Item.asPaths?, (mapM_decodePath_eq_ok_iff items ss).2 paths, paths,
          Except.toOption]
      | none =>
        cases read : items.mapM decodePath with
        | ok ss => simp [(mapM_decodePath_eq_ok_iff items ss).1 read] at paths
        | error e => simp [decodePaths, Item.asPaths?, read, paths, Except.toOption]
    all_goals rfl

/-! What the settings assume of how their format writes a document and reads it back. -/

/-- Item `v` holds the written value `w`: the same string, flag or strings, or a number as a double
that narrows back to it. -/
def Written.HeldBy : Written → Item → Prop
  | .string s, v => ∃ span, v = .string s span
  | .number x, v => ∃ z span, v = .float z span ∧ z.toBinary32 = x
  | .flag b, v => ∃ span, v = .boolean b span
  | .strings ss, v => ∃ items span, v = .array items span ∧ items.mapM Item.asName? = some ss

/-- The entries of a table hold the written entries: the same keys in the same order, each value
held. -/
def EntriesHold (entries : List (Key × Item)) (written : List (String × Written)) : Prop :=
  List.Forall₂ (fun e w => e.1.name = w.1 ∧ w.2.HeldBy e.2) entries written

/-- Item `v` holds the written table `t`: a table whose entries hold the written ones. -/
def WrittenTable.HeldBy (t : WrittenTable) (v : Item) : Prop :=
  ∃ form entries span, v = .table form entries span ∧ EntriesHold entries t.entries

/-- A root table holds a written document: its entries are the document's tables in order. -/
def Toml.Table.Holds (root : Table) (doc : List WrittenTable) : Prop :=
  List.Forall₂ (fun e t => e.1.name = t.name ∧ t.HeldBy e.2) root.entries doc

/-- A document that can be written and read back: no two tables share a name, no two values of a
table share a key, and no number is NaN. -/
def Printable (doc : List WrittenTable) : Prop :=
  (doc.map (·.name)).Nodup ∧ ∀ t ∈ doc, (t.entries.map (·.1)).Nodup ∧
    ∀ e ∈ t.entries, ∀ x, e.2 = .number x → x.isNaN = false

/-- What the settings assume of how their format writes a document: every printable document is
written, and its text reads back as a root table that holds it. -/
def ConfigFormat.ReadsBack (fmt : ConfigFormat) : Prop :=
  ∀ doc, Printable doc → ∃ text root, fmt.print doc = some text ∧ fmt.parse text = .ok root ∧ root.Holds doc

end GlyphCanvas
