import GlyphCanvas.Toml.Scalar

namespace GlyphCanvas.Toml

/-- How a table came to be. -/
structure TableForm where
  /-- Written as a value between braces. -/
  inline : Bool := false
  /-- Created only because a longer path runs through it. -/
  implicit : Bool := false
  /-- Created by a dotted key. -/
  dotted : Bool := false
  deriving DecidableEq, Repr

/-- An item of a document. -/
inductive Item where
  | string (s : String) (span : Span)
  | integer (i : Int) (span : Span)
  | float (x : Binary64) (span : Span)
  | boolean (b : Bool) (span : Span)
  | datetime (d : Datetime) (span : Span)
  | array (items : List Item) (span : Span)
  | table (form : TableForm) (entries : List (Key × Item)) (span : Option Span)
  /-- An array of tables, each opened by a `[[...]]` header. -/
  | tables (items : List Item) (span : Option Span)

instance : Inhabited Item := ⟨.boolean false default⟩

namespace Item

/-- Where an item was written, if it was. -/
def span? : Item → Option Span
  | .string _ s | .integer _ s | .float _ s | .boolean _ s | .datetime _ s | .array _ s => some s
  | .table _ _ s | .tables _ s => s

/-- The name of a value's type. -/
def typeName : Item → String
  | .string .. => "string"
  | .integer .. => "integer"
  | .float .. => "float"
  | .boolean .. => "boolean"
  | .datetime .. => "datetime"
  | .array .. => "array"
  | .table .. => "inline table"
  | .tables .. => "array of tables"

end Item

/-- A table being built: its form, its entries and where it was written. -/
structure Table where
  form : TableForm := {}
  entries : List (Key × Item) := []
  span : Option Span := none

namespace Table

/-- The table as an item. -/
def toItem (t : Table) : Item := .table t.form t.entries t.span

/-- The item under a key. -/
def find? (t : Table) (name : String) : Option Item :=
  (t.entries.find? (·.1.name == name)).map (·.2)

/-- Puts an item under a key: in place of the one there, which keeps its key, or at the end. -/
def set (t : Table) (k : Key) (v : Item) : Table :=
  if t.entries.any (·.1.name == k.name) then
    { t with entries := t.entries.map fun (k', v') => if k'.name == k.name then (k', v) else (k', v') }
  else { t with entries := t.entries ++ [(k, v)] }

/-- Removes a key, the others keeping their order. -/
def erase (t : Table) (name : String) : Table :=
  { t with entries := t.entries.filter (·.1.name != name) }

/-- Walks a path of keys down from the table, creating missing tables (implicit, and dotted when
`dotted`), applies `f` to the table reached and puts every table back. Under an array of tables
the walk goes into its last table. `walked` are the keys before the path, for messages. -/
def descend (dotted : Bool) (walked : List Key) (f : Table → Except Cause (Table × α)) :
    Table → List Key → Except Cause (Table × α)
  | t, [] => f t
  | t, k :: ks =>
    let here := walked ++ [k]
    let names := here.map (·.name)
    let into (c : Table) (put : Table → Item) : Except Cause (Table × α) := do
      let (c', a) ← descend dotted here f c ks
      pure (t.set k (put c'), a)
    match t.find? k.name with
    | none => into { form := { implicit := true, dotted } } toItem
    | some (.table form es sp) =>
      if form.inline then .error (.extendsValue names "inline table")
      else if dotted && !form.implicit then .error (.duplicateKey k.name none)
      else into ⟨form, es, sp⟩ toItem
    | some (.tables items sp) =>
      match items.getLast? with
      | some (.table form es tsp) =>
        into ⟨form, es, tsp⟩ fun c' => .tables (items.dropLast ++ [c'.toItem]) sp
      | _ => .error (.extendsValue names "array of tables")
    | some v => .error (.extendsValue names v.typeName)

/-- Walks a path of keys down an inline table, creating missing tables as dotted ones; a path
may not run through a value, nor through a table written out in braces. -/
def descendInline (dotted : Bool) (walked : List Key) (f : Table → Except Cause (Table × α)) :
    Table → List Key → Except Cause (Table × α)
  | t, [] => f t
  | t, k :: ks =>
    let here := walked ++ [k]
    let into (c : Table) : Except Cause (Table × α) := do
      let (c', a) ← descendInline dotted here f c ks
      pure (t.set k c'.toItem, a)
    match t.find? k.name with
    | none => into { form := { inline := true, implicit := dotted, dotted } }
    | some (.table form es sp) =>
      if dotted && !form.implicit then .error (.duplicateKey k.name none)
      else into ⟨form, es, sp⟩
    | some v => .error (.extendsValue (here.map (·.name)) v.typeName)

end Table

/-- A key/value line: the dotted prefix, the last key and the value. -/
structure KeyValue where
  path : List Key
  key : Key
  value : Item

/-- Builds an inline table from its key/value pairs, in order. -/
def inlineTable (pairs : List KeyValue) : Except Cause Table :=
  pairs.foldlM (fun root kv =>
    let dotted := !kv.path.isEmpty
    Prod.fst <$> root.descendInline dotted [] (fun t =>
      if t.form.dotted == kv.path.isEmpty then .error (.duplicateKey kv.key.name none)
      else if (t.find? kv.key.name).isSome then .error (.duplicateKey kv.key.name none)
      else .ok (t.set kv.key kv.value, ())) kv.path)
    { form := { inline := true } }

/-- The state of a document being read: the root, and the table that the lines after the last
header go into, with that header's path. -/
structure DocumentBuilder where
  root : Table := {}
  current : Table := { span := some ⟨0, 0⟩ }
  currentPath : List Key := []
  currentIsArray : Bool := false

namespace DocumentBuilder

/-- The duplicate-key cause for the last key of a header path. -/
def duplicateHeader (path : List Key) : Cause :=
  let init := path.dropLast
  .duplicateKey ((path.getLast?.map (·.raw)).getD "") (some (init.map (·.name)))

/-- Adds a key/value line to the current table. -/
def addKeyValue (b : DocumentBuilder) (kv : KeyValue) : Except Cause DocumentBuilder := do
  let current := match b.current.span, kv.value.span? with
    | some s, some v => { b.current with span := some ⟨s.start, v.stop⟩ }
    | _, _ => b.current
  let (current, _) ← current.descend true [] (fun t =>
    if t.form.dotted == kv.path.isEmpty then .error (.duplicateKey kv.key.name none)
    else if (t.find? kv.key.name).isSome then
      .error (.duplicateKey kv.key.name (some (b.currentPath.map (·.name))))
    else .ok (t.set kv.key kv.value, ())) kv.path
  pure { b with current }

/-- Puts the current table where its header said, and starts an empty one. -/
def finishTable (b : DocumentBuilder) : Except Cause DocumentBuilder := do
  let table := b.current
  let path := b.currentPath
  let b := { b with current := {}, currentPath := [] }
  match path.getLast? with
  | none => pure { b with root := table }
  | some k =>
    let (root, _) ← b.root.descend false [] (fun parent =>
      if b.currentIsArray then
        match parent.find? k.name with
        | none => .ok (parent.set k (.tables [table.toItem] table.span), ())
        | some (.tables items _) =>
          let items := items ++ [table.toItem]
          let sp := match (items.head?.bind (·.span?)), (items.getLast?.bind (·.span?)) with
            | some first, some last => some ⟨first.start, last.stop⟩
            | _, _ => none
          .ok (parent.set k (.tables items sp), ())
        | some _ => .error (duplicateHeader path)
      else
        match parent.find? k.name with
        | none => .ok (parent.set k table.toItem, ())
        | some (.table form _ _) =>
          if !form.inline && form.implicit then .ok (parent.set k table.toItem, ())
          else .error (duplicateHeader path)
        | some _ => .error (duplicateHeader path)) path.dropLast
    pure { b with root }

/-- Opens the table of a `[...]` header. -/
def openTable (b : DocumentBuilder) (path : List Key) (span : Span) :
    Except Cause DocumentBuilder := do
  let b ← b.finishTable
  match path.getLast? with
  | none => pure b
  | some k =>
    let (root, taken) ← b.root.descend false [] (fun parent =>
      match parent.find? k.name with
      | none => .ok (parent, none)
      | some (.table form es sp) =>
        if !form.inline && form.implicit && !form.dotted then .ok (parent.erase k.name, some (Table.mk form es sp))
        else .error (duplicateHeader path)
      | some _ => .error (duplicateHeader path)) path.dropLast
    let t := taken.getD b.current
    pure { root, current := { t with form := { t.form with implicit := false, dotted := false },
                                     span := some span },
           currentPath := path, currentIsArray := false }

/-- Opens a new table of the array of a `[[...]]` header. -/
def openArrayTable (b : DocumentBuilder) (path : List Key) (span : Span) :
    Except Cause DocumentBuilder := do
  let b ← b.finishTable
  match path.getLast? with
  | none => pure b
  | some k =>
    let (root, _) ← b.root.descend false [] (fun parent =>
      match parent.find? k.name with
      | none => .ok (parent.set k (.tables [] none), ())
      | some (.tables ..) => .ok (parent, ())
      | some _ => .error (duplicateHeader path)) path.dropLast
    pure { root, current := { form := { implicit := false, dotted := false }, span := some span },
           currentPath := path, currentIsArray := true }

def finish (b : DocumentBuilder) : Except Cause Table := do
  let b ← b.finishTable
  pure b.root

end DocumentBuilder

end GlyphCanvas.Toml
