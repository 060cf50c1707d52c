import GlyphCanvas.Font.Parameters

namespace GlyphCanvas

/-- A font description, numbered at creation. -/
structure FontStyle where
  id : Nat
  params : FontParameters
  deriving DecidableEq, Repr

/-- A handle to a font description, or an empty handle. -/
structure FontHandle where
  style : Option FontStyle := none
  deriving DecidableEq, Repr, Inhabited

namespace FontHandle

def null : FontHandle := {}

/-- The parameters of a live handle. -/
def parameters (h : FontHandle) : Option FontParameters := h.style.map (·.params)

def isNull (h : FontHandle) : Bool := h.style.isNone

/-- Two handles share a description, or are both empty. -/
def sharesWith (a b : FontHandle) : Bool :=
  match a.style, b.style with
  | some x, some y => x.id == y.id
  | none, none => true
  | _, _ => false

end FontHandle

/-- A list of handles and the number the next description gets. -/
structure HandleTable where
  handles : Array FontHandle := #[]
  nextId : Nat := 0
  deriving Repr

/-- An operation on a table of handles. -/
inductive HandleStep where
  | create (params : FontParameters)
  | null
  | clone (i : Nat)
  | release (i : Nat)
  | replace (i : Nat) (params : FontParameters)
  | drop (i : Nat)
  deriving Repr

namespace HandleTable

def fresh (t : HandleTable) (p : FontParameters) : FontHandle × HandleTable :=
  (⟨some ⟨t.nextId, p⟩⟩, { t with nextId := t.nextId + 1 })

/-- Applies a step; a step naming a handle that is not there fails (`none`) and changes nothing. -/
def apply (t : HandleTable) : HandleStep → Option HandleTable
  | .create p => let (h, t) := t.fresh p; some { t with handles := t.handles.push h }
  | .null => some { t with handles := t.handles.push .null }
  | .clone i => t.handles[i]?.map fun h => { t with handles := t.handles.push h }
  | .release i => t.handles[i]?.map fun _ => { t with handles := t.handles.set! i .null }
  | .replace i p =>
    t.handles[i]?.map fun _ => let (h, t) := t.fresh p; { t with handles := t.handles.set! i h }
  | .drop i => t.handles[i]?.map fun _ => { t with handles := t.handles.eraseIdx! i }

/-- The first index whose handle shares a description with the handle at `i`. -/
def shareIndex (t : HandleTable) (i : Nat) : Nat :=
  match t.handles[i]? with
  | some h => (t.handles.findIdx? (·.sharesWith h)).getD i
  | none => i

end HandleTable

end GlyphCanvas
