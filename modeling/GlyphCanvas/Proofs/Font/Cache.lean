import Mathlib
import GlyphCanvas.Font.Library

namespace GlyphCanvas

namespace FontLibrary

/-- What is done to a font library: load a font file, load the font files of a directory, or
resolve font parameters. -/
inductive Op where
  | loadData (data : ByteArray)
  | loadDir (files : List ByteArray)
  | resolve (p : FontParameters)

def Op.isLoad : Op → Bool
  | .resolve _ => false
  | _ => true

/-- The library after one operation. -/
def perform (lib : FontLibrary) : Op → FontLibrary
  | .loadData data => lib.loadData data
  | .loadDir files => files.foldl loadData lib
  | .resolve p => (lib.resolve p).1

/-- The library after a run of operations. -/
def run (lib : FontLibrary) (ops : List Op) : FontLibrary := ops.foldl perform lib

@[simp] theorem run_nil (lib : FontLibrary) : lib.run [] = lib := rfl

@[simp] theorem run_cons (lib : FontLibrary) (op : Op) (ops : List Op) :
    lib.run (op :: ops) = (lib.perform op).run ops := rfl

/-- The first cached entry of a key, with its slot. -/
def lookup (cache : Array (FaceKey × FontFace)) (key : FaceKey) : Option (Nat × FaceKey × FontFace) :=
  ((List.range cache.size).zip cache.toList).find? (·.2.1 == key)

section Lookup

variable {cache more : Array (FaceKey × FontFace)} {key : FaceKey}

theorem lookup_mem {slot : Nat} {k : FaceKey} {face : FontFace}
    (found : lookup cache key = some (slot, k, face)) : k = key ∧ (k, face) ∈ cache.toList := by
  have matching := List.find?_some found
  have member := List.of_mem_zip (List.mem_of_find?_eq_some found)
  exact ⟨by simpa using matching, member.2⟩

theorem lookup_none (missing : lookup cache key = none) : ∀ e ∈ cache.toList, e.1 ≠ key := by
  intro e member same
  obtain ⟨i, inside, rfl⟩ := List.getElem_of_mem member
  have absent := List.find?_eq_none.1 missing (i, cache.toList[i]) (by
    rw [List.mem_iff_getElem]
    exact ⟨i, by simpa using inside, by simp⟩)
  exact absent (by simpa using same)

theorem range_zip_append (l r : List (FaceKey × FontFace)) :
    (List.range (l.length + r.length)).zip (l ++ r) =
      (List.range l.length).zip l ++ ((List.range r.length).map (l.length + ·)).zip r := by
  rw [List.range_add, List.zip_append (by simp)]

theorem lookup_append {r : Nat × FaceKey × FontFace} (found : lookup cache key = some r) :
    lookup (cache ++ more) key = some r := by
  unfold lookup at found ⊢
  rw [Array.size_append, Array.toList_append, ← Array.length_toList, ← Array.length_toList,
    range_zip_append, List.find?_append, Array.length_toList, found]
  rfl

theorem lookup_push (missing : lookup cache key = none) (face : FontFace) :
    lookup (cache.push (key, face)) key = some (cache.size, key, face) := by
  unfold lookup at missing ⊢
  rw [Array.push_eq_append, Array.size_append, Array.toList_append, ← Array.length_toList,
    ← Array.length_toList, range_zip_append, List.find?_append, Array.length_toList, missing]
  simp

end Lookup

section Resolve

variable {lib : FontLibrary} {p : FontParameters}

theorem resolve_hit {slot : Nat} {k : FaceKey} {face : FontFace}
    (found : lookup lib.cache (FaceKey.ofParams p) = some (slot, k, face)) :
    lib.resolve p = (lib, .ok (face, slot)) := by
  unfold lookup at found
  simp only [resolve, found]

theorem resolve_miss {face : FontFace} (missing : lookup lib.cache (FaceKey.ofParams p) = none)
    (loaded : lib.loadFace (FaceKey.ofParams p) = .ok face) :
    lib.resolve p = ({ lib with cache := lib.cache.push (FaceKey.ofParams p, face) }, .ok (face, lib.cache.size)) := by
  unfold lookup at missing
  simp only [resolve, missing, loaded]

theorem resolve_fail {e : LibraryError} (missing : lookup lib.cache (FaceKey.ofParams p) = none)
    (failed : lib.loadFace (FaceKey.ofParams p) = .error e) : lib.resolve p = (lib, .error e) := by
  unfold lookup at missing
  simp only [resolve, missing, failed]

theorem resolve_cases (lib : FontLibrary) (p : FontParameters) :
    (∃ slot face, lookup lib.cache (FaceKey.ofParams p) = some (slot, FaceKey.ofParams p, face) ∧
        lib.resolve p = (lib, .ok (face, slot))) ∨
      (∃ face, lookup lib.cache (FaceKey.ofParams p) = none ∧ lib.loadFace (FaceKey.ofParams p) = .ok face ∧
        lib.resolve p =
          ({ lib with cache := lib.cache.push (FaceKey.ofParams p, face) }, .ok (face, lib.cache.size))) ∨
      (∃ e, lookup lib.cache (FaceKey.ofParams p) = none ∧ lib.loadFace (FaceKey.ofParams p) = .error e ∧
        lib.resolve p = (lib, .error e)) := by
  cases found : lookup lib.cache (FaceKey.ofParams p) with
  | some r =>
    obtain ⟨slot, k, face⟩ := r
    obtain ⟨rfl, -⟩ := lookup_mem found
    exact .inl ⟨slot, face, rfl, resolve_hit found⟩
  | none =>
    cases loaded : lib.loadFace (FaceKey.ofParams p) with
    | ok face => exact .inr (.inl ⟨face, rfl, rfl, resolve_miss found loaded⟩)
    | error e => exact .inr (.inr ⟨e, rfl, rfl, resolve_fail found loaded⟩)

theorem lookup_after_resolve {face : FontFace} {slot : Nat} (ok : (lib.resolve p).2 = .ok (face, slot)) :
    lookup (lib.resolve p).1.cache (FaceKey.ofParams p) = some (slot, FaceKey.ofParams p, face) := by
  rcases resolve_cases lib p with ⟨slot', face', found, eq⟩ | ⟨face', missing, -, eq⟩ | ⟨e, -, -, eq⟩
  all_goals rw [eq] at ok ⊢
  · obtain ⟨rfl, rfl⟩ := Prod.mk.inj (Except.ok.inj ok)
    exact found
  · obtain ⟨rfl, rfl⟩ := Prod.mk.inj (Except.ok.inj ok)
    exact lookup_push missing _
  · cases ok

end Resolve

theorem loadData_cache (lib : FontLibrary) (data : ByteArray) : (lib.loadData data).cache = lib.cache := rfl

theorem foldl_loadData_cache (files : List ByteArray) (lib : FontLibrary) :
    (files.foldl loadData lib).cache = lib.cache := by
  induction files generalizing lib with
  | nil => rfl
  | cons data files ih => exact (ih (lib.loadData data)).trans (loadData_cache lib data)

theorem perform_load {lib : FontLibrary} {op : Op} (load : op.isLoad = true) :
    (lib.perform op).cache = lib.cache := by
  cases op with
  | loadData data => rfl
  | loadDir files => exact foldl_loadData_cache files lib
  | resolve p => cases load

theorem perform_extends (lib : FontLibrary) (op : Op) : ∃ more, (lib.perform op).cache = lib.cache ++ more := by
  cases op with
  | resolve p =>
    rcases resolve_cases lib p with ⟨_, _, -, eq⟩ | ⟨face, -, -, eq⟩ | ⟨_, -, -, eq⟩
    all_goals simp only [perform, eq]
    · exact ⟨#[], by simp⟩
    · exact ⟨#[(FaceKey.ofParams p, face)], Array.push_eq_append⟩
    · exact ⟨#[], by simp⟩
  | _ => exact ⟨#[], by rw [perform_load rfl, Array.append_empty]⟩

theorem run_extends (lib : FontLibrary) (ops : List Op) : ∃ more, (lib.run ops).cache = lib.cache ++ more := by
  induction ops generalizing lib with
  | nil => exact ⟨#[], by simp⟩
  | cons op ops ih =>
    obtain ⟨first, step⟩ := perform_extends lib op
    obtain ⟨rest, later⟩ := ih (lib.perform op)
    exact ⟨first ++ rest, by rw [run_cons, later, step, Array.append_assoc]⟩

theorem resolve_after_run {lib : FontLibrary} {p q : FontParameters} {face : FontFace} {slot : Nat}
    (ok : (lib.resolve p).2 = .ok (face, slot)) (same : FaceKey.ofParams q = FaceKey.ofParams p)
    (ops : List Op) :
    ((lib.resolve p).1.run ops).resolve q = ((lib.resolve p).1.run ops, .ok (face, slot)) := by
  obtain ⟨more, grown⟩ := run_extends (lib.resolve p).1 ops
  apply resolve_hit (k := FaceKey.ofParams p)
  rw [grown, same]
  exact lookup_append (lookup_after_resolve ok)

/-- The cache agrees with the catalogue on `key`: loading it gives the face of every cached entry
of that key. -/
def SyncedAt (lib : FontLibrary) (key : FaceKey) : Prop :=
  ∀ e ∈ lib.cache.toList, e.1 = key → lib.loadFace key = .ok e.2

theorem syncedAt_of_missing {lib : FontLibrary} {key : FaceKey} (missing : lookup lib.cache key = none) :
    lib.SyncedAt key :=
  fun e member same => absurd same (lookup_none missing e member)

theorem syncedAt_of_empty {lib : FontLibrary} (empty : lib.cache.size = 0) (key : FaceKey) : lib.SyncedAt key := by
  intro e member
  rw [Array.size_eq_zero_iff.1 empty] at member
  simp at member

theorem resolve_agrees_of_syncedAt {lib : FontLibrary} {p : FontParameters}
    (synced : lib.SyncedAt (FaceKey.ofParams p)) :
    (lib.resolve p).2.map Prod.fst = lib.loadFace (FaceKey.ofParams p) := by
  rcases resolve_cases lib p with ⟨slot, face, found, eq⟩ | ⟨face, -, loaded, eq⟩ | ⟨e, -, failed, eq⟩
  all_goals rw [eq]
  · -- a hit: the cached entry carries the very key asked for
    obtain ⟨-, member⟩ := lookup_mem found
    exact (synced _ member rfl).symm
  · exact loaded.symm
  · exact failed.symm

theorem loadFace_with_cache (lib : FontLibrary) (cache : Array (FaceKey × FontFace)) (key : FaceKey) :
    ({ lib with cache } : FontLibrary).loadFace key = lib.loadFace key := rfl

theorem SyncedAt.resolve {lib : FontLibrary} {key : FaceKey} (synced : lib.SyncedAt key) (p : FontParameters) :
    (lib.resolve p).1.SyncedAt key := by
  rcases resolve_cases lib p with ⟨_, _, -, eq⟩ | ⟨face, -, loaded, eq⟩ | ⟨_, -, -, eq⟩
  all_goals rw [eq]
  · exact synced
  · intro e member same
    rw [loadFace_with_cache]
    simp only [Array.toList_push, List.mem_append, List.mem_singleton] at member
    rcases member with old | rfl
    · exact synced e old same
    · rw [← same]
      exact loaded
  · exact synced

/-- No font is loaded while `key` is cached. -/
def UncachedAtLoads : FontLibrary → List Op → FaceKey → Prop
  | _, [], _ => True
  | lib, op :: ops, key =>
    (op.isLoad = true → lookup lib.cache key = none) ∧ UncachedAtLoads (lib.perform op) ops key

instance decUncachedAtLoads : (lib : FontLibrary) → (ops : List Op) → (key : FaceKey) →
    Decidable (UncachedAtLoads lib ops key)
  | _, [], _ => isTrue trivial
  | lib, op :: ops, key =>
    haveI := decUncachedAtLoads (lib.perform op) ops key
    inferInstanceAs
      (Decidable ((op.isLoad = true → lookup lib.cache key = none) ∧ UncachedAtLoads (lib.perform op) ops key))

theorem SyncedAt.run {lib : FontLibrary} {key : FaceKey} (synced : lib.SyncedAt key) (ops : List Op)
    (uncached : UncachedAtLoads lib ops key) : (lib.run ops).SyncedAt key := by
  induction ops generalizing lib with
  | nil => exact synced
  | cons op ops ih =>
    obtain ⟨before, later⟩ := uncached
    rw [run_cons]
    apply ih _ later
    cases op with
    | resolve p => exact synced.resolve p
    | _ => exact syncedAt_of_missing (by rw [perform_load rfl]; exact before rfl)

theorem resolve_of_failed {lib : FontLibrary} {p : FontParameters} (failed : (lib.resolve p).2.isOk = false) :
    (lib.resolve p).1 = lib := by
  rcases resolve_cases lib p with ⟨_, _, -, eq⟩ | ⟨_, -, -, eq⟩ | ⟨_, -, -, eq⟩
  · rw [eq] at failed; cases failed
  · rw [eq] at failed; cases failed
  · rw [eq]

/-- The cache is transparent for every key that is not cached when a font is loaded. A failed
resolution leaves the library as it was; a successful one is the answer to every later resolution
of an equal key, whatever is loaded or resolved in between; and in a run from an empty cache,
resolving a key that was never cached at a font load of the run gives what loading the face from
the catalogue as it then stands gives, face or error. -/
theorem resolve_cache_transparent :
    (∀ (lib : FontLibrary) (p : FontParameters), (lib.resolve p).2.isOk = false → (lib.resolve p).1 = lib) ∧
    (∀ (lib : FontLibrary) (p q : FontParameters) (ops : List Op), (lib.resolve p).2.isOk = true →
      FaceKey.ofParams q = FaceKey.ofParams p → (((lib.resolve p).1.run ops).resolve q).2 = (lib.resolve p).2) ∧
    (∀ (lib : FontLibrary) (ops : List Op) (p : FontParameters), lib.cache.size = 0 →
      UncachedAtLoads lib ops (FaceKey.ofParams p) →
      ((lib.run ops).resolve p).2.map Prod.fst = (lib.run ops).loadFace (FaceKey.ofParams p)) := by
  refine ⟨fun lib p failed => resolve_of_failed failed, ?_, ?_⟩
  · intro lib p q ops ok same
    cases found : (lib.resolve p).2 with
    | error e => rw [found] at ok; cases ok
    | ok r => rw [resolve_after_run found same ops]
  · intro lib ops p empty uncached
    exact resolve_agrees_of_syncedAt ((syncedAt_of_empty empty _).run ops uncached)

/-- A font file with one face and only a naming table, whose family and PostScript names are both
`family` (Macintosh Roman). -/
def tinyFace (family : String) : ByteArray :=
  let name := family.toUTF8.toList
  let n : UInt8 := name.length.toUInt8
  let record (id : UInt8) : List UInt8 := [0, 1, 0, 0, 0, 0, 0, id, 0, n, 0, 0]
  ([0, 1, 0, 0, 0, 1, 0, 16, 0, 0, 0, 0, 0x6E, 0x61, 0x6D, 0x65, 0, 0, 0, 0, 0, 0, 0, 28, 0, 0, 0, 30 + n,
    0, 0, 0, 2, 0, 30] ++ record 1 ++ record 6 ++ name).toByteArray

/-- An empty library fails to resolve and stays empty; a cached `Foo` face still answers after
another font is loaded; and once `Foo` has been resolved to the `Arial` face, a `Bar` font loaded
later is what resolving `Bar` gives, as loading gives it. -/
theorem cached_face_answers_equal_keys :
    (FontLibrary.empty.resolve (FontParameters.new "Foo" 12)).1 = FontLibrary.empty ∧
    ((((FontLibrary.empty.loadData (tinyFace "Foo")).resolve (FontParameters.new "Foo" 12)).1.run
        [.loadData (tinyFace "Arial"), .resolve (FontParameters.new "Arial" 12)]).resolve
          (FontParameters.new "Foo" 20)).2 =
      ((FontLibrary.empty.loadData (tinyFace "Foo")).resolve (FontParameters.new "Foo" 12)).2 ∧
    ((FontLibrary.empty.run [.loadData (tinyFace "Arial"), .resolve (FontParameters.new "Foo" 12),
        .loadData (tinyFace "Bar")]).resolve (FontParameters.new "Bar" 12)).2.map Prod.fst =
      (FontLibrary.empty.run [.loadData (tinyFace "Arial"), .resolve (FontParameters.new "Foo" 12),
        .loadData (tinyFace "Bar")]).loadFace (FaceKey.ofParams (FontParameters.new "Bar" 12)) :=
  ⟨resolve_cache_transparent.1 _ _ (by decide +kernel),
    resolve_cache_transparent.2.1 _ _ _ _ (by decide +kernel) (by decide),
    resolve_cache_transparent.2.2 _ _ _ rfl (by decide +kernel)⟩

/-- With only `Arial` loaded, `Foo` resolves to the sans-serif `Arial` face and is cached; once a
`Foo` font is loaded, loading the face gives `Foo`, while resolution still gives the cached
`Arial` face. -/
theorem late_font_leaves_cached_face_stale :
    ((FontLibrary.empty.run [.loadData (tinyFace "Arial"), .resolve (FontParameters.new "Foo" 12),
        .loadData (tinyFace "Foo")]).resolve (FontParameters.new "Foo" 12)).2.map (fun r => r.1.data) =
      .ok (tinyFace "Arial") ∧
    ((FontLibrary.empty.run [.loadData (tinyFace "Arial"), .resolve (FontParameters.new "Foo" 12),
        .loadData (tinyFace "Foo")]).loadFace (FaceKey.ofParams (FontParameters.new "Foo" 12))).map
        FontFace.data = .ok (tinyFace "Foo") ∧
    tinyFace "Arial" ≠ tinyFace "Foo" :=
  ⟨by decide +kernel, by decide +kernel, by decide +kernel⟩

end FontLibrary

end GlyphCanvas
