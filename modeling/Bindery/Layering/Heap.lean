import Bindery.Json.Basic

/-!
# Shared data and its deep copy

Host data is made of values held as they are (scalars, fixed arrays, records) and of references
into a heap of cells: maps, pointers, and slices, which view a run of a backing cell's items.
Two holders of one reference see each other's writes.

`Heap.clone` copies a datum deeply. Every reference is copied once: a reference met again, by a
cycle or by sharing, is answered with its first copy, so the copy has the shape of the source
down to its sharing. References are told apart by their cell and their kind, and slices also by
the run they view. The absent reference stays absent, and a record's hidden fields keep the
datum they held, so the copy shares whatever they reach.
-/

namespace Bindery.Layering

inductive Datum where
  | scalar (j : Json)
  | none
  | map (cell : Nat)
  | pointer (cell : Nat)
  | slice (cell start len : Nat)
  | array (items : List Datum)
  | record (fields : List (String × Bool × Datum))
deriving Inhabited

inductive Cell where
  | entries (es : List (String × Datum))
  | items (xs : List Datum)
  | target (d : Datum)
deriving Inhabited

/-- A heap of cells, numbered from zero in order of allocation. -/
structure Heap where
  cells : Array Cell := #[]
deriving Inhabited

def Heap.alloc (h : Heap) (c : Cell) : Heap × Nat := (⟨h.cells.push c⟩, h.cells.size)

/-- The cell of a number; an empty array when there is none. -/
def Heap.cell (h : Heap) (n : Nat) : Cell := h.cells[n]?.getD (.items [])

def Heap.setCell (h : Heap) (n : Nat) (c : Cell) : Heap := ⟨h.cells.modify n fun _ => c⟩

def Heap.entries (h : Heap) : Datum → List (String × Datum)
  | .map n =>
    match h.cell n with
    | .entries es => es
    | _ => []
  | _ => []

def Heap.items (h : Heap) : Datum → List Datum
  | .slice n start len =>
    match h.cell n with
    | .items xs => (xs.drop start).take len
    | _ => []
  | .array xs => xs
  | _ => []

def Heap.deref (h : Heap) : Datum → Datum
  | .pointer n =>
    match h.cell n with
    | .target d => d
    | _ => .none
  | _ => .none

def Heap.lookup (h : Heap) (d : Datum) (key : String) : Datum :=
  ((h.entries d).lookup key).getD .none

/-- The heap after setting a key of a map: a key already present keeps its place. -/
def Heap.setEntry (h : Heap) (d : Datum) (key : String) (v : Datum) : Heap :=
  match d with
  | .map n =>
    let es := h.entries d
    let es := if es.any (·.1 == key) then es.map fun e => if e.1 == key then (key, v) else e
      else es ++ [(key, v)]
    h.setCell n (.entries es)
  | _ => h

def Heap.setItem (h : Heap) (d : Datum) (i : Nat) (v : Datum) : Heap :=
  match d with
  | .slice n start len =>
    match h.cell n with
    | .items xs => if i < len then h.setCell n (.items (xs.set (start + i) v)) else h
    | _ => h
  | _ => h

def Heap.store (h : Heap) (d : Datum) (v : Datum) : Heap :=
  match d with
  | .pointer n => h.setCell n (.target v)
  | _ => h

def Datum.field (d : Datum) (name : String) : Datum :=
  match d with
  | .record fields => ((fields.find? (·.1 == name)).map (·.2.2)).getD .none
  | _ => .none

def Datum.setField (d : Datum) (name : String) (v : Datum) : Datum :=
  match d with
  | .record fields => .record (fields.map fun f => if f.1 == name then (f.1, f.2.1, v) else f)
  | other => other

def Datum.setIndex (d : Datum) (i : Nat) (v : Datum) : Datum :=
  match d with
  | .array xs => .array (xs.set i v)
  | other => other

def Datum.sameRef : Datum → Datum → Bool
  | .map a, .map b | .pointer a, .pointer b => a == b
  | .slice a s n, .slice b t m => a == b && s == t && n == m
  | _, _ => false

def Datum.isNone : Datum → Bool
  | .none => true
  | _ => false

mutual

/-- The size of a datum as held: one, plus its parts for arrays and records. -/
def Datum.weight : Datum → Nat
  | .array items => 1 + weightAll items
  | .record fields => 1 + weightFields fields
  | _ => 1

def weightAll : List Datum → Nat
  | [] => 0
  | d :: ds => d.weight + weightAll ds

def weightFields : List (String × Bool × Datum) → Nat
  | [] => 0
  | (_, _, d) :: rest => d.weight + weightFields rest

end

def Cell.weight : Cell → Nat
  | .entries es => weightAll (es.map (·.2))
  | .items xs => weightAll xs
  | .target d => d.weight

def Heap.weight (h : Heap) : Nat := h.cells.foldl (fun n c => n + c.weight) 0

inductive Ref where
  | map (cell : Nat)
  | pointer (cell : Nat)
  | slice (cell start len : Nat)
deriving DecidableEq, Inhabited

/-- The state of a copy: the heap, and the references copied so far with their copies. -/
structure Copying where
  heap : Heap
  seen : List (Ref × Datum) := []

def Copying.alloc (c : Cell) : StateM Copying Nat :=
  modifyGet fun s => let (h, n) := s.heap.alloc c; (n, { s with heap := h })

def Copying.remember (r : Ref) (d : Datum) : StateM Copying Unit :=
  modify fun s => { s with seen := (r, d) :: s.seen }

def Copying.fill (n : Nat) (c : Cell) : StateM Copying Unit :=
  modify fun s => { s with heap := s.heap.setCell n c }

mutual

/-- Copies a datum as it is held: scalars and the absent reference stay, arrays and records are
copied part by part, a record's hidden fields keeping their datum, and each reference met is
copied by `ref`. -/
def copyHeld (ref : Datum → StateM Copying Datum) : Datum → StateM Copying Datum
  | .array items => do pure (.array (← copyItems ref items))
  | .record fields => do pure (.record (← copyFields ref fields))
  | .map n => ref (.map n)
  | .pointer n => ref (.pointer n)
  | .slice n start len => ref (.slice n start len)
  | other => pure other

def copyItems (ref : Datum → StateM Copying Datum) : List Datum → StateM Copying (List Datum)
  | [] => pure []
  | d :: ds => do
    let d' ← copyHeld ref d
    pure (d' :: (← copyItems ref ds))

/-- Copies the visible fields of a record in order, as `copyHeld` does. -/
def copyFields (ref : Datum → StateM Copying Datum) :
    List (String × Bool × Datum) → StateM Copying (List (String × Bool × Datum))
  | [] => pure []
  | (name, visible, d) :: rest => do
    let d' ← if visible then copyHeld ref d else pure d
    pure ((name, visible, d') :: (← copyFields ref rest))

end

/-- Copies a reference: a reference met before is answered with its first copy; any other gets
a new cell, remembered before its contents are copied, so that a cycle back to it meets the
copy. The contents are copied with at most `fuel` more references expanded below it. -/
def copyRef : Nat → Datum → StateM Copying Datum
  | 0, d => pure d
  | fuel + 1, d => do
    match d with
    | .map n =>
      if let some c := (← get).seen.lookup (.map n) then return c
      let fresh ← Copying.alloc (.entries [])
      Copying.remember (.map n) (.map fresh)
      let es := (← get).heap.entries d
      let copied ← es.mapM fun (k, v) => do pure (k, ← copyHeld (copyRef fuel) v)
      Copying.fill fresh (.entries copied)
      pure (.map fresh)
    | .pointer n =>
      if let some c := (← get).seen.lookup (.pointer n) then return c
      let fresh ← Copying.alloc (.target .none)
      Copying.remember (.pointer n) (.pointer fresh)
      let target := (← get).heap.deref d
      Copying.fill fresh (.target (← copyHeld (copyRef fuel) target))
      pure (.pointer fresh)
    | .slice n start len =>
      if let some c := (← get).seen.lookup (.slice n start len) then return c
      let items := (← get).heap.items d
      let fresh ← Copying.alloc (.items (items.map fun _ => .none))
      Copying.remember (.slice n start len) (.slice fresh 0 items.length)
      let copied ← copyItems (copyRef fuel) items
      Copying.fill fresh (.items copied)
      pure (.slice fresh 0 items.length)
    | other => pure other

/-- A deep copy of a datum, expanding at most `fuel` references along any path. -/
def copyWith (fuel : Nat) (d : Datum) : StateM Copying Datum := copyHeld (copyRef fuel) d

/-- A deep copy of a datum in a heap: the heap with the copy's cells, and the copy. The budget
exceeds the number of references the heap and the datum hold, each expanded at most once. -/
def Heap.clone (h : Heap) (d : Datum) : Heap × Datum :=
  let (copy, s) := (copyWith (h.weight + d.weight + 1) d).run { heap := h }
  (s.heap, copy)

/-- Stores a document in a heap: objects become maps, arrays slices, null the absent
reference. -/
def Heap.ofJson : Nat → Heap → Json → Heap × Datum
  | 0, h, _ => (h, .none)
  | fuel + 1, h, j =>
    match j with
    | .null => (h, .none)
    | .arr items =>
      let (h, ds) := items.foldl (fun (acc : Heap × List Datum) x =>
        let (h, d) := Heap.ofJson fuel acc.1 x
        (h, acc.2 ++ [d])) (h, [])
      let (h, n) := h.alloc (.items ds)
      (h, .slice n 0 ds.length)
    | .obj fields =>
      let (h, es) := fields.foldl (fun (acc : Heap × List (String × Datum)) (k, x) =>
        let (h, d) := Heap.ofJson fuel acc.1 x
        let es := acc.2.filter (·.1 != k)
        (h, es ++ [(k, d)])) (h, [])
      let (h, n) := h.alloc (.entries es)
      (h, .map n)
    | other => (h, .scalar other)

/-- A datum as a document, at most `fuel` levels deep: maps and visible record fields become
objects, slices and arrays arrays, pointers what they point at, the absent reference null. -/
def Heap.toJson (h : Heap) : Nat → Datum → Json
  | 0, _ => .null
  | fuel + 1, d =>
    match d with
    | .scalar j => j
    | .none => .null
    | .map _ => .obj ((h.entries d).map fun (k, v) => (k, h.toJson fuel v))
    | .pointer _ => h.toJson fuel (h.deref d)
    | .slice .. | .array _ => .arr ((h.items d).map (h.toJson fuel))
    | .record fields =>
      .obj ((fields.filter (·.2.1)).map fun (k, _, v) => (k, h.toJson fuel v))

end Bindery.Layering
