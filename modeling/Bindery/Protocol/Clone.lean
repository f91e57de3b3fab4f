import Bindery.Protocol.Answer
import Bindery.Layering.Heap

/-!
# Copy requests

A `clone` request copies a document deeply and answers the copy. Its kinds build data with
sharing, cycles and records, copy it, write to the copy, and answer what the source and the
copy then hold:

* `shared`: a list holding one map twice and one slice twice; the copy's first map and second
  slice are written to.
* `self_map`: a map holding itself; a key is added to the copy.
* `struct`: a record with an array, a pointer, absent map, pointer and slice, and a hidden slice;
  the copy's array and pointed number are written to.
* `nil_any`: nothing.
* `cycle`: a record with a name and tags whose nested field points back at it; the copy's name
  gets a prime.
-/

namespace Bindery.Protocol

open Layering

def shownDepth : Nat := 64

def number (i : Int) : Datum := .scalar (.int i)

/-- Copies a list holding one map and one slice twice each, then writes to the copy. -/
def sharedCopy : Json :=
  let (h, m) := Heap.alloc {} (.entries [("k", number 1)])
  let (h, s) := h.alloc (.items [number 1, number 2])
  let (h, v) := h.alloc (.items [.map m, .map m, .slice s 0 2, .slice s 0 2])
  let orig := Datum.slice v 0 4
  let (h, copy) := h.clone orig
  let items := h.items copy
  let h := h.setEntry (items.getD 0 .none) "k" (number 2)
  let h := h.setItem (items.getD 2 .none) 0 (number 9)
  .obj [("clone", h.toJson shownDepth copy), ("orig", h.toJson shownDepth orig)]

/-- Copies a map holding itself, then adds a key to the copy. -/
def selfMapCopy : Json :=
  let (h, m) := Heap.alloc {} (.entries [])
  let h := h.setEntry (.map m) "self" (.map m)
  let (h, copy) := h.clone (.map m)
  let selfIsCopy := (h.lookup copy "self").sameRef copy
  let h := h.setEntry copy "extra" (number 1)
  .obj [("self_is_clone", .bool selfIsCopy), ("orig_n", .int (h.entries (.map m)).length),
    ("clone_n", .int (h.entries copy).length)]

/-- Copies a record with an array, a pointer, absent references and a hidden slice, then writes
to the copy's array and pointed number. -/
def recordCopy : Json :=
  let (h, p) := Heap.alloc {} (.target (number 5))
  let (h, hidden) := h.alloc (.items [number 1])
  let orig : Datum := .record [("Arr", true, .array [number 1, number 2, number 3]),
    ("Ptr", true, .pointer p), ("NilMap", true, .none), ("NilPtr", true, .none),
    ("NilSlice", true, .none), ("hidden", false, .slice hidden 0 1)]
  let (h, copy) := h.clone orig
  let copy := copy.setField "Arr" ((copy.field "Arr").setIndex 0 (number 9))
  let h := h.store (copy.field "Ptr") (number 6)
  let shown (d : Datum) : Json := h.toJson shownDepth d
  .obj [("orig_arr", shown (orig.field "Arr")), ("clone_arr", shown (copy.field "Arr")),
    ("orig_ptr", shown (orig.field "Ptr")), ("clone_ptr", shown (copy.field "Ptr")),
    ("hidden_shared", .bool ((copy.field "hidden").sameRef (orig.field "hidden"))),
    ("nil_map", .bool (copy.field "NilMap").isNone), ("nil_ptr", .bool (copy.field "NilPtr").isNone),
    ("nil_slice", .bool (copy.field "NilSlice").isNone)]

/-- Copies a record that points at itself, with a name and tags. -/
def cycleCopy (req : Json) : Json :=
  let names := req.strings "tags"
  let (h, tags) := Heap.ofJson shownDepth {} (.arr (names.map .str))
  let (h, node) := h.alloc (.target .none)
  let record : Datum := .record [("Name", true, .scalar (.str (req.strD "name"))),
    ("Tags", true, tags), ("Nested", true, .pointer node)]
  let h := h.store (.pointer node) record
  let (h, copy) := h.clone (.pointer node)
  let renamed := (h.deref copy).setField "Name" (.scalar (.str (req.strD "name" ++ "'")))
  let h := h.store copy renamed
  let copied := h.deref copy
  .obj [("distinct", .bool !(copy.sameRef (.pointer node))),
    ("self_loop", .bool ((copied.field "Nested").sameRef copy)),
    ("orig", h.toJson shownDepth (record.field "Name")),
    ("clone", h.toJson shownDepth (copied.field "Name")),
    ("tags", h.toJson shownDepth (copied.field "Tags"))]

def cloneRequest (req : Json) : Json :=
  let r := if req.flag "cycle" then cycleCopy req else
    match req.str? "kind" with
    | some "shared" => sharedCopy
    | some "self_map" => selfMapCopy
    | some "struct" => recordCopy
    | some "nil_any" => .null
    | _ =>
      let value := (req.field? "value").getD .null
      let (h, d) := Heap.ofJson (shownDepth * 4) {} value
      let (h, copy) := h.clone d
      h.toJson (shownDepth * 4) copy
  .obj [("r", r)]

end Bindery.Protocol
