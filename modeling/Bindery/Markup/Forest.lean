import Bindery.World
import Bindery.Value.Decode
import Bindery.Markup.Html

/-!
# Forests of markup nodes

Nodes live in the runtime's state and name their children and next sibling by number. A forest
is planted from a request's node description (tag, kind, label, attributes and children), and
`groupScan` collects the sibling range that a start attribute opens and the matching end attribute
closes.
-/

namespace Bindery.Markup

def nodeAt (id : Nat) : Run (Option Node) := do pure (← get).nodes[id]?

def addNode (n : Node) : Run Nat :=
  modifyGet fun w => (w.nodes.size, { w with nodes := w.nodes.push n })

def setNode (id : Nat) (n : Node) : Run Unit :=
  modify fun w => { w with nodes := w.nodes.set! id n }

/-- Links each node of a list to the next as its sibling. -/
def linkSiblings : List Nat → Run Unit
  | a :: b :: rest => do
    match ← nodeAt a with
    | some n => setNode a { n with next := some b }
    | none => pure ()
    linkSiblings (b :: rest)
  | _ => pure ()

/-- An attribute of a node description: a name alone, or a name and a value. -/
def attrOfJson : Json → Option (String × String)
  | .str name => some (name, "")
  | .arr [.str name, .str value] => some (name, value)
  | .arr [.str name] => some (name, "")
  | _ => none

/-- Plants the nodes described by a list of descriptions as siblings; returns their numbers. -/
def plantAll : Nat → List Json → Run (List Nat)
  | 0, _ => pure []
  | fuel + 1, descs => do
    let ids ← descs.mapM fun d => do
      let kind := match d.str? "type" with
        | some "text" => Kind.text
        | some "comment" => Kind.comment
        | _ => Kind.element
      let tag := match d.str? "tag", kind with
        | some t, _ => t
        | none, .text => "#text"
        | none, .comment => "#comment"
        | none, .element => ""
      let label := match d.str? "id" with
        | some i => tag ++ "#" ++ i
        | none => tag
      let children ← plantAll fuel (d.items "children")
      addNode { kind, tag, label, children, attrs := (d.items "attrs").filterMap attrOfJson }
    linkSiblings ids
    pure ids

def plant (descs : List Json) : Run (List Nat) := plantAll 64 descs

/-- Plants parsed trees as siblings, at most `fuel` levels deep; returns their numbers. -/
def plantTrees : Nat → List Html.Tree → Run (List Nat)
  | 0, _ => pure []
  | fuel + 1, ts => do
    let ids ← ts.mapM fun t => do
      match t with
      | .element _ tag attrs children =>
        let children ← plantTrees fuel children
        addNode { kind := .element, tag, attrs, children, label := Html.elementLabel tag attrs, parsed := true }
      | .text s =>
        addNode { kind := .text, tag := "#text", label := "#text", content := s, parsed := true }
      | .comment s =>
        addNode { kind := .comment, tag := "#comment", label := "#comment", content := s, parsed := true }
    linkSiblings ids
    pure ids

def plantHtml (text : String) : Run (List Nat) := plantTrees (text.length + 1) (Html.parse text)

def siblingsFrom (nodes : Array Node) (start : Nat) : List Nat :=
  let rec go (fuel : Nat) (id : Nat) : List Nat :=
    match fuel with
    | 0 => []
    | fuel + 1 => id :: (match nodes[id]?.bind (·.next) with
      | some nxt => go fuel nxt
      | none => [])
  go nodes.size start

/-- The group a start attribute opens at a node: the node alone when it lacks the attribute (or
no attribute is given), otherwise the shortest run of siblings from it at whose last node the
count of elements with the start attribute, less those with the end attribute, is zero or less
(or the whole run to the last sibling). -/
def groupScan (nodes : Array Node) (node : Nat) (start finish : String) : List Nat :=
  let carries (id : Nat) (a : String) : Bool := (nodes[id]?.map (·.hasAttr a)).getD false
  if start.isEmpty || !carries node start then [node] else
  let rec take (depth : Int) : List Nat → List Nat
    | [] => []
    | id :: rest =>
      let isEl := (nodes[id]?.map (·.isElement)).getD false
      let depth :=
        if isEl && carries id start then depth + 1
        else if isEl && carries id finish then depth - 1
        else depth
      if depth ≤ 0 then [id] else id :: take depth rest
  take 0 (siblingsFrom nodes node)

/-- The group at a node that may be missing: no nodes at all without one. -/
def groupScanAt (nodes : Array Node) (node : Option Nat) (start finish : String) : List Nat :=
  match node with
  | none => []
  | some id => groupScan nodes id start finish

end Bindery.Markup
