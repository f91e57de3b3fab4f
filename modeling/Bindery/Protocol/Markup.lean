import Bindery.Protocol.Answer
import Bindery.Protocol.Names
import Bindery.Markup.Forest
import Bindery.Markup.Render

/-!
# Requests on markup

`group_scan` plants a forest (from node descriptions or HTML), walks to a start node and answers
the labels of the group opened there. `dom` parses HTML and answers its tree, the elements of a
tag, the data bags after every element received the same entries, and the text written back.
-/

namespace Bindery.Protocol

open Markup

/-- The forest a request describes, by node descriptions or by HTML. -/
def plantRequest (req : Json) : Run (List Nat) :=
  match req.str? "html" with
  | some text => plantHtml text
  | none => plant (req.items "nodes")

def walkPath (roots : List Nat) (index : Int) (path : List Json) : Run (Option Nat) := do
  let nodes := (← get).nodes
  let pick (xs : List Nat) (i : Int) : Option Nat := if i < 0 then none else xs[i.toNat]?
  pure (path.foldl (fun at? step =>
    match at?, step with
    | some id, .int i => (nodes[id]?.map (·.children)).bind fun cs => pick cs i
    | _, _ => none) (pick roots index))

def groupScanRequest (req : Json) : Run Json := do
  let roots ← plantRequest req
  let node ← walkPath roots ((req.num? "index").getD 0) (req.items "path")
  let nodes := (← get).nodes
  -- a missing node has an empty group, answered as null
  let group := groupScanAt nodes node (req.strD "start") (req.strD "end")
  pure (.obj [("r", listOrNull (group.map fun g => .str ((nodes[g]?.map (·.label)).getD "")))])

/-- The description of a node: tag, whether it is an element, attributes, the text of a text or
comment node (the text nodes within it, so none for a comment), and the children when there are
any. -/
def describeTree (fuel : Nat) (t : Html.Tree) : Json :=
  match fuel, t with
  | 0, _ => .null
  | _, .text s => .obj [("tag", .str "#text"), ("element", .bool false), ("attrs", .arr []), ("text", .str s)]
  | _, .comment _ =>
    .obj [("tag", .str "#comment"), ("element", .bool false), ("attrs", .arr []), ("text", .str "")]
  | fuel + 1, .element _ tag attrs children =>
    let base := [("tag", .str tag), ("element", .bool true),
      ("attrs", .arr (attrs.map fun (k, v) => .arr [.str k, .str v]))]
    .obj (if children.isEmpty then base else base ++ [("children", .arr (children.map (describeTree fuel)))])

def domRequest (req : Json) : Run Json := do
  let text := req.strD "html"
  let trees := Html.parse text
  let fuel := text.length + 1
  let els := Html.elements fuel trees
  let tree := ("tree", Json.arr (trees.map (describeTree fuel)))
  let find : List (String × Json) := match req.str? "find" with
    | some tag =>
      let tag := Text.lower tag
      let found := els.filter fun t => match t with
        | .element _ name _ _ => name == tag
        | _ => false
      [("find", listOrNull (found.map fun t =>
        .obj [("label", .str t.label), ("text", .str (t.textContent fuel)),
          ("id", .str ((t.attr "id").getD ""))]))]
    | none => []
  let bag := req.fieldsOf "set_data"
  let data ← match req.str? "get_data" with
    | some key => do
      let entry := (Json.dedupFields bag).find? (·.1 == key)
      let rows ← els.mapM fun t => do
        let value ← match entry with
          | some (_, v) => encode (← Value.ofJson v)
          | none => pure .null
        pure (Json.obj [("node", .str t.label), ("value", value), ("found", .bool entry.isSome)])
      pure [("data", listOrNull rows)]
    | none => pure []
  let render := if req.flag "render" then [("render", .str (Html.renderAll trees))] else []
  pure (.obj [("r", .obj ([tree] ++ find ++ data ++ render))])

end Bindery.Protocol
