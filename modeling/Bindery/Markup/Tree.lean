/-!
# Parsed HTML trees

A parsed fragment is a list of trees: elements with their namespace (empty for HTML, `svg` or
`math` for foreign content), tag, attributes in the order written and children; text; and
comments. An attribute of foreign content that has a namespace is named `namespace:key`.
-/

namespace Bindery.Markup.Html

inductive Tree where
  | element (ns : String) (tag : String) (attrs : List (String × String)) (children : List Tree)
  | text (s : String)
  | comment (s : String)
deriving Inhabited, Repr

/-- The label of a parsed element: its tag, and the value of its first `id` attribute after a
`#` when it has one. -/
def elementLabel (tag : String) (attrs : List (String × String)) : String :=
  match attrs.find? (·.1 == "id") with
  | some (_, v) => tag ++ "#" ++ v
  | none => tag

/-- The label of a node: an element's label, or `#text` or `#comment`. -/
def Tree.label : Tree → String
  | .element _ tag attrs _ => elementLabel tag attrs
  | .text _ => "#text"
  | .comment _ => "#comment"

def Tree.attr (t : Tree) (name : String) : Option String :=
  match t with
  | .element _ _ attrs _ => (attrs.find? (·.1 == name)).map (·.2)
  | _ => none

/-- The text content of a node at most `fuel` levels deep: its own text and that of every text
node below it. -/
def Tree.textContent (fuel : Nat) (t : Tree) : String :=
  match fuel, t with
  | 0, _ => ""
  | _, .text s => s
  | _, .comment _ => ""
  | fuel + 1, .element _ _ _ children => String.join (children.map (Tree.textContent fuel))

/-- The elements of a forest at most `fuel` levels deep, in document order. -/
def elements (fuel : Nat) (ts : List Tree) : List Tree :=
  match fuel with
  | 0 => []
  | fuel + 1 => ts.flatMap fun t =>
    match t with
    | .element _ _ _ children => t :: elements fuel children
    | _ => []

end Bindery.Markup.Html
