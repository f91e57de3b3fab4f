import Bindery.Value.Basic

/-!
# Markup nodes

The compiler walks a forest of nodes: each has a tag name, whether it is an element, its
attributes in order, its children, its next sibling and a label that logs and answers show.
Elements of parsed documents also carry a data bag and text content.
-/

namespace Bindery.Markup

/-- What kind of node: an element, a text node or a comment. -/
inductive Kind where
  | element
  | text
  | comment
deriving BEq, Repr, Inhabited

/-- A node of a forest kept in the runtime's state; children and siblings are node numbers. -/
structure Node where
  kind : Kind
  tag : String
  attrs : List (String × String) := []
  children : List Nat := []
  next : Option Nat := none
  label : String
  content : String := ""
  parsed : Bool := false
  bag : List (String × Value) := []
deriving Inhabited

def Node.isElement (n : Node) : Bool := n.kind == .element

def Node.hasAttr (n : Node) (name : String) : Bool := n.attrs.any (·.1 == name)

end Bindery.Markup
