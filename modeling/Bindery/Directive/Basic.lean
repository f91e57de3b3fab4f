import Bindery.Text.Case

/-!
# Directives

A directive is matched on nodes of a markup tree by element name or attribute name, as its
restriction allows, and then compiled against the matched nodes. A descriptor is the resolved form
of one registered directive: name, restriction, priority, whether it is terminal and whether it
spans groups of sibling elements, its position among directives of its name, and its compile step.
-/

namespace Bindery

/-- Where a directive matches: bit 1 for elements, bit 2 for attributes. -/
structure Restrict where
  mask : Nat
deriving BEq, Repr, Inhabited

namespace Restrict

def onElement : Restrict := ⟨1⟩

def onAttribute : Restrict := ⟨2⟩

/-- Both positions, the default for a definition that names none. -/
def both : Restrict := ⟨3⟩

/-- Reads a restriction such as `"EA"`: case is ignored, other letters are ignored. -/
def parse (s : String) : Restrict :=
  ⟨(Text.upper s).toList.foldl (fun m c =>
    if c == 'E' then m ||| 1 else if c == 'A' then m ||| 2 else m) 0⟩

/-- Whether every position of `other` is included; the empty restriction is never included. -/
def has (r other : Restrict) : Bool := other.mask != 0 && r.mask &&& other.mask == other.mask

def text (r : Restrict) : String :=
  (if r.has onElement then "E" else "") ++ (if r.has onAttribute then "A" else "")

end Restrict

/-- What compiling a directive does with the matched nodes. -/
inductive CompileStep where
  | none
  | record (label : String) (fail : Option String) (perNode : Bool)
  | mark
  | report (name : String)
deriving Inhabited

structure Definition where
  restrict : String := ""
  priority : Int := 0
  terminal : Bool := false
  multiElement : Bool := false
  compile : CompileStep := .none
deriving Inhabited

/-- A directive object: a restriction, optional priority, terminal and multi-element answers
(absent ones count as 0 and false), and its compile step. -/
structure DirectiveObject where
  restrict : Restrict
  priority : Option Int := none
  terminal : Option Bool := none
  multiElement : Option Bool := none
  compile : CompileStep := .none
deriving Inhabited

structure Descriptor where
  name : String
  restrict : Restrict
  priority : Int
  terminal : Bool
  multiElement : Bool
  index : Nat
  compile : CompileStep
deriving Inhabited

/-- The descriptor of a definition: an empty restriction means both positions. -/
def Descriptor.ofDefinition (name : String) (index : Nat) (d : Definition) : Descriptor :=
  { name, index
    restrict := if d.restrict.isEmpty then .both else Restrict.parse d.restrict
    priority := d.priority
    terminal := d.terminal
    multiElement := d.multiElement
    compile := d.compile }

def Descriptor.ofObject (name : String) (index : Nat) (d : DirectiveObject) : Descriptor :=
  { name, index
    restrict := d.restrict
    priority := d.priority.getD 0
    terminal := d.terminal.getD false
    multiElement := d.multiElement.getD false
    compile := d.compile }

end Bindery
