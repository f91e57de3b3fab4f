import Bindery.Scope.Observe

/-!
# Creating and destroying scopes

A root starts a tree of its own: the phase, queues, round limit, loop and observers are the
tree's. A child joins the tree of the scope it is created from, which becomes its lookup parent;
its hierarchy parent is that scope too unless another one is named. Destroying a scope detaches
it from its hierarchy parent, so digests no longer reach it; a root cannot be destroyed.
-/

namespace Bindery.Scope

/-- A new root scope with a translator, a round limit (ten when not positive), a loop and
observers; the observers are told of its creation. -/
def newRoot (translator : Translator) (ttl : Int) (loop : Nat) (observers : List Observer) :
    Run Nat := do
  let w ← get
  let id := w.scopes.size
  let tree : Tree := { ttl := if ttl ≤ 0 then 10 else ttl, loop, observers }
  let root : Node := { parent := none, hparent := none, isolated := false, root := id
                       tree := w.trees.size, translator }
  set { w with scopes := w.scopes.push root, trees := w.trees.push tree }
  notify (.created id)
  pure id

/-- A new child of a scope, isolated or not, attached to a hierarchy parent (the scope itself
when none is given). -/
def newChild (parent : Nat) (isolated : Bool) (hparent : Option Nat) : Run Nat := do
  let p ← nodeAt parent
  let h := hparent.getD parent
  let id := (← get).scopes.size
  let child : Node := { parent := some parent, hparent := some h, isolated, root := p.root
                        tree := p.tree, translator := p.translator }
  modify fun w => { w with scopes := w.scopes.push child }
  modifyNode h fun n => { n with children := n.children ++ [id] }
  notify (.created id)
  pure id

/-- Destroys a scope: it leaves its hierarchy parent's children, the observers are told, and it
has no hierarchy parent from then on. A scope without hierarchy parent is left as it is. -/
def destroy (id : Nat) : Run Unit := do
  let some h := (← nodeAt id).hparent | pure ()
  modifyNode h fun n => { n with children := n.children.erase id }
  notify (.destroyed id)
  modifyNode id fun n => { n with hparent := none }

def addObserver (id : Nat) (o : Observer) : Run Unit :=
  modifyTree id fun t => { t with observers := t.observers ++ [o] }

/-- One layer of a trace: the scope, whether it holds the name, and the value it holds. -/
structure Layer where
  scope : Nat
  found : Bool
  value : Value

/-- The layers of a name along the lookup chain of a scope, nearest first. -/
def trace (id : Nat) (name : String) : Run (List Layer) := do
  let scopes := (← get).scopes
  pure ((chainFrom scopes (scopes.size + 1) id).map fun s =>
    match (scopes[s]?.getD default).own? name with
    | some v => { scope := s, found := true, value := v }
    | none => { scope := s, found := false, value := .nil })

/-- The value a trace settles on: that of its first layer holding the name. -/
def effective (layers : List Layer) : Option Value := (layers.find? (·.found)).map (·.value)

end Bindery.Scope
