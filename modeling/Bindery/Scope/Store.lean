import Bindery.Layering

/-!
# Scopes in the runtime's state

Scopes, trees, watchers and loops are kept in the runtime's state and named by their numbers.
This module reads and replaces them, and walks the lookup chain of a scope: the scope itself,
then its lookup parents, skipping past none but stopping at an isolated scope.
-/

namespace Bindery.Scope

def nodeAt (id : Nat) : Run Node := do
  pure ((← get).scopes[id]?.getD default)

def modifyNode (id : Nat) (f : Node → Node) : Run Unit :=
  modify fun w => { w with scopes := w.scopes.modify id f }

def treeOf (id : Nat) : Run (Nat × Tree) := do
  let n ← nodeAt id
  pure (n.tree, (← get).trees[n.tree]?.getD default)

def stateOf (id : Nat) : Run Tree := do pure (← treeOf id).2

def modifyTree (id : Nat) (f : Tree → Tree) : Run Unit := do
  let t := (← nodeAt id).tree
  modify fun w => { w with trees := w.trees.modify t f }

def watcherAt (id : Nat) : Run Watcher := do
  pure ((← get).watchers[id]?.getD default)

def modifyWatcher (id : Nat) (f : Watcher → Watcher) : Run Unit :=
  modify fun w => { w with watchers := w.watchers.modify id f }

def loopAt (id : Nat) : Run Loop := do
  pure ((← get).loops[id]?.getD {})

def modifyLoop (id : Nat) (f : Loop → Loop) : Run Unit :=
  modify fun w => { w with loops := w.loops.modify id f }

def newLoop : Run Nat :=
  modifyGet fun w => (w.loops.size, { w with loops := w.loops.push {} })

/-- The parent lookup continues to: none for an isolated scope. -/
def Node.lookupParent (n : Node) : Option Nat :=
  if n.isolated then none else n.parent

/-- The lookup chain of a scope, at most `fuel` scopes long. Lookup parents are older than
their children, so a chain never returns to a scope. -/
def chainFrom (scopes : Array Node) : Nat → Nat → List Nat
  | 0, _ => []
  | fuel + 1, id =>
    id :: match (scopes[id]?.getD default).lookupParent with
      | some p => chainFrom scopes fuel p
      | none => []

def chain (id : Nat) : Run (List Nat) := do
  let scopes := (← get).scopes
  pure (chainFrom scopes (scopes.size + 1) id)

def Node.own? (n : Node) (name : String) : Option Value :=
  (n.props.find? (·.1 == name)).map (·.2)

/-- The value of a name along the lookup chain, if a scope on it holds the name. -/
def lookup (id : Nat) (name : String) : Run (Option Value) := do
  let scopes := (← get).scopes
  pure ((chainFrom scopes (scopes.size + 1) id).findSome? fun s =>
    (scopes[s]?.getD default).own? name)

/-- The value of a name along the lookup chain, nil when no scope holds it. -/
def getVar (id : Nat) (name : String) : Run Value := do
  pure ((← lookup id name).getD .nil)

/-- Sets a name on a scope: an existing name keeps its place, a new one goes last. -/
def setVar (id : Nat) (name : String) (v : Value) : Run Unit :=
  modifyNode id fun n =>
    if n.props.any (·.1 == name) then
      { n with props := n.props.map fun (k, x) => if k == name then (k, v) else (k, x) }
    else { n with props := n.props ++ [(name, v)] }

def deleteVar (id : Nat) (name : String) : Run Unit :=
  modifyNode id fun n => { n with props := n.props.filter (·.1 != name) }

/-- The variables visible from a scope: every name along the lookup chain, the nearest scope
winning. -/
def vars (id : Nat) : Run (List (String × Value)) := do
  let scopes := (← get).scopes
  let layers := (chainFrom scopes (scopes.size + 1) id).map fun s => (scopes[s]?.getD default).props
  pure (Layering.overlayEntries layers)

end Bindery.Scope
