import Bindery.Directive.Describe
import Bindery.Directive.Name
import Bindery.Markup.Forest

/-!
# Compiling markup

A compiler walks a forest depth first and applies to each node the directives it matches. An
element matches the directives of its normalised tag that may sit on elements; each attribute
matches those of its normalised name that may sit on attributes. An attribute ending in `_start`
whose base names a multi-element directive opens a group instead: it matches the base's
directives, which then compile the sibling range the start attribute opens and the matching end
attribute closes.

Matches are ordered by priority, highest first, then by name, keeping their order otherwise.
They are compiled in that order, except that after a terminal directive every directive of lower
priority is skipped; a node with a terminal directive keeps its children from being compiled.
-/

namespace Bindery.Directive

/-- A directive matched on a node; a group match keeps the raw start and end attribute
names. -/
structure Match where
  descriptor : Descriptor
  start : String := ""
  finish : String := ""
deriving Inhabited

def Match.grouped (m : Match) : Bool := !m.start.isEmpty

def compilerRegistry (c : Nat) : Run Nat := do pure ((← get).compilers[c]?.getD 0)

/-- The descriptors of a directive name, resolved on the instance tier; none for a name that is
not registered. -/
def lookupWith (k : Knot) (c : Nat) (name : String) : Run (List Descriptor) := do
  let r ← registryAt (← compilerRegistry c)
  if name.isEmpty || !r.has name then return []
  match ← k.get .instances (serviceKey name) with
  | .descriptors ds => pure ds
  | other =>
    Run.fail (Fault.because .invalidDirective (serviceKey name ++ " is " ++ other.typeName))

def isMultiElementWith (k : Knot) (c : Nat) (name : String) : Run Bool := do
  pure ((← lookupWith k c name).any (·.multiElement))

def matchesOf (ds : List Descriptor) (position : Restrict) (start finish : String) : List Match :=
  (ds.filter (·.restrict.has position)).map fun d => { descriptor := d, start, finish }

/-- Orders matches by priority, highest first, then by name; stable otherwise. -/
def sortMatches (ms : List Match) : List Match :=
  ms.mergeSort fun a b =>
    if a.descriptor.priority != b.descriptor.priority then a.descriptor.priority > b.descriptor.priority
    else a.descriptor.name ≤ b.descriptor.name

/-- The directives a node matches, in the order they apply. -/
def collectWith (k : Knot) (c : Nat) (node : Nat) : Run (List Match) := do
  let some n := (← get).nodes[node]? | return []
  let mut found : List Match := []
  if n.isElement then
    found := found ++ matchesOf (← lookupWith k c (normalize n.tag)) .onElement "" ""
  for (attr, _) in n.attrs do
    let name := normalize attr
    let mut target := name
    let mut start := ""
    let mut finish := ""
    if let some base := groupStart? name then
      if attr.utf8ByteSize > 6 then
        if ← isMultiElementWith k c base then
          start := attr
          finish := String.ofList (attr.toList.take (attr.length - 5)) ++ "end"
          target := base
    found := found ++ matchesOf (← lookupWith k c target) .onAttribute start finish
  pure (sortMatches found)

def runStep (step : CompileStep) (nodes : List Nat) : Run Unit := do
  match step with
  | .none => pure ()
  | .record label fail perNode =>
    if perNode then
      for n in nodes do
        Run.log (.obj [("compile", .str label), ("nodes", .arr [.str (← nodeLabel n)])])
    else
      let labels ← nodes.mapM nodeLabel
      Run.log (.obj [("compile", .str label), ("nodes", .arr (labels.map .str))])
    if let some m := fail then Run.fail (.text m)
  | .mark =>
    for n in nodes do
      if let some node := (← get).nodes[n]? then
        if node.parsed then
          let marked := { node with
            bag := (node.bag.filter (·.1 != "hasCompiled")) ++ [("hasCompiled", .bool true)] }
          modify fun w => { w with nodes := w.nodes.set! n marked }
  | .report name =>
    let tags ← nodes.mapM fun n => do pure (((← get).nodes[n]?.map (·.tag)).getD "")
    Run.print (name ++ " [" ++ " ".intercalate tags ++ "]\n")

/-- Compiles one match on a node: a group match compiles the siblings its start attribute opens,
any other match the node alone. Returns the failure, wrapped with the directive's name. -/
def compileOn (node : Nat) (m : Match) : Run (Option Fault) := do
  let forest := (← get).nodes
  let nodes := if m.grouped then Markup.groupScan forest node m.start m.finish else [node]
  match ← Run.attempt (runStep m.descriptor.compile nodes) with
  | .ok _ => pure none
  | .error e => pure (some (.within ("compile: directive " ++ Text.quoted m.descriptor.name ++ ": ") e))

/-- Compiles matches against a node in order, from a threshold (none before any terminal match)
and the terminal flag so far. A match below the threshold is skipped; a terminal one that compiles
sets the threshold to its priority. The first failure ends the run and is returned with the flag
as it stood. -/
def applyFrom (node : Nat) : Option Int → Bool → List Match → Run (Bool × Option Fault)
  | _, terminal, [] => pure (terminal, none)
  | threshold, terminal, m :: ms => do
    if threshold.all (m.descriptor.priority ≥ ·) then
      match ← compileOn node m with
      | some e => pure (terminal, some e)
      | none =>
        if m.descriptor.terminal then applyFrom node (some m.descriptor.priority) true ms
        else applyFrom node threshold terminal ms
    else applyFrom node threshold terminal ms

/-- Compiles matches against a node in order; returns whether a terminal directive applied, and
the first failure. -/
def applyDirectives (ms : List Match) (node : Nat) : Run (Bool × Option Fault) :=
  applyFrom node none false ms

/-- Compiles matches against a node in order; returns whether a terminal directive applied. A
failure stops the run. -/
def applyMatches (ms : List Match) (node : Nat) : Run Bool := do
  let (terminal, failure) ← applyDirectives ms node
  match failure with
  | some e => Run.fail e
  | none => pure terminal

/-- Compiles a forest depth first, at most `fuel` levels deep. -/
def runWith (k : Knot) (c : Nat) : Nat → List Nat → Run Unit
  | 0, _ => pure ()
  | fuel + 1, nodes => do
    for node in nodes do
      let found ← collectWith k c node
      let terminal ← applyMatches found node
      if !terminal then
        let children := ((← get).nodes[node]?.map (·.children)).getD []
        runWith k c fuel children

end Bindery.Directive
