import Bindery.Injector.State
import Bindery.Scope.State
import Bindery.Markup.Node
import Bindery.Activity.Event

/-!
# The runtime's state and its monad

`World` holds everything a request can change: shared tables, boxes and settings, the injector's
caches, directive registries and compilers, providers, markup nodes, scope trees, watchers and
loops, activity events and counters, and the log of the current step. `Run` computes in it and
may stop early: with a fault (an error returned to the caller), with a panic (which only some
callers recover), or when its recursion budget is exhausted.
-/

namespace Bindery

structure Box where
  label : String := ""
  items : List Value := []
deriving Inhabited

/-- A setting: a provider whose resolver offers its value together with its dependencies. -/
structure Setting where
  value : Value := .nil
  inject : List String := []
deriving Inhabited

/-- A directive registry: its registration surface, the factories registered under each name in
the order of first registration, and its compiler once made. -/
structure DirectiveRegistry where
  provide : Value := .nil
  factories : List (String × List Value) := []
  compiler : Option Nat := none
deriving Inhabited

/-- A provider of root scopes: the round limit and the observers of the roots it builds. -/
structure RootProvider where
  ttl : Int
  observers : List Scope.Observer := []
deriving Inhabited

/-- A provider of translators: the engine of the translators it builds, if one was chosen. -/
structure TranslatorProvider where
  engine : Option Engine := none
deriving Inhabited

structure ProgramCache where
  entries : List (String × Program) := []
deriving Inhabited

structure World where
  tables : Array (List (String × Value)) := #[]
  nextList : Nat := 0
  boxes : Array Box := #[]
  settings : Array Setting := #[]
  labelCalls : List (String × Nat) := []
  counters : Array Nat := #[]
  log : Array Json := #[]
  injector : Injector.State := {}
  registries : Array DirectiveRegistry := #[]
  directives : Array DirectiveObject := #[]
  compilers : Array Nat := #[]
  rootProviders : Array RootProvider := #[]
  translatorProviders : Array TranslatorProvider := #[]
  nodes : Array Markup.Node := #[]
  scopes : Array Scope.Node := #[]
  trees : Array Scope.Tree := #[]
  watchers : Array Scope.Watcher := #[]
  loops : Array Scope.Loop := #[]
  nextTask : Nat := 0
  scopeLabels : List (Nat × Nat) := []
  tally : List (String × Nat) := []
  events : Array Activity.Event := #[]
  shownEvents : Nat := 0
  counts : Activity.Counters := {}
  caches : Array ProgramCache := #[]
  printed : String := ""
deriving Inhabited

inductive Interrupt where
  | fault (e : Fault)
  | panic (text : String)
  | exhausted
deriving Inhabited

abbrev Run := EStateM Interrupt World

namespace Run

def fail (e : Fault) : Run α := throw (.fault e)

def panicWith (text : String) : Run α := throw (.panic text)

/-- Runs a computation and returns its fault instead of failing; panics pass through. -/
def attempt (x : Run α) : Run (Except Fault α) :=
  tryCatch (x.map .ok) fun
    | .fault e => pure (.error e)
    | other => throw other

/-- Runs a computation, turning a panic into what `onPanic` makes of its text. -/
def recoverPanic (x : Run α) (onPanic : String → Run α) : Run α :=
  tryCatch x fun
    | .panic t => onPanic t
    | other => throw other

def ofExcept : Except Fault α → Run α
  | .ok a => pure a
  | .error e => fail e

def log (j : Json) : Run Unit := modify fun w => { w with log := w.log.push j }

def freshList : Run Nat := modifyGet fun w => (w.nextList, { w with nextList := w.nextList + 1 })

def newList (items : List Value) : Run Value := do
  let id ← freshList
  pure (.list id items)

def newTable (entries : List (String × Value)) : Run Value :=
  modifyGet fun w => (.table w.tables.size, { w with tables := w.tables.push entries })

def tableEntries (id : Nat) : Run (List (String × Value)) := do
  pure ((← get).tables[id]?.getD [])

def setTable (id : Nat) (entries : List (String × Value)) : Run Unit :=
  modify fun w => { w with tables := w.tables.set! id entries }

def newBox (b : Box) : Run Nat :=
  modifyGet fun w => (w.boxes.size, { w with boxes := w.boxes.push b })

def box (id : Nat) : Run Box := do pure ((← get).boxes[id]?.getD {})

def setBox (id : Nat) (b : Box) : Run Unit := modify fun w => { w with boxes := w.boxes.set! id b }

def newSetting (s : Setting) : Run Nat :=
  modifyGet fun w => (w.settings.size, { w with settings := w.settings.push s })

def setting (id : Nat) : Run Setting := do pure ((← get).settings[id]?.getD {})

def setSetting (id : Nat) (s : Setting) : Run Unit :=
  modify fun w => { w with settings := w.settings.set! id s }

def newCounter : Run Nat :=
  modifyGet fun w => (w.counters.size, { w with counters := w.counters.push 0 })

def tick (id : Nat) : Run Nat := modifyGet fun w =>
  let n := (w.counters[id]?.getD 0) + 1
  (n, { w with counters := w.counters.set! id n })

def tickLabel (label : String) : Run Nat := modifyGet fun w =>
  let n := ((w.labelCalls.find? (·.1 == label)).map (·.2)).getD 0 + 1
  let rest := w.labelCalls.filter (·.1 != label)
  (n, { w with labelCalls := (label, n) :: rest })

def takeLog : Run (Array Json) := modifyGet fun w => (w.log, { w with log := #[] })

def print (s : String) : Run Unit := modify fun w => { w with printed := w.printed ++ s }

end Run

end Bindery
