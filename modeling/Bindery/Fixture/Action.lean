import Bindery.Scope.Digest
import Bindery.Protocol.Answer

/-!
# Scripted scope callables

Requests describe the callables they hand to scopes. A described callable runs an action on the
scope it is evaluated on and then returns what its description asks for: its evaluation count, a
variable, a constant, NaN, or the value of an expression. A described listener logs the change it
is told of and runs an action. An action performs, in a fixed order, the side effects its
description lists: counting, logging, setting variables, evaluating, deferring, applying and
digesting, queueing post-digest work, flushing the loop, deregistering watchers, destroying
scopes, watching, panicking and failing.
-/

namespace Bindery.Fixture

open Scope

/-- The number in a label such as `w3` or `s2`, when the label has the prefix. -/
def labelNumber? (pre : Char) (label : String) : Option Nat :=
  match label.toList with
  | c :: digits =>
    if c == pre && !digits.isEmpty && digits.all Char.isDigit then
      some (digits.foldl (fun n d => 10 * n + (d.toNat - '0'.toNat)) 0)
    else none
  | [] => none

def watcherLabel (wid : Nat) : String := "w" ++ Decimal.natText wid

/-- The callable a description gives, made for a scope: text as it is, an object as a scripted
callable of its form with a counter of its own, anything else as its value. -/
def callOf (home : Nat) (j : Json) : Run Value := do
  match j with
  | .str s => pure (.str s)
  | .obj _ => do
    let counter ← Run.newCounter
    pure (.func (.scripted (Form.ofName (j.strD "form")) j counter home))
  | other => Value.ofJson other

/-- The listener a description gives for a watcher: nil when absent or null. -/
def listenerOf (wid : Nat) (j : Option Json) : Run Value := do
  match j with
  | none | some .null => pure .nil
  | some spec => do pure (.func (.listener spec (← Run.newCounter) wid))

def tallyLabel (label : String) : Run Unit :=
  modify fun w =>
    let n := ((w.tally.find? (·.1 == label)).map (·.2)).getD 0
    if w.tally.any (·.1 == label) then
      { w with tally := w.tally.map fun (l, m) => if l == label then (l, n + 1) else (l, m) }
    else { w with tally := w.tally ++ [(label, 1)] }

/-- Registers the watcher a description gives on a scope; returns its label. -/
def watchOf (s : Nat) (spec : Json) : Run String := do
  let wid := (← get).watchers.size
  let expr ← callOf s ((spec.field? "expr").getD .null)
  let listener ← listenerOf wid (spec.field? "listener")
  let id ← watch s expr listener (spec.flag "by_value")
  pure (watcherLabel id)

def withErr (fields : List (String × Json)) : Option Fault → Json
  | some e => .obj (fields ++ [("err", Protocol.faultJson e)])
  | none => .obj fields

/-- Runs the action a description gives on a scope, with its evaluation count; returns the
failure it asks for, if any. -/
def actionWith (k : Knot) (s : Nat) (spec : Json) (n : Nat) : Run (Option Fault) := do
  if let some label := spec.str? "tally" then tallyLabel label
  if let some label := spec.str? "log" then
    Run.log (.obj [("eval", .str label), ("scope", .str (← scopeLabel s))])
  if spec.flag "once" && n > 1 then return none
  if let some (.obj fields) := spec.field? "set" then
    let sorted := (Json.dedupFields fields).mergeSort fun a b => decide (a.1 ≤ b.1)
    for (name, v) in sorted do setVar s name (← Value.ofJson v)
  if let some name := spec.str? "incr" then
    let base := match ← getVar s name with
      | .int i => i
      | _ => 0
    setVar s name (.int (base + 1))
  if let some se := spec.field? "set_expr" then
    let expr ← callOf s ((se.field? "expr").getD .null)
    match ← Run.attempt (evalWith k s expr .nil) with
    | .error e => Run.log (.obj [("set_expr_error", .str e.message)])
    | .ok v => setVar s (se.strD "name") v
  if let some c := spec.field? "eval_async" then evalAsync s (← callOf s c)
  if let some c := spec.field? "apply_async" then applyAsync s (← callOf s c)
  if let some c := spec.field? "apply" then
    let (v, e) ← applyWith k s (← callOf s c)
    Run.log (withErr [("nested_apply", ← encode v)] e)
  if spec.flag "digest" then
    let e := match ← Run.attempt (digestWith k s) with
      | .ok _ => none
      | .error e => some e
    Run.log (withErr [("nested_digest", .str (← scopeLabel s))] e)
  if let some a := spec.field? "post_digest" then postDigest s (.func (.afterDigest a s))
  if spec.flag "flush" then
    let ran ← flushWith k (← stateOf s).loop
    Run.log (.obj [("flushed", .int ran)])
  if let some label := spec.str? "deregister" then
    if let some wid := labelNumber? 'w' label then
      if wid < (← get).watchers.size then deregister wid
  if let some label := spec.str? "destroy" then
    if let some target ← scopeOfLabel? label then destroy target
  if let some w := spec.field? "watch" then
    let _ ← watchOf s w
  if let some m := spec.str? "panic" then Run.panicWith m
  if let some m := spec.str? "error" then return some (.text m)
  return none

/-- What a described callable returns once its action succeeded: its count, a variable, a
constant, NaN, or the value of an expression on the scope. -/
def callResult (k : Knot) (s : Nat) (spec : Json) (n : Nat) : Run (Value × Option Fault) := do
  if spec.flag "counter" then return (.int n, none)
  if let some name := spec.str? "get" then return (← getVar s name, none)
  if let some v := spec.field? "const" then return (← Value.ofJson v, none)
  if spec.flag "nan" then return (.float (0.0 / 0.0), none)
  if let some src := spec.str? "expr" then
    match ← Run.attempt (evalWith k s (.str src) .nil) with
    | .ok v => return (v, none)
    | .error e => return (.nil, some e)
  return (.nil, none)

/-- The body of a described callable of a form, on its arguments; one value per result of the
form. The scope it acts on is the scope or environment it receives, or the scope it was made
for. -/
def scriptedBody (k : Knot) (form : Form) (spec : Json) (counter home : Nat) (args : List Value) :
    Run (List Value) := do
  let results := form.signature.results
  let shaped (v : Value) (e : Option Fault) : List Value :=
    match results with
    | [.any, .error] => [v, match e with | some f => .error f | none => .nil]
    | [.any] => [v]
    | [.error] => [match e with | some f => .error f | none => .nil]
    | _ => []
  if form == .parseFunc || form == .envLocals then
    if let some name := spec.str? "local" then
      let v ← match args with
        | [_, .table id] => do pure (((← Run.tableEntries id).find? (·.1 == name)).map (·.2))
        | _ => pure none
      return shaped (v.getD .nil) none
  let n ← Run.tick counter
  let s := match args.head? with
    | some (.scope id) => id
    | _ => home
  match ← actionWith k s spec n with
  | some e => pure (shaped .nil (some e))
  | none =>
    let (v, e) ← callResult k s spec n
    pure (shaped (if e.isSome then .nil else v) e)

/-- The body of a described listener: it logs the change unless quiet, then runs its action;
a failure of the action is logged. -/
def listenerBody (k : Knot) (spec : Json) (counter wid : Nat) (args : List Value) : Run Unit := do
  let (nv, old, s) := match args with
    | [a, b, .scope s] => (a, b, s)
    | _ => (Value.nil, Value.nil, 0)
  if !spec.flag "quiet" then
    Run.log (.obj [("listener", .str (watcherLabel wid)), ("new", ← encode nv),
      ("old", ← encode old), ("scope", .str (← scopeLabel s))])
  let n ← Run.tick counter
  if let some e ← actionWith k s spec n then
    Run.log (.obj [("listener_error", .str e.message)])

/-- The body of a function that reads a variable: from its locals when it receives them and they
hold it, otherwise from its environment when it receives one, otherwise `<no env>`; it fails
instead when its description gives an error. One value per result of its form. -/
def probeBody (form : Form) (spec : Json) (args : List Value) : Run (List Value) := do
  let params := form.signature.params
  let env := if params.contains .env then args.headD .nil else .nil
  let locals := if params.contains .locals then args.getD 1 .nil else .nil
  let name := spec.strD "get"
  let fromLocals ← match locals with
    | .table id => do pure (((← Run.tableEntries id).find? (·.1 == name)).map (·.2))
    | _ => pure none
  let v ← match fromLocals with
    | some v => pure v
    | none => match env with
      | .table id => do pure ((((← Run.tableEntries id).find? (·.1 == name)).map (·.2)).getD .nil)
      | .scope s => Scope.getVar s name
      | _ => pure (.str "<no env>")
  let e : Option Fault := (spec.str? "error").map .text
  pure (match form.signature.results with
    | [.any, .error] => match e with
      | some f => [.nil, .error f]
      | none => [v, .nil]
    | [.any] => [if e.isSome then .nil else v]
    | [.error] => [match e with
      | some f => .error f
      | none => .nil]
    | _ => [])

end Bindery.Fixture
