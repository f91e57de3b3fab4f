import Bindery.Cel.Clock
import Bindery.Cel.Types
import Bindery.Regex.Match

/-!
# Evaluating terms of the typed expression language

The evaluator runs a checked term against an activation: the comprehension variables in scope
and the environment's variables, already read into values. Type identifiers evaluate to type
values. It computes in any monad, which only the helper function `call` uses: the caller says
how a helper is reached.

The logical operators evaluate their left operand first and skip the right one when the left decides
the result; the conditional evaluates only the branch it takes; comprehensions stop as soon as their
condition is false. Every other call evaluates its operands from left to right and passes on the
first error among them. Functions with one implementation per type of operand (conversions, string
tests and `matches`, negation of booleans, timestamp and duration accessors, `call`) answer `no such
overload: f(t1, t2)` with the runtime types of the operands when none fits.
-/

namespace Bindery.Cel

/-- What a term is evaluated against: the comprehension variables (innermost first) and the
environment. -/
structure Activation where
  locals : List (String × Val)
  env : List (String × Val)

/-- The value of a name: a comprehension variable, a variable of the environment, or a type. -/
def Activation.lookup (a : Activation) (name : String) : Val :=
  match a.locals.find? (·.1 == name) with
  | some (_, v) => v
  | none =>
    match a.env.find? (·.1 == name) with
    | some (_, v) => v
    | none =>
      match typeIdentifier name with
      | some _ => .type name
      | none => .err ("no such attribute(s): " ++ name)

def Activation.bind (a : Activation) (name : String) (v : Val) : Activation :=
  { a with locals := (name, v) :: a.locals }

def Literal.val : Literal → Val
  | .null => .null
  | .bool b => .bool b
  | .int i => .int i
  | .uint n => .uint n
  | .double f => .double f
  | .str s => .str s
  | .bytes bs => .bytes bs

/-- The failure of a function with one implementation per operand type when none fits. -/
def noSuchOverloadFor (fn : String) (vals : List Val) : Val :=
  .err ("no such overload: " ++ fn ++ "(" ++ ", ".intercalate (vals.map Val.typeName) ++ ")")

def Val.isOneOf (v : Val) (names : List String) : Bool := names.contains v.typeName

def applyTyped (fn : String) (vals : List Val) : Val :=
  let fail := noSuchOverloadFor fn vals
  match fn, vals with
  | "!_", [.bool b] => .bool !b
  | "int", [v] =>
    if v.isOneOf ["int", "uint", "double", "string", "google.protobuf.Timestamp",
      "google.protobuf.Duration"] then toIntVal v else fail
  | "uint", [v] => if v.isOneOf ["uint", "int", "double", "string"] then toUintVal v else fail
  | "double", [v] => if v.isOneOf ["double", "int", "uint", "string"] then toDoubleVal v else fail
  | "string", [v] =>
    if v.isOneOf ["string", "bool", "bytes", "double", "int", "uint", "google.protobuf.Timestamp",
      "google.protobuf.Duration"] then toStringVal v else fail
  | "bytes", [v] => if v.isOneOf ["bytes", "string"] then toBytesVal v else fail
  | "bool", [v] => if v.isOneOf ["bool", "string"] then toBoolVal v else fail
  | "dyn", [v] => v
  | "type", [v] => typeOfVal v
  | "contains", [.str s, .str t] => .bool (containsText s t)
  | "startsWith", [.str s, .str t] => .bool (t.toList.isPrefixOf s.toList)
  | "endsWith", [.str s, .str t] => .bool (t.toList.reverse.isPrefixOf s.toList.reverse)
  | "matches", [.str s, .str p] =>
    match Regex.matchText p s with
    | .ok found => .bool found
    | .error m => .err m
  | _, _ => (applyClock? fn vals).getD fail

/-- Applies a function to evaluated operands, none of which is an error. -/
def applyStrict (fn : String) (vals : List Val) : Val :=
  match fn, vals with
  | "_==_", [a, b] => .bool (Val.equal equalFuel a b)
  | "_!=_", [a, b] => .bool !(Val.equal equalFuel a b)
  | "_+_", [a, b] => withCapability fn Val.addable addVals a b
  | "_-_", [a, b] => withCapability fn Val.subtractable subtractVals a b
  | "_*_", [a, b] => withCapability fn Val.arithmetic multiplyVals a b
  | "_/_", [a, b] => withCapability fn Val.arithmetic divideVals a b
  | "_%_", [a, b] => withCapability fn Val.modular moduloVals a b
  | "_<_", [a, b] => orderVals fn (· < 0) a b
  | "_<=_", [a, b] => orderVals fn (· ≤ 0) a b
  | "_>_", [a, b] => orderVals fn (· > 0) a b
  | "_>=_", [a, b] => orderVals fn (· ≥ 0) a b
  | "-_", [a] => negateVal a
  | "size", [a] => sizeVal a
  | "@in", [a, b] => inAggregate a b
  | "_[_]", [a, i] => indexVal a i
  | _, _ => applyTyped fn vals

/-- Adds an entry to the entries of a map literal; a key given twice keeps its last value. -/
def insertEntry (entries : List (Val × Val)) (k v : Val) : List (Val × Val) :=
  if entries.any (sameKey ·.1 k) then entries.map fun (k', v') => if sameKey k' k then (k', v) else (k', v')
  else entries ++ [(k, v)]

/-- The items a comprehension runs over: a list's elements or a map's keys. -/
def Val.iterItems : Val → Option (List Val)
  | .list xs _ => some xs
  | .map es _ => some (es.map (·.1))
  | _ => none

section Evaluation

variable {m : Type → Type} [Monad m]

mutual

/-- Evaluates a term; `helper` calls a registered helper by name with arguments. -/
def evalTerm (helper : String → List Val → m Val) : Nat → Activation → Term → m Val
  | 0, _, _ => pure (.err "expression nesting too deep")
  | fuel + 1, act, term =>
    match term with
    | .lit v _ => pure v.val
    | .invalid _ => pure (.err "invalid expression")
    | .message name _ _ => pure (.err ("unknown type: " ++ name))
    | .ident name _ => pure (act.lookup name)
    | .select operand field test _ => do
      let o ← evalTerm helper fuel act operand
      pure (selectVal o field test)
    | .list items _ => do
      match ← evalStrict helper fuel act items with
      | .ok vs => pure (.list vs none)
      | .error e => pure e
    | .map entries _ => evalEntries helper fuel act entries []
    | .comprehension v range accu init cond step result _ => do
      let r ← evalTerm helper fuel act range
      if r.isErr then return r
      match r.iterItems with
      | none => pure (.err ("got '" ++ r.implName ++ "', expected iterable type"))
      | some items =>
        let mut acc ← evalTerm helper fuel act init
        for x in items do
          let inner := (act.bind accu acc).bind v x
          match ← evalTerm helper fuel inner cond with
          | .bool false => break
          | _ => acc ← evalTerm helper fuel inner step
        evalTerm helper fuel (act.bind accu acc) result
    | .call fn target args _ => evalCall helper fuel act fn (target.toList ++ args)

/-- Evaluates a call of a function on its operands (the receiver first). -/
def evalCall (helper : String → List Val → m Val) : Nat → Activation → String → List Term →
    m Val
  | 0, _, _, _ => pure (.err "expression nesting too deep")
  | fuel + 1, act, fn, operands =>
    match fn, operands with
    | "_&&_", [a, b] => do
      let x ← evalTerm helper fuel act a
      if let .bool false := x then return .bool false
      let y ← evalTerm helper fuel act b
      pure (andVals x y)
    | "_||_", [a, b] => do
      let x ← evalTerm helper fuel act a
      if let .bool true := x then return .bool true
      let y ← evalTerm helper fuel act b
      pure (orVals x y)
    | "_?_:_", [c, t, f] => do
      match ← evalTerm helper fuel act c with
      | .bool true => evalTerm helper fuel act t
      | .bool false => evalTerm helper fuel act f
      | .err e => pure (.err e)
      | _ => pure noOverload
    | "@not_strictly_false", [a] => do
      match ← evalTerm helper fuel act a with
      | .bool b => pure (.bool b)
      | _ => pure (.bool true)
    | _, _ => do
      match ← evalStrict helper fuel act operands with
      | .error e => pure e
      | .ok vals =>
        match fn, vals with
        | "call", [.str name, .list items _] => helper name items
        | "call", _ => pure (noSuchOverloadFor fn vals)
        | _, _ => pure (applyStrict fn vals)

/-- Evaluates terms from left to right, stopping at the first error. -/
def evalStrict (helper : String → List Val → m Val) : Nat → Activation → List Term →
    m (Except Val (List Val))
  | 0, _, _ => pure (.error (.err "expression nesting too deep"))
  | _, _, [] => pure (.ok [])
  | fuel + 1, act, t :: rest => do
    let v ← evalTerm helper fuel act t
    if v.isErr then return .error v
    match ← evalStrict helper fuel act rest with
    | .ok vs => pure (.ok (v :: vs))
    | .error e => pure (.error e)

/-- Evaluates the entries of a map literal in order, each key before its value, stopping at the
first error. -/
def evalEntries (helper : String → List Val → m Val) : Nat → Activation → List (Term × Term) →
    List (Val × Val) → m Val
  | 0, _, _, _ => pure (.err "expression nesting too deep")
  | _, _, [], acc => pure (.map acc none)
  | fuel + 1, act, (k, v) :: rest, acc => do
    let kv ← evalTerm helper fuel act k
    if kv.isErr then return kv
    let vv ← evalTerm helper fuel act v
    if vv.isErr then return vv
    evalEntries helper fuel act rest (insertEntry acc kv vv)

end

end Evaluation

/-- The fuel evaluation runs with for a source: more than the depth of any term parsed from
it. -/
def evalFuel (source : String) : Nat := 8 * source.length + 64

end Bindery.Cel
