import Bindery.Expr.Check
import Bindery.Expr.Runtime
import Bindery.Expression.Helpers

/-!
# The state of a running term

A running term sees its environment, the names bound by `let`, and, inside a predicate, the item
it looks at with its position and the accumulator. It stops early on a failure, at the position
of the part that failed, or on nil met by an optional member access, which ends the access chain
with nil. It counts the memory it takes for what it makes (ranges, lists, tables and repeated
texts), and fails once the count reaches a budget.
-/

namespace Bindery.Expr

/-- What a running term sees: the environment, the names bound by `let`, the item a predicate
looks at (with its position and the accumulator), and the helper registry. -/
structure Frame where
  vars : List (String × Value)
  lets : List (String × Value) := []
  element : Value := .nil
  index : Value := .nil
  acc : Value := .nil
  helpers : Option Helpers := none

/-- Why a run stops early: a failure at a position, or nil met by an optional access. -/
inductive Stop where
  | fail (d : Diag)
  | nilChain

/-- Running computations, counting the memory they have taken. -/
abbrev EvalM := ExceptT Stop (StateT Nat Run)

def failAt (pos : Nat) (message : String) : EvalM α := throw (.fail ⟨pos, message⟩)

/-- The memory a run may take: items of lists and tables, and bytes of repeated texts. -/
def memoryBudget : Nat := 1000000

/-- Takes memory for something made at a position; a run that reaches the budget fails there. -/
def grow (pos : Nat) (n : Nat) : EvalM Unit := do
  modifyThe Nat (· + n)
  if (← getThe Nat) ≥ memoryBudget then failAt pos "memory budget exceeded"

/-- The value of an outcome, or its failure at a position. -/
def orFail (pos : Nat) (r : Except String α) : EvalM α :=
  match r with
  | .ok a => pure a
  | .error m => failAt pos m

/-- The text a value holds, or a failed conversion at a position. -/
def textOf (pos : Nat) (v : Value) : EvalM String :=
  match v with
  | .str s => pure s
  | other => failAt pos (conversionMessage other "string")

/-- The boolean a value holds, or a failed conversion at a position. -/
def boolOf (pos : Nat) (v : Value) : EvalM Bool :=
  match v with
  | .bool b => pure b
  | other => failAt pos (conversionMessage other "bool")

def itemsOf (pos : Nat) (v : Value) : EvalM (List Value) := do
  match v with
  | .list _ items => pure items
  | .strings items => pure (items.map .str)
  | .nil => failAt pos "reflect: call of reflect.Value.Len on zero Value"
  | other => failAt pos ("reflect: call of reflect.Value.Len on " ++ other.typeName ++ " Value")

end Bindery.Expr
