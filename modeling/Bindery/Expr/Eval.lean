import Bindery.Expr.Builtin
import Bindery.Regex.Match

/-!
# Running terms of the dynamic expression language

A term runs against an environment of named values; a name that is not in it is nil. `&&` and `||`
look at their left operand only, which must be a boolean, and give the right operand as it is when
they do not stop early; `??` gives its right operand when the left one is nil; `matches` is false
when either operand is nil and otherwise searches its left operand for the pattern on its right; a
conditional's test must be a boolean. Member access with `?.` on nil ends the whole access chain
with nil. Moments, durations and months have methods. Calls reach the functions of the helper
registry (and `call`, which dispatches by name), the builtins, and predicate builtins, whose
predicate sees each item as `#` and its position as `#index`. A failure stops the run with a message
at the part of the term that failed.
-/

namespace Bindery.Expr

def evalTerm : Nat → Frame → Term → EvalM Value
  | 0, _, t => failAt t.pos "expression too deep"
  | fuel + 1, f, t =>
    let go := evalTerm fuel
    match t with
    | .nil _ => pure .nil
    | .bool b _ => pure (.bool b)
    | .int i _ => pure (.int i)
    | .float x _ => pure (.float x)
    | .str s _ => pure (.str s)
    | .ident name _ =>
      match f.lets.find? (·.1 == name) with
      | some (_, v) => pure v
      | none =>
        if name == "$env" then Run.newTable f.vars
        else pure (((f.vars.find? (·.1 == name)).map (·.2)).getD .nil)
    | .pointer name pos =>
      match name with
      | "" => pure f.element
      | "index" => pure f.index
      | "acc" => pure f.acc
      | other => failAt pos ("unknown pointer #" ++ other)
    | .unary op arg pos => do
      let v ← go f arg
      match op with
      | "!" | "not" => pure (.bool !(← boolOf pos v))
      | "-" =>
        match v with
        | .int i => pure (.int (wrapInt (-i)))
        | .float x => pure (.float (-x))
        | other => failAt pos ("invalid operation: - " ++ other.typeName)
      | _ => pure v
    | .binary op lhs rhs pos => do
      match op with
      | "&&" | "and" =>
        let a ← go f lhs
        if ← boolOf pos a then go f rhs else pure a
      | "||" | "or" =>
        let a ← go f lhs
        if ← boolOf pos a then pure a else go f rhs
      | "??" =>
        let a ← go f lhs
        if a matches .nil then go f rhs else pure a
      | "in" =>
        let a ← go f lhs
        match rhs with
        | .textSet items _ =>
          match tableKey a with
          | .ok k => pure (.bool (items.contains k))
          | .error m => failAt pos m
        | _ => pure (.bool (← orFail pos (← contains a (← go f rhs))))
      | _ =>
        let a ← go f lhs
        let b ← go f rhs
        match op with
        | "+" => orFail pos (add a b)
        | "-" => orFail pos (subtract a b)
        | "*" => orFail pos (multiply a b)
        | "/" => orFail pos (divide a b)
        | "%" => orFail pos (modulo a b)
        | "**" | "^" => orFail pos (power a b)
        | "==" => pure (.bool (← equal a b))
        | "!=" => pure (.bool !(← equal a b))
        | "<" => orFail pos (order "<" (· < ·) (· < ·) (· < ·) a b)
        | ">" => orFail pos (order ">" (· > ·) (· > ·) (· > ·) a b)
        | "<=" => orFail pos (order "<=" (· ≤ ·) (· ≤ ·) (· ≤ ·) a b)
        | ">=" => orFail pos (order ">=" (· ≥ ·) (· ≥ ·) (· ≥ ·) a b)
        | "contains" => do pure (.bool (((← textOf pos a).splitOn (← textOf pos b)).length > 1 ||
            (← textOf pos b).isEmpty))
        | "matches" => do
          if a matches .nil || b matches .nil then return .bool false
          let pattern ← textOf pos b
          let text ← textOf pos a
          match Regex.matchText pattern text with
          | .ok found => pure (.bool found)
          | .error m => failAt pos m
        | "startsWith" => do pure (.bool ((← textOf pos a).startsWith (← textOf pos b)))
        | "endsWith" => do pure (.bool ((← textOf pos a).endsWith (← textOf pos b)))
        | ".." => do
          let lo ← orFail pos (toInt a)
          let hi ← orFail pos (toInt b)
          let n := hi - lo + 1
          grow pos n.toNat
          Run.newList ((List.range n.toNat).map fun (i : Nat) => .int (lo + (i : Int)))
        | other => failAt pos ("unknown operator (" ++ other ++ ")")
    | .member target key optional pos => do
      let base ← go f target
      if optional && base matches .nil then throw .nilChain
      let k ← go f key
      orFail pos (← fetch base k)
    | .chain inner _ =>
      tryCatch (go f inner) fun
        | .nilChain => pure .nil
        | e => throw e
    | .slice target lo hi pos => do
      let base ← go f target
      let b ← match hi with
        | some h => go f h
        | none => orFail pos (← sliceLength base)
      let a ← match lo with
        | some l => go f l
        | none => pure (.int 0)
      orFail pos (← slicePart base a b)
    | .call callee args pos => do
      match callee, f.helpers with
      | .ident "call" _, some hs =>
        let vs ← args.mapM (go f)
        match ← hs.dispatch vs with
        | .ok v => pure v
        | .error e => failAt pos e.message
      | .ident name _, some hs =>
        match hs.find? (·.1 == name) with
        | some (_, h) =>
          let vs ← args.mapM (go f)
          match ← h.call vs with
          | .ok v => pure v
          | .error m => failAt pos m
        | none => callValue go f callee args pos
      | .member target (.str name _) optional mpos, _ => do
        let base ← go f target
        if optional && base matches .nil then throw .nilChain
        match base with
        | .time _ | .duration _ | .named .. | .zone _ =>
          match methodCall? pos base name (← args.mapM (go f)) with
          | some result => result
          | none => failAt mpos ("cannot fetch " ++ name ++ " from " ++ base.typeName)
        | _ =>
          let fn ← orFail mpos (← fetch base (.str name))
          let _ ← args.mapM (go f)
          callFetched fn pos
      | _, _ => callValue go f callee args pos
    | .builtin name args pos => do
      match predicateArgs? name, args with
      | some _, source :: .predicate body _ :: rest =>
        let items ← itemsOf pos (← go f source)
        let test (i : Nat) (x : Value) : EvalM Value :=
          go { f with element := x, index := .int i } body
        match name with
        | "all" | "any" | "none" | "one" | "count" | "filter" | "find" | "findIndex"
        | "findLast" | "findLastIndex" =>
          let backward := name == "findLast" || name == "findLastIndex"
          let mut hits : List (Nat × Value) := []
          for (x, i) in if backward then items.zipIdx.reverse else items.zipIdx do
            if ← boolOf pos (← test i x) then
              if name == "none" then return .bool false
              hits := hits ++ [(i, x)]
              if name == "any" || name == "find" || name == "findIndex" || backward then break
            else if name == "all" then return .bool false
          match name with
          | "all" => pure (.bool true)
          | "any" => pure (.bool !hits.isEmpty)
          | "none" => pure (.bool true)
          | "one" => pure (.bool (hits.length == 1))
          | "count" => pure (.int hits.length)
          | "filter" =>
            grow pos hits.length
            Run.newList (hits.map (·.2))
          | "find" | "findLast" => pure ((hits.head?.map (·.2)).getD .nil)
          | _ => pure (.int ((hits.head?.map fun h => (h.1 : Int)).getD (-1)))
        | "map" =>
          let mapped ← items.zipIdx.mapM fun (x, i) => test i x
          grow pos items.length
          Run.newList mapped
        | "sum" =>
          let mut total : Value := .int 0
          for (x, i) in items.zipIdx do total ← orFail pos (add total (← test i x))
          pure total
        | "reduce" =>
          let start ← match rest with
            | init :: _ => go f init
            | [] => pure (items.headD .nil)
          let remaining := if rest.isEmpty then items.drop 1 else items
          let offset := if rest.isEmpty then 1 else 0
          let mut acc := start
          for (x, i) in remaining.zipIdx do
            acc ← go { f with element := x, index := .int (i + offset), acc } body
          pure acc
        | "sortBy" =>
          let desc ← match rest with
            | order :: _ => do
              match ← go f order with
              | .str "asc" => pure false
              | .str "desc" => pure true
              | .str _ => failAt pos "unknown order, use asc or desc"
              | other => failAt pos (conversionMessage other "string")
            | [] => pure false
          let keyed ← items.zipIdx.mapM fun (x, i) => do pure (← test i x, x)
          let sorted ← insertionSort (fun (a b : Value × Value) =>
            if desc then less pos b.1 a.1 else less pos a.1 b.1) keyed
          Run.newList (sorted.map (·.2))
        | "groupBy" =>
          let mut groups : List (Value × List Value) := []
          for (x, i) in items.zipIdx do
            let key ← test i x
            if let some m := unhashable? key then failAt pos m
            groups := if groups.any (keyEquals key ·.1) then
              groups.map fun g => if keyEquals key g.1 then (g.1, g.2 ++ [x]) else g
              else groups ++ [(key, [x])]
          pure (.keyed (← groups.mapM fun (k, xs) => do pure (k, ← Run.newList xs)) true)
        | _ => failAt pos ("builtin " ++ name ++ " is not available")
      | some _, [source] =>
        let items ← itemsOf pos (← go f source)
        match name with
        | "count" =>
          let mut hits := 0
          for x in items do
            if ← boolOf pos x then hits := hits + 1
          pure (.int hits)
        | "sum" =>
          let mut total : Value := .int 0
          for x in items do total ← orFail pos (add total x)
          pure total
        | _ => failAt pos ("not enough arguments to call " ++ name)
      | _, _ => builtinCall pos name (← args.mapM (go f))
    | .predicate body _ => go f body
    | .cond test yes no pos => do
      if ← boolOf pos (← go f test) then go f yes else go f no
    | .array items pos => do
      let vs ← items.mapM (go f)
      grow pos vs.length
      Run.newList vs
    | .constList items _ => do Run.newList (← items.mapM (go f))
    | .textSet items _ => Run.newList (items.map .str)
    | .pick source pred mapped last pos => do
      let items ← itemsOf pos (← go f source)
      let order := if last then items.zipIdx.reverse else items.zipIdx
      for (x, i) in order do
        let g := { f with element := x, index := .int i }
        if ← boolOf pos (← go g pred) then
          return ← match mapped with
            | some m => go g m
            | none => pure x
      failAt pos "reflect: slice index out of range"
    | .filterMap source pred mapped pos => do
      let items ← itemsOf pos (← go f source)
      let mut out : List Value := []
      for (x, i) in items.zipIdx do
        let g := { f with element := x, index := .int i }
        if ← boolOf pos (← go g pred) then out := out ++ [← go g mapped]
      grow pos out.length
      Run.newList out
    | .map pairs pos => do
      let evaluated ← pairs.mapM fun (k, v) => do pure (← go f k, ← go f v)
      grow pos pairs.length
      let mut entries : List (String × Value) := []
      for (k, v) in evaluated.reverse do
        let key ← textOf pos k
        entries := if entries.any (·.1 == key) then
            entries.map fun e => if e.1 == key then (key, v) else e
          else entries ++ [(key, v)]
      Run.newTable entries.reverse
    | .sequence items _ => do
      let mut last := Value.nil
      for item in items do last ← go f item
      pure last
    | .letIn name value body _ => do
      let v ← go f value
      go { f with lets := (name, v) :: f.lets } body
where
  callValue (go : Frame → Term → EvalM Value) (f : Frame) (callee : Term) (args : List Term)
      (pos : Nat) : EvalM Value := do
    let fn ← go f callee
    let _ ← args.mapM (go f)
    callFetched fn pos
  callFetched (fn : Value) (pos : Nat) : EvalM Value :=
    match fn with
    | .nil => failAt pos "invalid operation: cannot call nil"
    | other => failAt pos ("invalid operation: cannot call non-function of type " ++ other.typeName)

def run (t : Term) (size : Nat) (vars : List (String × Value)) (helpers : Option Helpers) :
    Run (Except Diag Value) := do
  match ← ((evalTerm (size + 2) { vars, helpers } t).run).run' 0 with
  | .ok v => pure (.ok v)
  | .error (.fail d) => pure (.error d)
  | .error .nilChain => pure (.ok .nil)

end Bindery.Expr
