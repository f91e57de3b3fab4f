import Bindery.Expr.Check
import Bindery.Expr.Runtime

/-!
# Simplifying checked terms before they run

A checked term is simplified before it runs, by passes that each walk the whole term and
transform a part after its own parts. The passes keep what a term computes for well-formed inputs,
but not always its failures, the order it looks at things in, or the memory it uses, and those
show:

* a list of texts after `in` becomes a set of texts, which looks its needle up as a text key (so a
  needle that is not a text cannot be looked up, and nil is the empty text);
* constant folding, repeated until nothing changes: arithmetic on number literals, joining of
  text literals, negation of literals, `&&` and `||` with a boolean literal on either side (which
  keep the other side as it is, whatever it holds), lists of literals, which are then made once,
  and a filter of a filter, which becomes one filter by both predicates; a remainder by a literal
  zero is an error;
* `x in a..b` with an integer `x` and literal bounds becomes two comparisons, so no range is made;
* `map(filter(l, p), f)` becomes one pass that filters and maps (when `f` does not use `#index`);
* `len(filter(l, p))` becomes `count(l, p)`;
* `filter(l, p)[0]` and `filter(l, p)[-1]` become a search for the first or last item `p` holds
  for, failing as an index out of range when there is none;
* `sum([a, b, ...])` of a list that is not all literals becomes `a + b + ...`, and
  `sum(map(l, f))` becomes `sum(l, f)`;
* `all(l, p) && all(l, q)`, `any(l, p) || any(l, q)` and `none(l, p) && none(l, q)`, over the same
  list, become one builtin whose predicate joins both.

A part that stands in for another points where the other did; parts made afresh point at the
start of the source.
-/

namespace Bindery.Expr

def Term.mapParts (go : Term → Term) : Term → Term
  | .unary op a p => .unary op (go a) p
  | .binary op l r p => .binary op (go l) (go r) p
  | .member a k o p => .member (go a) (go k) o p
  | .slice a lo hi p => .slice (go a) (lo.map go) (hi.map go) p
  | .call c args p => .call (go c) (args.map go) p
  | .builtin n args p => .builtin n (args.map go) p
  | .predicate b p => .predicate (go b) p
  | .cond a b c p => .cond (go a) (go b) (go c) p
  | .array items p => .array (items.map go) p
  | .map pairs p => .map (pairs.map fun (k, v) => (go k, go v)) p
  | .sequence items p => .sequence (items.map go) p
  | .letIn n v b p => .letIn n (go v) (go b) p
  | .chain i p => .chain (go i) p
  | .constList items p => .constList (items.map go) p
  | .pick s q m l p => .pick (go s) (go q) (m.map go) l p
  | .filterMap s q m p => .filterMap (go s) (go q) (go m) p
  | other => other

/-- A term with its parts replaced by an action on each, in the order they are walked. -/
def Term.mapPartsM {m : Type → Type} [Monad m] (go : Term → m Term) : Term → m Term
  | .unary op a p => do pure (.unary op (← go a) p)
  | .binary op l r p => do pure (.binary op (← go l) (← go r) p)
  | .member a k o p => do pure (.member (← go a) (← go k) o p)
  | .slice a lo hi p => do pure (.slice (← go a) (← lo.mapM go) (← hi.mapM go) p)
  | .call c args p => do pure (.call (← go c) (← args.mapM go) p)
  | .builtin n args p => do pure (.builtin n (← args.mapM go) p)
  | .predicate b p => do pure (.predicate (← go b) p)
  | .cond a b c p => do pure (.cond (← go a) (← go b) (← go c) p)
  | .array items p => do pure (.array (← items.mapM go) p)
  | .map pairs p => do pure (.map (← pairs.mapM fun (k, v) => do pure (← go k, ← go v)) p)
  | .sequence items p => do pure (.sequence (← items.mapM go) p)
  | .letIn n v b p => do pure (.letIn n (← go v) (← go b) p)
  | .chain i p => do pure (.chain (← go i) p)
  | .constList items p => do pure (.constList (← items.mapM go) p)
  | .pick s q f l p => do pure (.pick (← go s) (← go q) (← f.mapM go) l p)
  | .filterMap s q f p => do pure (.filterMap (← go s) (← go q) (← go f) p)
  | other => pure other

/-- A transformation applied to every part of a term, parts before the whole, at most `fuel`
levels deep. -/
def Term.transform (visit : Term → Term) : Nat → Term → Term
  | 0, t => t
  | fuel + 1, t => visit (t.mapParts (Term.transform visit fuel))

def Term.parts : Term → List Term
  | .unary _ a _ => [a]
  | .binary _ l r _ => [l, r]
  | .member a k _ _ => [a, k]
  | .slice a lo hi _ => a :: (lo.toList ++ hi.toList)
  | .call c args _ => c :: args
  | .builtin _ args _ => args
  | .predicate b _ => [b]
  | .cond a b c _ => [a, b, c]
  | .array items _ | .constList items _ | .sequence items _ => items
  | .map pairs _ => pairs.flatMap fun (k, v) => [k, v]
  | .letIn _ v b _ => [v, b]
  | .chain i _ => [i]
  | .pick s q m _ _ => [s, q] ++ m.toList
  | .filterMap s q m _ => [s, q, m]
  | _ => []

/-- Whether a term uses the position `#index` anywhere, at most `fuel` levels deep. -/
def Term.usesIndex : Nat → Term → Bool
  | 0, _ => false
  | fuel + 1, t =>
    match t with
    | .pointer "index" _ => true
    | _ => t.parts.any (Term.usesIndex fuel)

/-- Whether two terms are written alike, apart from where they stand, at most `fuel` levels
deep. -/
def Term.alike : Nat → Term → Term → Bool
  | 0, _, _ => false
  | fuel + 1, a, b =>
    let same := match a, b with
      | .nil _, .nil _ => true
      | .bool x _, .bool y _ => x == y
      | .int x _, .int y _ => x == y
      | .float x _, .float y _ => x == y
      | .str x _, .str y _ => x == y
      | .ident x _, .ident y _ | .pointer x _, .pointer y _ => x == y
      | .unary x .., .unary y .. | .binary x .., .binary y .. | .builtin x .., .builtin y .. =>
        x == y
      | .member _ _ x _, .member _ _ y _ => x == y
      | .slice _ lo hi _, .slice _ lo' hi' _ => lo.isSome == lo'.isSome && hi.isSome == hi'.isSome
      | .call .., .call .. | .predicate .., .predicate .. | .cond .., .cond .. | .array ..,
        .array .. | .map .., .map .. | .sequence .., .sequence .. | .chain .., .chain .. => true
      | .letIn x .., .letIn y .. => x == y
      | _, _ => false
    same && a.parts.length == b.parts.length &&
      (a.parts.zip b.parts).all fun (x, y) => Term.alike fuel x y

/-! ## Texts after `in` -/

/-- `x in ['a', ...]`, a list of text literals, as a set of texts. -/
def textSetNode (t : Term) : Term :=
  match t with
  | .binary "in" l (.array items apos) pos =>
    let texts := items.filterMap fun i => match i with
      | .str s _ => some s
      | _ => none
    if !items.isEmpty && texts.length == items.length then .binary "in" l (.textSet texts apos) pos
    else t
  | _ => t

/-! ## Constant folding -/

/-- The value of a literal: an integer, float, text or boolean. -/
def Term.literal? : Term → Option Value
  | .int i _ => some (.int i)
  | .float x _ => some (.float x)
  | .str s _ => some (.str s)
  | .bool b _ => some (.bool b)
  | _ => none

def literalAt (pos : Nat) : Value → Option Term
  | .int i => some (.int i pos)
  | .float x => some (.float x pos)
  | .str s => some (.str s pos)
  | .bool b => some (.bool b pos)
  | _ => none

def Term.isNumber : Term → Bool
  | .int .. | .float .. => true
  | _ => false

/-- An arithmetic operation on two number literals (or a join of two text literals for `+`). -/
def foldArith (op : String) (l r : Term) (pos : Nat) : Option Term := do
  let a ← l.literal?
  let b ← r.literal?
  let textJoin := op == "+" && (l matches .str ..) && (r matches .str ..)
  if !(l.isNumber && r.isNumber) && !textJoin then none
  let result ← match op with
    | "+" => (add a b).toOption
    | "-" => (subtract a b).toOption
    | "*" => (multiply a b).toOption
    | "/" => (divide a b).toOption
    | "**" | "^" => (power a b).toOption
    | _ => none
  literalAt pos result

/-- What folding does to one term whose parts are folded already: nothing, a new term, or an
error. -/
def foldNode (t : Term) : Except Diag (Option Term) :=
  match t with
  | .unary op a pos =>
    match op, a with
    | "-", .int i _ => .ok (some (.int (wrapInt (-i)) pos))
    | "-", .float x _ => .ok (some (.float (-x) pos))
    | "+", .int i _ => .ok (some (.int i pos))
    | "+", .float x _ => .ok (some (.float x pos))
    | "!", .bool b _ | "not", .bool b _ => .ok (some (.bool (!b) pos))
    | _, _ => .ok none
  | .binary op l r pos =>
    match op with
    | "&&" | "and" =>
      match l, r with
      | .bool true _, _ => .ok (some (r.withPos pos))
      | _, .bool true _ => .ok (some (l.withPos pos))
      | .bool false _, _ | _, .bool false _ => .ok (some (.bool false pos))
      | _, _ => .ok none
    | "||" | "or" =>
      match l, r with
      | .bool false _, _ => .ok (some (r.withPos pos))
      | _, .bool false _ => .ok (some (l.withPos pos))
      | .bool true _, _ | _, .bool true _ => .ok (some (.bool true pos))
      | _, _ => .ok none
    | "%" =>
      match l, r with
      | .int _ _, .int 0 _ => .error ⟨pos, "integer divide by zero"⟩
      | .int a _, .int b _ => .ok (some (.int (wrapInt (a.tmod b)) pos))
      | _, _ => .ok none
    | _ => .ok (foldArith op l r pos)
  | .array items pos =>
    if !items.isEmpty && items.all (·.literal?.isSome) then .ok (some (.constList items pos))
    else .ok none
  | .builtin "filter" [.builtin "filter" [source, .predicate p _] _, .predicate q _] pos =>
    .ok (some (.builtin "filter" [source, .predicate (.binary "&&" p q 0) 0] pos))
  | _ => .ok none

/-- One folding walk, recording whether anything changed and the last error met. -/
def foldWalk : Nat → Term → StateM (Bool × Option Diag) Term
  | 0, t => pure t
  | fuel + 1, t => do
    let t ← t.mapPartsM (foldWalk fuel)
    match foldNode t with
    | .error d =>
      modify fun (changed, _) => (changed, some d)
      pure t
    | .ok (some t') =>
      modify fun (_, e) => (true, e)
      pure t'
    | .ok none => pure t

/-- Folds a term until a walk changes nothing, at most `rounds` walks. -/
def foldTerm (size : Nat) : Nat → Term → Except Diag Term
  | 0, t => .ok t
  | rounds + 1, t =>
    match (foldWalk size t).run (false, none) with
    | (_, _, some d) => .error d
    | (t', true, none) => foldTerm size rounds t'
    | (t', false, none) => .ok t'

/-! ## Ranges after `in` -/

/-- `x in a..b` with an integer `x` and literal bounds, as `x >= a and x <= b`. -/
def rangeNode (natureOf : Term → Nature) (t : Term) : Term :=
  match t with
  | .binary "in" l (.binary ".." (.int a apos) (.int b bpos) _) pos =>
    if natureOf l == .int then
      .binary "and" (.binary ">=" l (.int a apos) 0) (.binary "<=" l (.int b bpos) 0) pos
    else t
  | _ => t

/-- The range pass over a term, knowing the types of the names bound around each part. -/
def rangeWalk (functions : List String) : Nat → List (String × Nature) → Term → Term
  | 0, _, t => t
  | fuel + 1, vars, t =>
    let go := rangeWalk functions fuel vars
    let t' := match t with
      | .builtin name args p =>
        let collection := match args.head? with
          | some c => natureIn functions fuel vars c
          | none => .unknown
        .builtin name (args.map fun a => match a with
          | .predicate .. => rangeWalk functions fuel (predicateScope name collection vars) a
          | _ => go a) p
      | .letIn n v b p =>
        .letIn n (go v) (rangeWalk functions fuel ((n, natureIn functions fuel vars v) :: vars) b) p
      | other => other.mapParts go
    rangeNode (natureIn functions fuel vars) t'

/-! ## Builtins over filters -/

/-- `map(filter(l, p), f)` as one pass, when `f` does not use `#index`. -/
def filterMapNode (size : Nat) (t : Term) : Term :=
  match t with
  | .builtin "map" [.builtin "filter" [source, pred] _, .predicate f _] pos =>
    if f.usesIndex size then t else .filterMap source pred f pos
  | _ => t

def filterLenNode (t : Term) : Term :=
  match t with
  | .builtin "len" [.builtin "filter" [source, pred] _] pos
  | .builtin "len" [.filterMap source pred _ _] pos => .builtin "count" [source, pred] pos
  | _ => t

/-- `filter(l, p)[0]` and `filter(l, p)[-1]` as a search that must find an item. -/
def filterPickNode (last : Bool) (t : Term) : Term :=
  let wanted : Int := if last then -1 else 0
  match t with
  | .member (.builtin "filter" [source, pred] _) (.int i _) false pos =>
    if i == wanted then .pick source pred none last pos else t
  | .member (.filterMap source pred f _) (.int i _) false pos =>
    if i == wanted then .pick source pred (some f) last pos else t
  | _ => t

/-- The sum of the items of a list literal, as additions. -/
def sumOfItems : List Term → Term
  | [] => .int 0 0
  | [a] => a
  | [a, b] => .binary "+" a b 0
  | a :: rest => .binary "+" a (sumOfItems rest) 0

/-- `sum([a, b, ...])` of at least two items as additions, and `sum(map(l, f))` as
`sum(l, f)`. -/
def sumNode (ofList : Bool) (t : Term) : Term :=
  match t with
  | .builtin "sum" [.array items _] pos =>
    if ofList && items.length ≥ 2 then (sumOfItems items).withPos pos else t
  | .builtin "sum" [.builtin "map" [source, f] _] pos =>
    if ofList then t else .builtin "sum" [source, f] pos
  | _ => t

/-- The operator joining the predicates of two builtins of one name joined by an operator, when
they can be joined: `all` by `and`, `any` by `or`, `none` (of either) by `or`. -/
def joinedOperator (builtin op : String) : Option String :=
  match builtin, op with
  | "all", "and" | "all", "&&" | "any", "or" | "any", "||" => some op
  | "none", "and" => some "or"
  | "none", "&&" => some "||"
  | _, _ => none

/-- Two `all`, `any` or `none` over the same list, joined by an operator, as one. -/
def joinPredicates (size : Nat) : Nat → Term → Term
  | 0, t => t
  | fuel + 1, t =>
    match t with
    | .binary op (.builtin n [c, .predicate p _] _) (.builtin m [c', .predicate q _] _) pos =>
      match joinedOperator n op with
      | some joined =>
        if n == m && Term.alike size c c' then
          .builtin n [c, .predicate (joinPredicates size fuel (.binary joined p q 0)) 0] pos
        else t
      | none => t
    | _ => t

/-- Simplifies a checked term the way the engine does before running it, or finds the error that
folding meets. -/
def optimize (functions : List String) (t : Term) (size : Nat) : Except Diag Term := do
  let fuel := size + 2
  let t := Term.transform textSetNode fuel t
  let t ← foldTerm fuel 1001 t
  let t := rangeWalk functions fuel [] t
  let t := Term.transform (filterMapNode fuel) fuel t
  let t := Term.transform filterLenNode fuel t
  let t := Term.transform (filterPickNode false) fuel t
  let t := Term.transform (filterPickNode true) fuel t
  let t := Term.transform (sumNode true) fuel t
  let t := Term.transform (sumNode false) fuel t
  pure (Term.transform (joinPredicates fuel fuel) fuel t)

end Bindery.Expr
