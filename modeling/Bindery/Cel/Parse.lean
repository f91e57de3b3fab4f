import Bindery.Cel.Lex
import Bindery.Cel.Quote
import Bindery.Cel.Diagnostic
import Bindery.Decimal.Read

/-!
# Parsing the typed expression language

A recursive-descent parser of the language's grammar with the error handling of a generated
LL(*) parser, so that syntax errors read the same:

* before a choice that needs a token, a token that cannot start any alternative is either
  dropped, when the token after it fits (`extraneous input`), or reported as `mismatched
  input` with the set of expected tokens;
* a missing token is dropped into place when the current token fits after it (`missing`), an
  extra one is skipped when the next token fits (`extraneous input`);
* a choice that no alternative fits reports `no viable alternative at input` with the text
  from where the choice began;
* after an error the rule gives up, the parser skips to a token that can follow one of the
  rules being parsed, and no further error is reported until a token is matched again.

Terms are built as rules complete, with the language's checks on the way: literals in range,
reserved words, and the expansion of the macros `has`, `all`, `exists`, `exists_one`, `map`
and `filter`. Their errors are reported after the syntax errors.

Nesting is limited twice. While parsing, at most 250 `expr` rules may be open one inside
another; one more stops the parser with an error at no place. Once parsed, a term may nest at
most 250 relations, arithmetic operators and conditionals; a deeper one is an error at no place
instead of the errors of building terms.
-/

namespace Bindery.Cel

/-- The tokens that may come next, and whether the rule may end instead. -/
structure Follow where
  kinds : List Kind
  canEnd : Bool

structure ParseState where
  toks : Array Token
  gaps : Array String
  pos : Nat := 0
  syntaxIssues : Array Issue := #[]
  termIssues : Array Issue := #[]
  recovering : Bool := false
  lastErrorIndex : Option Nat := none
  lastErrorStates : List Nat := []
  stack : List Follow := []
  attempts : Nat := 0
  halted : Bool := false
  exprDepth : Nat := 0

abbrev PM := StateM ParseState

inductive Fail where
  | mismatch (expected : List Kind) (state : Nat)
  | noViable (start offending : Nat) (state : Nat)

def RM (α : Type) : Type := ExceptT Fail PM α

instance : Monad RM := inferInstanceAs (Monad (ExceptT Fail PM))

instance : MonadExceptOf Fail RM := inferInstanceAs (MonadExceptOf Fail (ExceptT Fail PM))

instance : MonadLift PM RM := inferInstanceAs (MonadLift PM (ExceptT Fail PM))

def RM.run {α : Type} (x : RM α) : PM (Except Fail α) := ExceptT.run x

attribute [irreducible] RM

def exprFirst : List Kind :=
  [.lbracket, .lbrace, .lparen, .dot, .minus, .exclam, .trueKw, .falseKw, .nullKw, .numFloat,
   .numInt, .numUint, .string, .bytes, .identifier]

def memberFirst : List Kind := exprFirst.filter (· != .exclam)

def literalFirst : List Kind :=
  [.minus, .trueKw, .falseKw, .nullKw, .numFloat, .numInt, .numUint, .string, .bytes]

def optExprFirst : List Kind := .question :: exprFirst

def optFieldFirst : List Kind := [.question, .identifier, .escIdentifier]

def relOps : List Kind := [.equals, .notEquals, .inKw, .less, .lessEquals, .greaterEquals, .greater]

def calcOps : List Kind := [.star, .slash, .percent, .plus, .minus]

/-- A set of token kinds as messages print it: in grammar order, braced when not single. -/
def kindsText (ks : List Kind) : String :=
  let uniq := ks.foldl (fun acc k => if acc.contains k then acc else acc ++ [k]) []
  let sorted := uniq.mergeSort fun a b => decide (a.number ≤ b.number)
  match sorted with
  | [k] => k.display
  | _ => "\x7b" ++ ", ".intercalate (sorted.map Kind.display) ++ "\x7d"

/-- Quotes a text for a message, showing tabs and line breaks as escapes. -/
def quoteInput (s : String) : String :=
  "'" ++ ((s.replace "\t" "\\t").replace "\n" "\\n").replace "\r" "\\r" ++ "'"

def la (k : Nat) : PM Kind := do
  let s ← get
  if s.halted then return .eof
  pure ((s.toks[s.pos + k - 1]?).map (·.kind) |>.getD .eof)

def lt (k : Nat) : PM Token := do
  let s ← get
  pure ((s.toks[s.pos + k - 1]?).getD (s.toks.back?.getD default))

/-- Moves past the current token (never past the end of input). -/
def consume : PM Unit :=
  modify fun s => if s.pos + 1 < s.toks.size then { s with pos := s.pos + 1 } else s

def reportAt (t : Token) (msg : String) : PM Unit :=
  modify fun s =>
    if s.halted || s.syntaxIssues.size ≥ 100 then s
    else { s with syntaxIssues := s.syntaxIssues.push ⟨some t.offset, "Syntax error: " ++ msg⟩ }

def reportTerm (offset : Nat) (msg : String) : PM Unit :=
  modify fun s => { s with termIssues := s.termIssues.push ⟨some offset, msg⟩ }

def endError : PM Unit :=
  modify fun s => { s with recovering := false, lastErrorIndex := none, lastErrorStates := [] }

/-- Matches the current token, known to be the expected one. -/
def take : PM Token := do
  let t ← lt 1
  endError
  consume
  pure t

/-- The tokens the enclosing rules take next when the current one may end here. -/
def contextTokens : List Follow → List Kind
  | [] => [.eof]
  | f :: rest => if f.canEnd then f.kinds ++ contextTokens rest else f.kinds

def expectedOf (f : Follow) : PM (List Kind) := do
  if f.canEnd then pure (f.kinds ++ contextTokens (← get).stack) else pure f.kinds

def recoverySet : PM (List Kind) := do
  pure ((← get).stack.flatMap (·.kinds))

/-- Skips tokens until one of a set (or the end of input). -/
def consumeUntil (set : List Kind) : Nat → PM Unit
  | 0 => pure ()
  | fuel + 1 => do
    let k ← la 1
    if k == .eof || set.contains k then pure () else
    consume
    consumeUntil set fuel

/-- Counts a recovery; past the limit, parsing stops with an error. -/
def checkAttempts : PM Unit := do
  let s ← get
  if s.attempts == 30 then
    reportAt (← lt 1) "error recovery attempt limit exceeded: 30"
    modify fun s => { s with attempts := s.attempts + 1, halted := true }
  else modify fun s => { s with attempts := s.attempts + 1 }

def reportUnwanted (expected : List Kind) : PM Unit := do
  if (← get).recovering then return
  modify fun s => { s with recovering := true }
  let t ← lt 1
  reportAt t ("extraneous input " ++ quoteInput t.text ++ " expecting " ++ kindsText expected)

/-- Drops the current token when the one after it is expected. -/
def dropExtra (expected : List Kind) : PM Bool := do
  if expected.contains (← la 2) then
    reportUnwanted expected
    consume
    endError
    pure true
  else pure false

/-- Matches a token of a kind; `next` is what follows it in the rule. -/
def expect (k : Kind) (next : Follow) (state : Nat) : RM Token := do
  if (← la 1) == k then return (← take)
  checkAttempts
  if ← dropExtra [k] then return (← take)
  let after ← expectedOf next
  let cur ← la 1
  if after.contains cur then
    if !(← get).recovering then
      modify fun s => { s with recovering := true }
      let t ← lt 1
      reportAt t ("missing " ++ kindsText [k] ++ " at " ++ quoteInput t.text)
    let t ← lt 1
    return { kind := k, text := "<missing " ++ k.display ++ ">", offset := t.offset }
  throw (.mismatch [k] state)

inductive SyncPoint where
  | block
  | loopBack

/-- Checks the current token before a choice or loop expecting `f`. -/
def sync (f : Follow) (point : SyncPoint) (state : Nat) : RM Unit := do
  if (← get).recovering then return
  if f.canEnd || f.kinds.contains (← la 1) then return
  match point with
  | .block =>
    if ← dropExtra f.kinds then return
    throw (.mismatch f.kinds state)
  | .loopBack =>
    reportUnwanted f.kinds
    let rs ← recoverySet
    consumeUntil (f.kinds ++ rs) ((← get).toks.size)

def textBetween (start stop : Nat) : PM String := do
  let s ← get
  let idx := (List.range (stop + 1 - start)).map (· + start)
  let parts := idx.filterMap fun i => match s.toks[i]? with
    | some t => if t.kind == .eof then none
      else some (t.text ++ (if i < stop then s.gaps[i]?.getD "" else ""))
    | none => none
  pure (String.join parts)

def reportFail (f : Fail) : PM Unit := do
  if (← get).recovering then return
  modify fun s => { s with recovering := true }
  match f with
  | .mismatch expected _ =>
    let t ← lt 1
    reportAt t ("mismatched input " ++ quoteInput t.text ++ " expecting " ++ kindsText expected)
  | .noViable start offending _ =>
    let s ← get
    let startTok := s.toks[start]?.getD default
    let offTok := s.toks[offending]?.getD (s.toks.back?.getD default)
    let input ← if startTok.kind == .eof then pure "<EOF>" else textBetween start offending
    let quoted := quoteInput input
    let reserved := ["true", "false", "null"].find? fun (w : String) =>
      input.toList.length == w.length + 1 && String.ofList (input.toList.drop 1) == w
    let msg := match reserved with
      | some w => "reserved identifier: " ++ w
      | none => "no viable alternative at input " ++ quoted
    reportAt offTok msg

/-- Skips to a token that can follow a rule being parsed, after a failure in `state`. -/
def recover (state : Nat) : PM Unit := do
  checkAttempts
  let s ← get
  if s.lastErrorIndex == some s.pos && s.lastErrorStates.contains state then consume
  let s ← get
  set { s with lastErrorIndex := some s.pos, lastErrorStates := state :: s.lastErrorStates }
  consumeUntil (← recoverySet) ((← get).toks.size)

def Fail.state : Fail → Nat
  | .mismatch _ st | .noViable _ _ st => st

/-- Runs a rule invoked where `follow` may come after it; when it gives up, the failure is
reported, the parser recovers, and `dflt` stands for its result. -/
def invoke {α : Type} (follow : Follow) (dflt : α) (body : RM α) : PM α := do
  modify fun s => { s with stack := follow :: s.stack }
  let r ← body.run
  let out ← match r with
    | .ok v => pure v
    | .error f => do
      reportFail f
      recover f.state
      pure dflt
  modify fun s => { s with stack := s.stack.drop 1 }
  pure out

def here : PM (Nat × Nat) := do
  let s ← get
  pure (s.pos, ((s.toks[s.pos]?).map (·.offset)).getD 0)

/-! ## Building terms -/

def reservedWords : List String :=
  ["as", "break", "const", "continue", "else", "false", "for", "function", "if", "import", "in",
   "let", "loop", "package", "namespace", "null", "return", "true", "var", "void", "while"]

def Term.simpleName? : Term → Option String
  | .ident n _ => some n
  | _ => none

/-- Expands a quantifier macro: `kind` is `all`, `exists` or `exists_one`. -/
def quantifier (kind : String) (pos : Nat) (target : Term) (args : List Term) : PM Term := do
  let v := args.headD (.invalid pos)
  let body := (args.drop 1).headD (.invalid pos)
  match v.simpleName? with
  | none =>
    reportTerm v.pos "argument must be a simple name"
    pure (.invalid pos)
  | some name =>
    if name == accumulatorName then
      reportTerm v.pos "iteration variable overwrites accumulator variable"
      return .invalid pos
    let accu : Term := .ident accumulatorName pos
    let parts : Term × Term × Term × Term := match kind with
      | "all" =>
        (.lit (.bool true) pos, .call "@not_strictly_false" none [accu] pos,
         .call "_&&_" none [accu, body] pos, accu)
      | "exists" =>
        (.lit (.bool false) pos,
         .call "@not_strictly_false" none [.call "!_" none [accu] pos] pos,
         .call "_||_" none [accu, body] pos, accu)
      | _ =>
        (.lit (.int 0) pos, .lit (.bool true) pos,
         .call "_?_:_" none [body, .call "_+_" none [accu, .lit (.int 1) pos] pos, accu] pos,
         .call "_==_" none [accu, .lit (.int 1) pos] pos)
    let (init, cond, step, result) := parts
    pure (.comprehension name target accumulatorName init cond step result pos)

def mapMacro (isFilter : Bool) (pos : Nat) (target : Term) (args : List Term) : PM Term := do
  let v := args.headD (.invalid pos)
  match v.simpleName? with
  | none =>
    reportTerm v.pos "argument is not an identifier"
    pure (.invalid pos)
  | some name =>
    if name == accumulatorName then
      reportTerm v.pos "iteration variable overwrites accumulator variable"
      return .invalid pos
    let accu : Term := .ident accumulatorName pos
    let step : Term :=
      if isFilter then
        .call "_?_:_" none [(args.drop 1).headD (.invalid pos),
          .call "_+_" none [accu, .list [v] pos] pos, accu] pos
      else match args with
        | [_, f, t] =>
          .call "_?_:_" none [f, .call "_+_" none [accu, .list [t] pos] pos, accu] pos
        | _ => .call "_+_" none [accu, .list [(args.drop 1).headD (.invalid pos)] pos] pos
    pure (.comprehension name target accumulatorName (.list [] pos) (.lit (.bool true) pos) step
      accu pos)

/-- A call of a global function, or the expansion of the `has` macro. -/
def globalCall (pos : Nat) (fn : String) (args : List Term) : PM Term := do
  if fn == "has" && args.length == 1 then
    match args with
    | [.select operand field _ _] => pure (.select operand field true pos)
    | a :: _ =>
      reportTerm a.pos "invalid argument to has() macro"
      pure (.invalid pos)
    | [] => pure (.invalid pos)
  else pure (.call fn none args pos)

def receiverCall (pos : Nat) (fn : String) (target : Term) (args : List Term) : PM Term := do
  match fn, args.length with
  | "all", 2 => quantifier "all" pos target args
  | "exists", 2 => quantifier "exists" pos target args
  | "exists_one", 2 | "existsOne", 2 => quantifier "exists_one" pos target args
  | "map", 2 | "map", 3 => mapMacro false pos target args
  | "filter", 2 => mapMacro true pos target args
  | _, _ => pure (.call fn (some target) args pos)

def operatorName : Kind → String
  | .equals => "_==_" | .notEquals => "_!=_" | .inKw => "@in" | .less => "_<_"
  | .lessEquals => "_<=_" | .greaterEquals => "_>=_" | .greater => "_>_"
  | .star => "_*_" | .slash => "_/_" | .percent => "_%_" | .plus => "_+_" | .minus => "_-_"
  | _ => ""

/-- A balanced tree of a logical operator over terms `first :: rest`, each join placed at its
operator. -/
def balance (fn : String) (terms : Array Term) (ops : Array Nat) : Nat → Nat → Nat → Term
  | 0, _, _ => .invalid 0
  | fuel + 1, lo, hi =>
    let mid := (lo + hi + 1) / 2
    let left := if mid == lo then terms[mid]?.getD (.invalid 0) else balance fn terms ops fuel lo (mid - 1)
    let right := if mid == hi then terms[mid + 1]?.getD (.invalid 0)
      else balance fn terms ops fuel (mid + 1) hi
    .call fn none [left, right] (ops[mid]?.getD 0)

/-- A chain of a logical operator: the first term, then operator offsets with terms. -/
def logicChain (fn : String) (first : Term) (rest : List (Nat × Term)) : Term :=
  if rest.isEmpty then first else
  let terms := (first :: rest.map (·.2)).toArray
  let ops := (rest.map (·.1)).toArray
  balance fn terms ops (ops.size + 1) 0 (ops.size - 1)

/-- The integer literal of a token, with an optional sign token. -/
def intLiteral (start : Nat) (sign : Bool) (t : Token) : PM Term := do
  let (hex, digits) :=
    if t.text.startsWith "0x" then (true, (t.text.drop 2).toString) else (false, t.text)
  let value : Option Int :=
    let ds := digits.toList
    let base := if hex then 16 else 10
    match ds.foldlM (fun acc c => (hexDigit c).bind fun d => if d < base then some (acc * base + d) else none) 0 with
    | some n => some (if sign then -(n : Int) else n)
    | none => none
  match value with
  | some v =>
    if v < -Int.pow 2 63 || v ≥ Int.pow 2 63 then
      reportTerm start "invalid int literal"
      pure (.invalid start)
    else pure (.lit (.int v) start)
  | none =>
    reportTerm start "invalid int literal"
    pure (.invalid start)

def uintLiteral (t : Token) : PM Term := do
  let body := (t.text.dropEnd 1).toString
  let (hex, digits) := if body.startsWith "0x" then (true, (body.drop 2).toString) else (false, body)
  let base := if hex then 16 else 10
  match digits.toList.foldlM (fun acc c => (hexDigit c).bind fun d => if d < base then some (acc * base + d) else none) 0 with
  | some n =>
    if n ≥ Nat.pow 2 64 then
      reportTerm t.offset "invalid uint literal"
      pure (.invalid t.offset)
    else pure (.lit (.uint n) t.offset)
  | none =>
    reportTerm t.offset "invalid uint literal"
    pure (.invalid t.offset)

/-- The double literal of a token, with an optional sign. -/
def doubleLiteral (start : Nat) (sign : Bool) (t : Token) : PM Term := do
  match Decimal.readFloat ((if sign then "-" else "") ++ t.text) with
  | .ok f => pure (.lit (.double f) start)
  | .error _ =>
    reportTerm start "invalid double literal"
    pure (.invalid start)

def quotedLiteral (t : Token) (bytes : Bool) : PM Term := do
  let text := if bytes then (t.text.drop 1).toString else t.text
  match unquote text bytes with
  | .ok units =>
    pure (.lit (if bytes then .bytes (unitsBytes units) else .str (unitsText units)) t.offset)
  | .error e =>
    reportTerm t.offset e
    pure (.lit (if bytes then .bytes (utf8Bytes' text) else .str text) t.offset)
where
  utf8Bytes' (s : String) : List Nat := s.toList.flatMap utf8Bytes

/-- The name of an identifier token of a field, or the error of a quoted one. -/
def fieldName (t : Token) : PM String := do
  if t.kind == .escIdentifier then
    reportTerm t.offset "unsupported syntax '`'"
    pure ""
  else pure t.text

/-! ## Rules -/

/-- How deeply rules of one kind may nest, and how many operators a term may nest. -/
def recursionLimit : Nat := 250

/-- Enters an `expr` rule. Past the nesting limit, parsing stops with an error at no place;
the errors reported so far stay. -/
def enterExpr : PM Unit := do
  let s ← get
  let depth := s.exprDepth + 1
  if depth > recursionLimit && !s.halted then
    let issue : Issue :=
      ⟨none, "expression recursion limit exceeded: " ++ Decimal.natText recursionLimit⟩
    set { s with exprDepth := depth, halted := true, syntaxIssues := s.syntaxIssues.push issue }
  else set { s with exprDepth := depth }

def leaveExpr : PM Unit := modify fun s => { s with exprDepth := s.exprDepth - 1 }

mutual

/-- `expr`, counted against the nesting limit whether it succeeds or gives up. -/
def ruleExpr : Nat → RM Term
  | 0 => pure (.invalid 0)
  | fuel + 1 => do
    enterExpr
    let r ← (show PM (Except Fail Term) from (ruleExprBody fuel).run)
    leaveExpr
    match r with
    | .ok t => pure t
    | .error f => throw f

def ruleExprBody : Nat → RM Term
  | 0 => pure (.invalid 0)
  | fuel + 1 => do
    let e ← invoke ⟨[.question], true⟩ (.invalid 0) (ruleOr fuel)
    if (← la 1) == .question then
      let op ← take
      let yes ← invoke ⟨[.colon], false⟩ (.invalid 0) (ruleOr fuel)
      let _ ← expect .colon ⟨exprFirst, false⟩ 1
      let no ← invoke ⟨[], true⟩ (.invalid 0) (ruleExpr fuel)
      globalCall op.offset "_?_:_" [e, yes, no]
    else pure e

/-- `conditionalOr : conditionalAnd ('||' conditionalAnd)*` -/
def ruleOr : Nat → RM Term
  | 0 => pure (.invalid 0)
  | fuel + 1 => do
    let first ← invoke ⟨[.logicalOr], true⟩ (.invalid 0) (ruleAnd fuel)
    let rest ← orLoop fuel []
    pure (logicChain "_||_" first rest)

def orLoop : Nat → List (Nat × Term) → RM (List (Nat × Term))
  | 0, acc => pure acc
  | fuel + 1, acc => do
    if (← la 1) == .logicalOr then
      let op ← take
      let t ← invoke ⟨[.logicalOr], true⟩ (.invalid 0) (ruleAnd fuel)
      orLoop fuel (acc ++ [(op.offset, t)])
    else pure acc

def ruleAnd : Nat → RM Term
  | 0 => pure (.invalid 0)
  | fuel + 1 => do
    let first ← invoke ⟨[.logicalAnd], true⟩ (.invalid 0) (ruleRelation fuel 0)
    let rest ← andLoop fuel []
    pure (logicChain "_&&_" first rest)

def andLoop : Nat → List (Nat × Term) → RM (List (Nat × Term))
  | 0, acc => pure acc
  | fuel + 1, acc => do
    if (← la 1) == .logicalAnd then
      let op ← take
      let t ← invoke ⟨[.logicalAnd], true⟩ (.invalid 0) (ruleRelation fuel 0)
      andLoop fuel (acc ++ [(op.offset, t)])
    else pure acc

/-- `relation : calc | relation op relation`, at a precedence. -/
def ruleRelation : Nat → Nat → RM Term
  | 0, _ => pure (.invalid 0)
  | fuel + 1, prec => do
    let lhs ← invoke ⟨relOps, true⟩ (.invalid 0) (ruleCalc fuel 0)
    relationLoop fuel prec lhs

def relationLoop : Nat → Nat → Term → RM Term
  | 0, _, lhs => pure lhs
  | fuel + 1, prec, lhs => do
    let k ← la 1
    if relOps.contains k && prec ≤ 1 then
      let op ← take
      let rhs ← invoke ⟨relOps, true⟩ (.invalid 0) (ruleRelation fuel 2)
      let t ← globalCall op.offset (operatorName op.kind) [lhs, rhs]
      relationLoop fuel prec t
    else pure lhs

/-- `calc : unary | calc ('*'|'/'|'%') calc | calc ('+'|'-') calc`, at a precedence. -/
def ruleCalc : Nat → Nat → RM Term
  | 0, _ => pure (.invalid 0)
  | fuel + 1, prec => do
    let lhs ← invoke ⟨calcOps, true⟩ (.invalid 0) (ruleUnary fuel)
    calcLoop fuel prec lhs

def calcLoop : Nat → Nat → Term → RM Term
  | 0, _, lhs => pure lhs
  | fuel + 1, prec, lhs => do
    let k ← la 1
    let level : Option Nat :=
      if [Kind.star, .slash, .percent].contains k && prec ≤ 2 then some 3
      else if [Kind.plus, .minus].contains k && prec ≤ 1 then some 2
      else none
    match level with
    | some next =>
      let op ← take
      let rhs ← invoke ⟨calcOps, true⟩ (.invalid 0) (ruleCalc fuel next)
      let t ← globalCall op.offset (operatorName op.kind) [lhs, rhs]
      calcLoop fuel prec t
    | none => pure lhs

def ruleUnary : Nat → RM Term
  | 0 => pure (.invalid 0)
  | fuel + 1 => do
    sync ⟨exprFirst, false⟩ .block 2
    let (idx, _) ← here
    let k1 ← la 1
    let k2 ← la 2
    if k1 == .exclam then
      let first ← take
      let n ← prefixLoop fuel .exclam 3 1
      let m ← invoke ⟨[], true⟩ (.invalid 0) (ruleMember fuel)
      if n % 2 == 0 then pure m else globalCall first.offset "!_" [m]
    else if k1 == .minus && k2 != .numInt && k2 != .numFloat then
      if !memberFirst.contains k2 then throw (.noViable idx (idx + 1) 4)
      let first ← take
      let n ← prefixLoop fuel .minus 5 1
      let m ← invoke ⟨[], true⟩ (.invalid 0) (ruleMember fuel)
      if n % 2 == 0 then pure m else globalCall first.offset "-_" [m]
    else invoke ⟨[], true⟩ (.invalid 0) (ruleMember fuel)

/-- The loop of repeated prefix operators after the first; returns how many there are. -/
def prefixLoop : Nat → Kind → Nat → Nat → RM Nat
  | 0, _, _, n => pure n
  | fuel + 1, op, state, n => do
    sync ⟨op :: memberFirst, false⟩ .loopBack state
    let (idx, _) ← here
    let k1 ← la 1
    if k1 == op then
      if op == .minus then
        let k2 ← la 2
        if !memberFirst.contains k2 then throw (.noViable idx (idx + 1) state)
      let _ ← take
      prefixLoop fuel op state (n + 1)
    else if memberFirst.contains k1 then pure n
    else throw (.noViable idx idx state)

/-- `member : primary | member '.' '?'? escapeIdent | member '.' IDENTIFIER '(' exprList? ')'
| member '[' '?'? expr ']'` -/
def ruleMember : Nat → RM Term
  | 0 => pure (.invalid 0)
  | fuel + 1 => do
    let p ← invoke ⟨[.dot, .lbracket], true⟩ (.invalid 0) (rulePrimary fuel)
    memberLoop fuel p

def memberLoop : Nat → Term → RM Term
  | 0, operand => pure operand
  | fuel + 1, operand => do
    let (idx, _) ← here
    let k1 ← la 1
    if k1 == .lbracket then
      let op ← take
      sync ⟨optExprFirst, false⟩ .block 6
      let opt ← if (← la 1) == .question then some <$> take else pure none
      let index ← invoke ⟨[.rbracket], false⟩ (.invalid 0) (ruleExpr fuel)
      let _ ← expect .rbracket ⟨[.dot, .lbracket], true⟩ 7
      let t ← match opt with
        | some _ =>
          reportTerm op.offset "unsupported syntax '[?'"
          pure (.invalid op.offset)
        | none => globalCall op.offset "_[_]" [operand, index]
      memberLoop fuel t
    else if k1 == .dot then
      let k2 ← la 2
      let k3 ← la 3
      if k2 == .identifier && k3 == .lparen then
        let _ ← take
        let id ← take
        let openTok ← take
        sync ⟨exprFirst ++ [.rparen], false⟩ .block 8
        let args ← if exprFirst.contains (← la 1) then
            invoke ⟨[.rparen], false⟩ [] (ruleExprList fuel)
          else pure []
        let _ ← expect .rparen ⟨[.dot, .lbracket], true⟩ 9
        let t ← receiverCall openTok.offset id.text operand args
        memberLoop fuel t
      else if k2 == .identifier || k2 == .escIdentifier || k2 == .question then
        let op ← take
        sync ⟨optFieldFirst, false⟩ .block 10
        let opt ← if (← la 1) == .question then some <$> take else pure none
        let id ← invoke ⟨[.dot, .lbracket], true⟩ none (ruleEscapeIdent fuel)
        let t ← match opt, id with
          | some _, _ =>
            reportTerm op.offset "unsupported syntax '.?'"
            pure (.invalid op.offset)
          | none, some tok => do pure (.select operand (← fieldName tok) false op.offset)
          | none, none => pure (.invalid op.offset)
        memberLoop fuel t
      else throw (.noViable idx (idx + 1) 11)
    else pure operand

def ruleEscapeIdent : Nat → RM (Option Token)
  | 0 => pure none
  | _ + 1 => do
    sync ⟨[.identifier, .escIdentifier], false⟩ .block 12
    let (idx, _) ← here
    let k ← la 1
    if k == .identifier || k == .escIdentifier then some <$> take
    else throw (.noViable idx idx 13)

/-- `primary`: identifiers, calls, parentheses, list, map and message literals, literals. -/
def rulePrimary : Nat → RM Term
  | 0 => pure (.invalid 0)
  | fuel + 1 => do
    sync ⟨memberFirst, false⟩ .block 14
    let (idx, _) ← here
    let k1 ← la 1
    if k1 == .dot || k1 == .identifier then
      let base := if k1 == .dot then 2 else 1
      if k1 == .dot && (← la 2) != .identifier then throw (.noViable idx (idx + 1) 15)
      let k2 ← la (base + 1)
      if k2 == .lparen then
        let dot ← if k1 == .dot then some <$> take else pure none
        let id ← take
        let op ← take
        sync ⟨exprFirst ++ [.rparen], false⟩ .block 16
        let args ← if exprFirst.contains (← la 1) then
            invoke ⟨[.rparen], false⟩ [] (ruleExprList fuel)
          else pure []
        let _ ← expect .rparen ⟨[], true⟩ 17
        let name := (if dot.isSome then "." else "") ++ id.text
        if reservedWords.contains id.text then
          reportTerm (dot.map (·.offset) |>.getD id.offset) ("reserved identifier: " ++ id.text)
        globalCall op.offset name args
      else if ← messageAhead fuel (base + 1) then
        createMessage fuel (k1 == .dot)
      else
        let dot ← if k1 == .dot then some <$> take else pure none
        let id ← take
        if reservedWords.contains id.text then
          let loc := (dot.map (·.offset)).getD id.offset
          reportTerm loc ("reserved identifier: " ++ id.text)
          return .invalid loc
        pure (.ident ((if dot.isSome then "." else "") ++ id.text) id.offset)
    else if k1 == .lparen then
      let _ ← take
      let e ← invoke ⟨[.rparen], false⟩ (.invalid 0) (ruleExpr fuel)
      let _ ← expect .rparen ⟨[], true⟩ 18
      pure e
    else if k1 == .lbracket then
      let op ← take
      sync ⟨optExprFirst ++ [.comma, .rbracket], false⟩ .block 19
      let elems ← if optExprFirst.contains (← la 1) then
          invoke ⟨[.comma, .rbracket], false⟩ [] (ruleListInit fuel)
        else pure []
      sync ⟨[.comma, .rbracket], false⟩ .block 20
      if (← la 1) == .comma then let _ ← take
      let _ ← expect .rbracket ⟨[], true⟩ 21
      let mut items : List Term := []
      for (opt, e) in elems do
        match opt with
        | some q => reportTerm q.offset "unsupported syntax '?'"
        | none => items := items ++ [e]
      pure (.list items op.offset)
    else if k1 == .lbrace then
      let op ← take
      sync ⟨optExprFirst ++ [.comma, .rbrace], false⟩ .block 22
      let entries ← if optExprFirst.contains (← la 1) then
          invoke ⟨[.comma, .rbrace], false⟩ [] (ruleMapInit fuel)
        else pure []
      sync ⟨[.comma, .rbrace], false⟩ .block 23
      if (← la 1) == .comma then let _ ← take
      let _ ← expect .rbrace ⟨[], true⟩ 24
      let mut items : List (Term × Term) := []
      for (opt, k, v) in entries do
        match opt with
        | some q => reportTerm q.offset "unsupported syntax '?'"
        | none => items := items ++ [(k, v)]
      pure (.map items op.offset)
    else if k1 == .minus then
      let k2 ← la 2
      if k2 != .numInt && k2 != .numFloat then throw (.noViable idx (idx + 1) 25)
      invoke ⟨[], true⟩ (.invalid 0) (ruleLiteral fuel)
    else if literalFirst.contains k1 then invoke ⟨[], true⟩ (.invalid 0) (ruleLiteral fuel)
    else throw (.noViable idx idx 26)

/-- Whether a qualified name followed by `{` starts at the `k`-th token ahead (a message
literal rather than an identifier). -/
def messageAhead : Nat → Nat → RM Bool
  | 0, _ => pure false
  | fuel + 1, k => do
    let a ← la k
    if a == .lbrace then pure true
    else if a == .dot && (← la (k + 1)) == .identifier then messageAhead fuel (k + 2)
    else pure false

/-- A message literal: a qualified name and braced field initialisers. -/
def createMessage : Nat → Bool → RM Term
  | 0, _ => pure (.invalid 0)
  | fuel + 1, leadingDot => do
    if leadingDot then let _ ← take
    let first ← take
    let ids ← qualifiedRest fuel [first.text]
    let op ← take
    sync ⟨optFieldFirst ++ [.comma, .rbrace], false⟩ .block 27
    let fields ← if optFieldFirst.contains (← la 1) then
        invoke ⟨[.comma, .rbrace], false⟩ [] (ruleFieldInit fuel)
      else pure []
    sync ⟨[.comma, .rbrace], false⟩ .block 28
    if (← la 1) == .comma then let _ ← take
    let _ ← expect .rbrace ⟨[], true⟩ 29
    let name := (if leadingDot then "." else "") ++ ".".intercalate ids
    let mut items : List (String × Nat × Term) := []
    for (opt, f, colon, v) in fields do
      match opt with
      | some q => reportTerm q.offset "unsupported syntax '?'"
      | none =>
        match f with
        | some tok => items := items ++ [(← fieldName tok, colon, v)]
        | none => pure ()
    pure (.message name items op.offset)

def qualifiedRest : Nat → List String → RM (List String)
  | 0, acc => pure acc
  | fuel + 1, acc => do
    if (← la 1) == .dot then
      let _ ← take
      let id ← take
      qualifiedRest fuel (acc ++ [id.text])
    else pure acc

def ruleExprList : Nat → RM (List Term)
  | 0 => pure []
  | fuel + 1 => do
    let first ← invoke ⟨[.comma], true⟩ (.invalid 0) (ruleExpr fuel)
    exprListLoop fuel [first]

def exprListLoop : Nat → List Term → RM (List Term)
  | 0, acc => pure acc
  | fuel + 1, acc => do
    if (← la 1) == .comma then
      let _ ← take
      let e ← invoke ⟨[.comma], true⟩ (.invalid 0) (ruleExpr fuel)
      exprListLoop fuel (acc ++ [e])
    else pure acc

def ruleOptExpr : Nat → RM (Option Token × Term)
  | 0 => pure (none, .invalid 0)
  | fuel + 1 => do
    sync ⟨optExprFirst, false⟩ .block 30
    let opt ← if (← la 1) == .question then some <$> take else pure none
    let e ← invoke ⟨[], true⟩ (.invalid 0) (ruleExpr fuel)
    pure (opt, e)

def ruleListInit : Nat → RM (List (Option Token × Term))
  | 0 => pure []
  | fuel + 1 => do
    let first ← invoke ⟨[.comma], true⟩ (none, .invalid 0) (ruleOptExpr fuel)
    listLoop fuel [first]

/-- The loop of `listInit`: it goes on when a comma is followed by an element. -/
def listLoop : Nat → List (Option Token × Term) → RM (List (Option Token × Term))
  | 0, acc => pure acc
  | fuel + 1, acc => do
    if (← la 1) == .comma && optExprFirst.contains (← la 2) then
      let _ ← take
      let e ← invoke ⟨[.comma], true⟩ (none, .invalid 0) (ruleOptExpr fuel)
      listLoop fuel (acc ++ [e])
    else pure acc

/-- `mapInitializerList : optExpr ':' expr (',' optExpr ':' expr)*` -/
def ruleMapInit : Nat → RM (List (Option Token × Term × Term))
  | 0 => pure []
  | fuel + 1 => do
    let (opt, k) ← invoke ⟨[.colon], false⟩ (none, .invalid 0) (ruleOptExpr fuel)
    let _ ← expect .colon ⟨exprFirst, false⟩ 31
    let v ← invoke ⟨[.comma], true⟩ (.invalid 0) (ruleExpr fuel)
    mapLoop fuel [(opt, k, v)]

def mapLoop : Nat → List (Option Token × Term × Term) → RM (List (Option Token × Term × Term))
  | 0, acc => pure acc
  | fuel + 1, acc => do
    if (← la 1) == .comma && optExprFirst.contains (← la 2) then
      let _ ← take
      let (opt, k) ← invoke ⟨[.colon], false⟩ (none, .invalid 0) (ruleOptExpr fuel)
      let _ ← expect .colon ⟨exprFirst, false⟩ 32
      let v ← invoke ⟨[.comma], true⟩ (.invalid 0) (ruleExpr fuel)
      mapLoop fuel (acc ++ [(opt, k, v)])
    else pure acc

def ruleOptField : Nat → RM (Option Token × Option Token)
  | 0 => pure (none, none)
  | fuel + 1 => do
    sync ⟨optFieldFirst, false⟩ .block 33
    let opt ← if (← la 1) == .question then some <$> take else pure none
    let id ← invoke ⟨[], true⟩ none (ruleEscapeIdent fuel)
    pure (opt, id)

/-- `fieldInitializerList : optField ':' expr (',' optField ':' expr)*` -/
def ruleFieldInit : Nat → RM (List (Option Token × Option Token × Nat × Term))
  | 0 => pure []
  | fuel + 1 => do
    let (opt, f) ← invoke ⟨[.colon], false⟩ (none, none) (ruleOptField fuel)
    let colon ← expect .colon ⟨exprFirst, false⟩ 34
    let v ← invoke ⟨[.comma], true⟩ (.invalid 0) (ruleExpr fuel)
    fieldLoop fuel [(opt, f, colon.offset, v)]

def fieldLoop : Nat → List (Option Token × Option Token × Nat × Term) →
    RM (List (Option Token × Option Token × Nat × Term))
  | 0, acc => pure acc
  | fuel + 1, acc => do
    if (← la 1) == .comma && optFieldFirst.contains (← la 2) then
      let _ ← take
      let (opt, f) ← invoke ⟨[.colon], false⟩ (none, none) (ruleOptField fuel)
      let colon ← expect .colon ⟨exprFirst, false⟩ 35
      let v ← invoke ⟨[.comma], true⟩ (.invalid 0) (ruleExpr fuel)
      fieldLoop fuel (acc ++ [(opt, f, colon.offset, v)])
    else pure acc

/-- `literal`: numbers (with an optional sign), strings, bytes, booleans and null. -/
def ruleLiteral : Nat → RM Term
  | 0 => pure (.invalid 0)
  | _ + 1 => do
    sync ⟨literalFirst, false⟩ .block 36
    let (idx, start) ← here
    let k1 ← la 1
    if k1 == .minus then
      let k2 ← la 2
      if k2 == .numInt then
        let _ ← take
        let t ← take
        intLiteral start true t
      else if k2 == .numFloat then
        let _ ← take
        let t ← take
        doubleLiteral start true t
      else throw (.noViable idx (idx + 1) 37)
    else
      let t ← take
      match k1 with
      | .numInt => intLiteral start false t
      | .numUint => uintLiteral t
      | .numFloat => doubleLiteral start false t
      | .string => quotedLiteral t false
      | .bytes => quotedLiteral t true
      | .trueKw => pure (.lit (.bool true) start)
      | .falseKw => pure (.lit (.bool false) start)
      | _ => pure (.lit .null start)

end

/-- The tokens the parser reads and the hidden text after each. -/
def visibleTokens (all : Array Token) : Array Token × Array String :=
  all.foldl (fun (toks, gaps) t =>
    if t.kind.hidden then
      if gaps.isEmpty then (toks, gaps) else (toks, gaps.modify (gaps.size - 1) (· ++ t.text))
    else (toks.push t, gaps.push "")) (#[], #[])

/-- The operators the building of terms counts when it limits nesting: the relations, the
arithmetic operators and the conditional. -/
def nestingOperators : List String :=
  ["_==_", "_!=_", "@in", "_<_", "_<=_", "_>=_", "_>_", "_*_", "_/_", "_%_", "_+_", "_-_", "_?_:_"]

/-- The greatest number of counted operators on a path from a term down to one of its parts,
looking at most `fuel` levels deep. -/
def Term.operatorDepth : Nat → Term → Nat
  | 0, _ => 0
  | fuel + 1, t =>
    let deepest (ts : List Term) : Nat := ts.foldl (fun m x => max m (Term.operatorDepth fuel x)) 0
    match t with
    | .lit .. | .ident .. | .invalid _ => 0
    | .select operand _ _ _ => Term.operatorDepth fuel operand
    | .call fn target args _ =>
      (if nestingOperators.contains fn then 1 else 0) + deepest (target.toList ++ args)
    | .list items _ => deepest items
    | .map entries _ => deepest (entries.flatMap fun (k, v) => [k, v])
    | .message _ fields _ => deepest (fields.map fun (_, _, v) => v)
    | .comprehension _ range _ init cond step result _ => deepest [range, init, cond, step, result]

def parse (source : String) : Except (List Issue) Term :=
  let lexed := lex source
  let (toks, gaps) := visibleTokens lexed.tokens
  let fuel := 16 * (toks.size + 2)
  let start : ParseState := { toks, gaps }
  let body : RM Term := do
    let e ← invoke ⟨[.eof], false⟩ (.invalid 0) (ruleExpr fuel)
    let _ ← expect .eof ⟨[], true⟩ 0
    pure e
  let (r, s) := (invoke ⟨[], true⟩ (.invalid 0) body).run start
  let lexIssues := lexed.errors.toList.map fun (o, m) => Issue.mk (some o) ("Syntax error: " ++ m)
  let tooDeep := !s.halted && Term.operatorDepth (toks.size + 2) r > recursionLimit
  let built := if s.halted then []
    else if tooDeep then [Issue.mk none "max recursion depth exceeded"]
    else s.termIssues.toList
  let issues := lexIssues ++ s.syntaxIssues.toList ++ built
  if issues.isEmpty then .ok r else .error issues

end Bindery.Cel
