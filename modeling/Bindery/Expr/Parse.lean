import Bindery.Expr.Lex
import Bindery.Decimal.Read

/-!
# Parsing the dynamic expression language

A precedence-climbing parser over the tokens. Binary operators bind, from loosest to tightest:
the pipe `|`; `or`/`||`; `and`/`&&`; comparisons, equality and the word operators (`in`,
`matches`, `contains`, `startsWith`, `endsWith`, each also negated with `not`); the range `..`;
`+`, `-`; `*`, `/`, `%`; the right-associative `**` and `^`; and the coalescing `??`. Unary `not`,
`!`, `-` and `+` bind tighter than comparisons. Chained comparisons `a < b < c` mean
`a < b && b < c`. The conditional `c ? a : b` (also `c ?: b`) closes an expression.

Postfix forms follow a primary term: member access (`.name`, `?.name`), indexing and slicing
(`[i]`, `[i:j]`), and method calls. A name followed by `(` calls a predicate builtin (whose
second argument is a predicate over `#`), a builtin, or a function. Parsing keeps the first error.
-/

namespace Bindery.Expr

/-- The state of the parser: the tokens, the current position, the first error, and how deep
inside predicates it is. -/
structure ParseState where
  tokens : Array Token
  pos : Nat := 0
  err : Option Diag := none
  depth : Nat := 0
  functions : List String := []

abbrev ParseM := StateM ParseState

def current : ParseM Token := do
  let s ← get
  pure (s.tokens[s.pos]?.getD (s.tokens.back?.getD ⟨.eof, "", 0⟩))

/-- Records an error at a token, unless one was recorded already. -/
def errorAt (t : Token) (message : String) : ParseM Unit :=
  modify fun s => if s.err.isNone then { s with err := some ⟨t.pos, message⟩ } else s

def failHere (message : String) : ParseM Unit := do errorAt (← current) message

def failed : ParseM Bool := do pure (← get).err.isSome

/-- The text of a token in messages: its kind, with its text when it has one. -/
def Token.text (t : Token) : String :=
  if t.value.isEmpty then t.kind.name else t.kind.name ++ "(" ++ Text.quoted t.value ++ ")"

def advance : ParseM Unit := do
  let s ← get
  if s.pos + 1 ≥ s.tokens.size then
    set { s with pos := s.pos + 1 }
    failHere "unexpected end of expression"
  else set { s with pos := s.pos + 1 }

/-- Moves past a token of a kind (and one of some texts), or records an error. -/
def expect (k : Kind) (values : List String := []) : ParseM Unit := do
  let t ← current
  if t.is k values then advance else failHere ("unexpected token " ++ t.text)

/-- Binary operators: precedence and whether they associate to the right. -/
def binaryOp? : String → Option (Nat × Bool)
  | "|" => some (0, false)
  | "or" | "||" => some (10, false)
  | "and" | "&&" => some (15, false)
  | "==" | "!=" | "<" | ">" | ">=" | "<=" | "in" | "matches" | "contains" | "startsWith"
  | "endsWith" => some (20, false)
  | ".." => some (25, false)
  | "+" | "-" => some (30, false)
  | "*" | "/" | "%" => some (60, false)
  | "**" | "^" => some (100, true)
  | "??" => some (500, false)
  | _ => none

def unaryOp? : String → Option Nat
  | "not" | "!" => some 50
  | "-" | "+" => some 90
  | _ => none

def isComparison (op : String) : Bool := ["<", ">", ">=", "<="].contains op

def negatableOps : List String := ["in", "matches", "contains", "startsWith", "endsWith"]

/-- The arguments of predicate builtins: an expression or a predicate, and whether it may be
left out. -/
inductive ArgShape where
  | expr
  | predicate
  | optionalPredicate
  | optionalExpr
deriving BEq

def predicateArgs? : String → Option (List ArgShape)
  | "all" | "none" | "any" | "one" | "filter" | "map" | "find" | "findIndex" | "findLast"
  | "findLastIndex" | "groupBy" => some [.expr, .predicate]
  | "count" | "sum" => some [.expr, .optionalPredicate]
  | "sortBy" | "reduce" => some [.expr, .predicate, .optionalExpr]
  | _ => none

def builtinNames : List String :=
  ["all", "none", "any", "one", "filter", "map", "find", "findIndex", "findLast", "findLastIndex",
   "count", "sum", "groupBy", "sortBy", "reduce", "len", "type", "abs", "ceil", "floor", "round",
   "int", "float", "string", "trim", "trimPrefix", "trimSuffix", "upper", "lower", "split",
   "splitAfter", "replace", "repeat", "join", "indexOf", "lastIndexOf", "hasPrefix", "hasSuffix",
   "max", "min", "mean", "median", "toJSON", "fromJSON", "toBase64", "fromBase64", "now",
   "duration", "date", "timezone", "first", "last", "get", "take", "keys", "values", "toPairs",
   "fromPairs", "reverse", "sort", "bitand", "bitor", "bitxor", "bitnand", "bitnot", "bitshl", "bitshr",
   "bitushr", "concat", "flatten", "uniq"]

def isValidName (s : String) : Bool :=
  match s.toList with
  | [] => false
  | c :: rest => (c == '_' || c == '$' || isLetter c) && rest.all isNameChar

mutual

def parseSequence : Nat → ParseM Term
  | 0 => do failHere "expression too deep"; pure (.nil 0)
  | fuel + 1 => do
    let first ← parseExpression fuel 0
    let mut nodes := [first]
    for _ in [0:(← get).tokens.size] do
      if !((← current).is .operator [";"]) || (← failed) then break
      advance
      if (← current).is .eof then break
      nodes := nodes ++ [← parseExpression fuel 0]
    match nodes with
    | [one] => pure one
    | _ => pure (.sequence nodes first.pos)

def parseExpression : Nat → Nat → ParseM Term
  | 0, _ => do failHere "expression too deep"; pure (.nil 0)
  | fuel + 1, prec => do
    if prec == 0 && (← current).is .operator ["let"] then return ← parseLet fuel
    if prec == 0 && (← current).is .operator ["if"] then return ← parseIf fuel
    let mut left ← parsePrimary fuel
    let mut prev := ""
    let mut opToken ← current
    for _ in [0:(← get).tokens.size] do
      if !(opToken.kind == .operator) || (← failed) then break
      let negate := opToken.is .operator ["not"]
      let mut notToken := opToken
      if negate then
        let saved := (← get).pos
        advance
        let t ← current
        if negatableOps.contains t.value then
          match binaryOp? t.value with
          | some (p, _) =>
            if p ≥ prec then
              notToken := t
              opToken := t
            else
              modify fun s => { s with pos := saved }
              break
          | none =>
            modify fun s => { s with pos := saved }
            break
        else
          failHere ("unexpected token " ++ t.text)
          break
      match binaryOp? opToken.value with
      | some (p, right) =>
        if p < prec then break
        advance
        if opToken.value == "|" then
          let ident ← current
          expect .identifier
          left ← parseCall fuel ident [left] true
        else if prev == "??" && opToken.value != "??" then
          errorAt opToken ("Operator (" ++ opToken.value ++
            ") and coalesce expressions (??) cannot be mixed. Wrap either by parentheses.")
          break
        else if isComparison opToken.value then
          left ← parseComparison fuel left opToken p
        else
          let rhs ← parseExpression fuel (if right then p else p + 1)
          left := .binary opToken.value left rhs opToken.pos
          if negate then left := .unary "not" left notToken.pos
        prev := opToken.value
        opToken ← current
      | none => break
    if prec == 0 then left ← parseConditional fuel left
    pure left

def parseComparison : Nat → Term → Token → Nat → ParseM Term
  | 0, left, _, _ => pure left
  | fuel + 1, left, token, prec => do
    let mut rootNode : Option Term := none
    let mut lhs := left
    let mut op := token
    for _ in [0:(← get).tokens.size] do
      let rhs ← parseExpression fuel (prec + 1)
      let cmp := Term.binary op.value lhs rhs op.pos
      rootNode := some (match rootNode with
        | none => cmp
        | some r => .binary "&&" r cmp op.pos)
      lhs := rhs
      op ← current
      if !(op.kind == .operator && isComparison op.value) || (← failed) then break
      advance
    pure (rootNode.getD left)

def parseConditional : Nat → Term → ParseM Term
  | 0, node => pure node
  | fuel + 1, node => do
    let mut n := node
    for _ in [0:(← get).tokens.size] do
      if !((← current).is .operator ["?"]) || (← failed) then break
      advance
      let (yes, no) ← if !((← current).is .operator [":"]) then do
          let yes ← parseExpression fuel 0
          expect .operator [":"]
          let no ← parseExpression fuel 0
          pure (yes, no)
        else do
          advance
          pure (n, ← parseExpression fuel 0)
      n := .cond n yes no (← current).pos
    pure n

def parseLet : Nat → ParseM Term
  | 0 => pure (.nil 0)
  | fuel + 1 => do
    expect .operator ["let"]
    let name ← current
    expect .identifier
    expect .operator ["="]
    let value ← parseExpression fuel 0
    expect .operator [";"]
    let body ← parseSequence fuel
    pure (.letIn name.value value body name.pos)

def parseIf : Nat → ParseM Term
  | 0 => pure (.nil 0)
  | fuel + 1 => do
    let start ← current
    advance
    let test ← parseExpression fuel 0
    expect .bracket ["\x7b"]
    let yes ← parseSequence fuel
    expect .bracket ["\x7d"]
    expect .operator ["else"]
    expect .bracket ["\x7b"]
    let no ← parseSequence fuel
    expect .bracket ["\x7d"]
    pure (.cond test yes no start.pos)

/-- A unary operation, a parenthesised expression, a predicate pointer, a call of a builtin by
its own name (after ::, which no function of the environment overrides), or a secondary term; with
its postfix forms. -/
def parsePrimary : Nat → ParseM Term
  | 0 => pure (.nil 0)
  | fuel + 1 => do
    let token ← current
    if token.kind == .operator then
      if let some p := unaryOp? token.value then
        advance
        let arg ← parseExpression fuel p
        return ← parsePostfix fuel (.unary token.value arg token.pos)
    if token.is .bracket ["("] then
      advance
      let inner ← parseSequence fuel
      expect .bracket [")"]
      return ← parsePostfix fuel inner
    if (← get).depth > 0 && (token.is .operator ["#"] || token.is .operator ["."]) then
      let mut name := ""
      if token.is .operator ["#"] then
        advance
        let t ← current
        if t.kind == .identifier then
          name := t.value
          advance
      return ← parsePostfix fuel (.pointer name token.pos)
    if token.is .operator ["::"] then
      advance
      let name ← current
      expect .identifier
      return ← parsePostfix fuel (← parseCall fuel name [] false)
    parseSecondary fuel

/-- A literal, a name, a call, an array or a map; with its postfix forms, except after `true`,
`false` and `nil`, which stand alone. -/
def parseSecondary : Nat → ParseM Term
  | 0 => pure (.nil 0)
  | fuel + 1 => do
    let token ← current
    let node ← match token.kind with
      | .identifier => do
        advance
        match token.value with
        | "true" => return Term.bool true token.pos
        | "false" => return .bool false token.pos
        | "nil" => return .nil token.pos
        | name =>
          if (← current).is .bracket ["("] then parseCall fuel token [] true
          else pure (.ident name token.pos)
      | .number => do
        advance
        parseNumber token
      | .string => do
        advance
        pure (.str token.value token.pos)
      | _ =>
        if token.is .bracket ["["] then parseArray fuel token
        else if token.is .bracket ["\x7b"] then parseMap fuel token
        else do
          failHere ("unexpected token " ++ token.text)
          pure (.nil token.pos)
    parsePostfix fuel node

def parseNumber (token : Token) : ParseM Term := do
  let value := String.ofList (token.value.toList.filter (· != '_'))
  let lower := Text.lower value
  let failLiteral (kind : String) (e : Decimal.ReadError) (reader : String) : ParseM Term := do
    failHere ("invalid " ++ kind ++ " literal: " ++ e.message reader value)
    pure (.nil token.pos)
  let asInt (kind : String) (r : Except Decimal.ReadError Int) : ParseM Term := do
    match r with
    | .ok i => pure (.int i token.pos)
    | .error e => failLiteral kind e "ParseInt"
  if lower.startsWith "0x" then asInt "hex" (Decimal.readInt value)
  else if lower.toList.any (fun c => c == '.' || c == 'e') then
    match Decimal.readFloat value with
    | .ok f => pure (.float f token.pos)
    | .error e => failLiteral "float" e "ParseFloat"
  else if lower.startsWith "0b" then asInt "binary" (Decimal.readInt value)
  else if lower.startsWith "0o" then asInt "octal" (Decimal.readInt value)
  else asInt "integer" (Decimal.readDecimalInt value)

/-- Postfix forms after a term: member access, indexing, slicing and method calls. -/
def parsePostfix : Nat → Term → ParseM Term
  | 0, node => pure node
  | fuel + 1, node => do
    let mut n := node
    let mut marker ← current
    for _ in [0:(← get).tokens.size] do
      if !(marker.kind == .operator || marker.kind == .bracket) || (← failed) then break
      let optional := marker.value == "?."
      if marker.value == "." || marker.value == "?." then
        advance
        let property ← current
        if optional && property.is .bracket ["["] then
          n ← parseIndex fuel n property true
        else
          advance
          if property.kind != .identifier &&
              (property.kind != .operator || !isValidName property.value) then
            failHere "expected name"
          let (inner, wasChain) := match n with
            | .chain t _ => (t, true)
            | t => (t, false)
          let member := Term.member inner (.str property.value property.pos) optional property.pos
          let called ← if (← current).is .bracket ["("] then do
              pure (Term.call member (← parseArguments fuel []) property.pos)
            else pure member
          n := if wasChain || optional then .chain called property.pos else called
      else if marker.value == "[" then
        n ← parseIndex fuel n marker optional
      else break
      marker ← current
    pure n

def parseIndex : Nat → Term → Token → Bool → ParseM Term
  | 0, n, _, _ => pure n
  | fuel + 1, n, opening, optional => do
    advance
    if (← current).is .operator [":"] then
      advance
      let hi ← if (← current).is .bracket ["]"] then pure none else do pure (some (← parseExpression fuel 0))
      expect .bracket ["]"]
      return .slice n none hi opening.pos
    let lo ← parseExpression fuel 0
    if (← current).is .operator [":"] then
      advance
      let hi ← if (← current).is .bracket ["]"] then pure none else do pure (some (← parseExpression fuel 0))
      expect .bracket ["]"]
      return .slice n (some lo) hi opening.pos
    let member := Term.member n lo optional opening.pos
    expect .bracket ["]"]
    pure (if optional then .chain member opening.pos else member)

/-- The arguments of a call in brackets, after those already given. -/
def parseArguments : Nat → List Term → ParseM (List Term)
  | 0, args => pure args
  | fuel + 1, args => do
    let offset := args.length
    let mut out := args
    expect .bracket ["("]
    for _ in [0:(← get).tokens.size] do
      if (← current).is .bracket [")"] || (← failed) then break
      if out.length > offset then expect .operator [","]
      if (← current).is .bracket [")"] then break
      out := out ++ [← parseExpression fuel 0]
    expect .bracket [")"]
    pure out

/-- A call of a name, with arguments already given (by the pipe). -/
def parseCall : Nat → Token → List Term → Bool → ParseM Term
  | 0, token, _, _ => pure (.nil token.pos)
  | fuel + 1, token, given, checkOverrides => do
    let overridden := checkOverrides && (← get).functions.contains token.value
    match predicateArgs? token.value with
    | some shapes =>
      if !overridden then
        expect .bracket ["("]
        let mut args := given
        let rest := shapes.drop given.length
        for (shape, i) in rest.zipIdx do
          let optional := shape == .optionalPredicate || shape == .optionalExpr
          if (← current).is .bracket [")"] then
            if optional then break
            failHere ("expected at least " ++ Decimal.natText rest.length ++ " arguments")
          if i > 0 then expect .operator [","]
          let node ← if shape == .predicate || shape == .optionalPredicate then parsePredicate fuel
            else parseExpression fuel 0
          args := args ++ [node]
        if (← current).is .operator [","] then advance
        expect .bracket [")"]
        return .builtin token.value args token.pos
    | none => pure ()
    if builtinNames.contains token.value && !overridden then
      return .builtin token.value (← parseArguments fuel given) token.pos
    pure (.call (.ident token.value token.pos) (← parseArguments fuel given) token.pos)

/-- A predicate: an expression over `#`, optionally in braces. -/
def parsePredicate : Nat → ParseM Term
  | 0 => pure (.nil 0)
  | fuel + 1 => do
    let start ← current
    let braces := start.is .bracket ["\x7b"]
    if braces then advance
    modify fun s => { s with depth := s.depth + 1 }
    let body ← if braces then parseSequence fuel else do
      let b ← parseExpression fuel 0
      if (← current).is .operator [";"] then failHere "wrap predicate with brackets \x7b and \x7d"
      pure b
    modify fun s => { s with depth := s.depth - 1 }
    if braces then expect .bracket ["\x7d"]
    pure (.predicate body start.pos)

def parseArray : Nat → Token → ParseM Term
  | 0, token => pure (.nil token.pos)
  | fuel + 1, token => do
    let mut items : List Term := []
    expect .bracket ["["]
    for _ in [0:(← get).tokens.size] do
      if (← current).is .bracket ["]"] || (← failed) then break
      if !items.isEmpty then
        expect .operator [","]
        if (← current).is .bracket ["]"] then break
      items := items ++ [← parseExpression fuel 0]
    expect .bracket ["]"]
    pure (.array items token.pos)

/-- A map literal; keys are texts, numbers, names (standing for their text) or bracketed
expressions. -/
def parseMap : Nat → Token → ParseM Term
  | 0, token => pure (.nil token.pos)
  | fuel + 1, token => do
    expect .bracket ["\x7b"]
    let mut pairs : List (Term × Term) := []
    for _ in [0:(← get).tokens.size] do
      if (← current).is .bracket ["\x7d"] || (← failed) then break
      if !pairs.isEmpty then
        expect .operator [","]
        if (← current).is .bracket ["\x7d"] then break
        if (← current).is .operator [","] then failHere ("unexpected token " ++ (← current).text)
      let t ← current
      let key ← if t.kind == .number || t.kind == .string || t.kind == .identifier then do
          advance
          pure (Term.str t.value t.pos)
        else if t.is .bracket ["("] then parseExpression fuel 0
        else do
          failHere ("a map key must be a quoted string, a number, a identifier, or an expression " ++
            "enclosed in parentheses (unexpected token " ++ t.text ++ ")")
          pure (Term.nil t.pos)
      expect .operator [":"]
      let value ← parseExpression fuel 0
      pairs := pairs ++ [(key, value)]
    expect .bracket ["\x7d"]
    pure (.map pairs token.pos)

end

/-- The term of a source, or the first diagnostic. Names of functions given to the engine
override builtins of the same name. -/
def parse (source : String) (functions : List String) : Except Diag Term :=
  match lex source with
  | .error d => .error d
  | .ok tokens =>
    let run : ParseM Term := do
      let node ← parseSequence (8 * tokens.size + 16)
      let t ← current
      if t.kind != .eof then failHere ("unexpected token " ++ t.text)
      pure node
    let (node, s) := run.run { tokens, functions }
    match s.err with
    | some d => .error d
    | none => .ok node

end Bindery.Expr
