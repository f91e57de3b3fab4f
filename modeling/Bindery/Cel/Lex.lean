import Bindery.Cel.Syntax

/-!
# Lexing the typed expression language

At each position every token rule is tried; the longest match wins, and among matches of equal
length the rule listed first (so `in`, `true`, `false` and `null` are keywords rather than
identifiers). A rule is scanned for two things: the length of its longest match, and how far it
could read before no continuation was possible. When no rule matches, the text from the start
up to and including the character where the last rule gave up is reported as an unrecognised
token, and lexing resumes after that character.
-/

namespace Bindery.Cel

/-- What one rule makes of the input at a position: the length of its longest match, and the
number of characters it read before it could not continue. -/
structure Scan where
  accept : Option Nat
  reach : Nat

/-- The better of two scans of the same rule: the longer match, the further reach. -/
def Scan.join (a b : Scan) : Scan :=
  { accept := match a.accept, b.accept with
      | some x, some y => some (max x y)
      | some x, none => some x
      | none, y => y
    reach := max a.reach b.reach }

def Scan.dead (n : Nat) : Scan := { accept := none, reach := n }

def Scan.exact (n : Nat) : Scan := { accept := some n, reach := n }

def isLetter (c : Char) : Bool := ('a' ≤ c && c ≤ 'z') || ('A' ≤ c && c ≤ 'Z')

def isHex (c : Char) : Bool := c.isDigit || ('a' ≤ c && c ≤ 'f') || ('A' ≤ c && c ≤ 'F')

def isBlank (c : Char) : Bool :=
  c == ' ' || c == '\t' || c == '\r' || c == '\n' || c.toNat == 12

def runEnd (cs : Array Char) (p : Char → Bool) (i : Nat) : Nat :=
  go (cs.size - i) i
where
  go : Nat → Nat → Nat
    | 0, j => j
    | fuel + 1, j => match cs[j]? with
      | some c => if p c then go fuel (j + 1) else j
      | none => j

def commonPrefix (cs : Array Char) (i : Nat) : List Char → Nat
  | [] => 0
  | c :: t => if cs[i]? == some c then commonPrefix cs (i + 1) t + 1 else 0

def startsAt (cs : Array Char) (i : Nat) (t : List Char) : Bool :=
  commonPrefix cs i t == t.length

/-- An escape sequence starting with the backslash at `i`: the position after it, or the
position of the character that does not fit. -/
def escapeEnd (cs : Array Char) (i : Nat) : Except Nat Nat :=
  let hexRun (start count : Nat) : Except Nat Nat :=
    let stop := runEnd cs isHex start
    if stop - start ≥ count then .ok (start + count) else .error stop
  match cs[i + 1]? with
  | none => .error (i + 1)
  | some c =>
    if "abfnrtv\"'\\?`".toList.contains c then .ok (i + 2)
    else if '0' ≤ c && c ≤ '3' then
      let octal (d : Char) : Bool := '0' ≤ d && d ≤ '7'
      match cs[i + 2]?, cs[i + 3]? with
      | some a, some b =>
        if !octal a then .error (i + 2) else if !octal b then .error (i + 3) else .ok (i + 4)
      | some a, none => if octal a then .error (i + 3) else .error (i + 2)
      | none, _ => .error (i + 2)
    else if c == 'x' || c == 'X' then hexRun (i + 2) 2
    else if c == 'u' then hexRun (i + 2) 4
    else if c == 'U' then hexRun (i + 2) 8
    else .error (i + 1)

/-- A quoted body closed by `quote` on the same line, from position `i`: `raw` bodies have no
escapes. Positions are absolute; the scan is relative to `start`. -/
def scanLine (cs : Array Char) (start : Nat) (quote : Char) (raw : Bool) : Nat → Nat → Scan
  | 0, i => Scan.dead (i - start)
  | fuel + 1, i =>
    match cs[i]? with
    | none => Scan.dead (i - start)
    | some c =>
      if c == quote then Scan.exact (i + 1 - start)
      else if c == '\n' || c == '\r' then Scan.dead (i - start)
      else if c == '\\' && !raw then
        match escapeEnd cs i with
        | .ok j => scanLine cs start quote raw fuel j
        | .error k => Scan.dead (k - start)
      else scanLine cs start quote raw fuel (i + 1)

/-- A body closed by three `quote`s, which may span lines, from position `i`; it stops at the
first closing triple. -/
def scanTriple (cs : Array Char) (start : Nat) (quote : Char) (raw : Bool) : Nat → Nat → Scan
  | 0, i => Scan.dead (i - start)
  | fuel + 1, i =>
    if startsAt cs i [quote, quote, quote] then Scan.exact (i + 3 - start)
    else match cs[i]? with
    | none => Scan.dead (i - start)
    | some c =>
      if c == '\\' && !raw then
        match escapeEnd cs i with
        | .ok j => scanTriple cs start quote raw fuel j
        | .error k => Scan.dead (k - start)
      else scanTriple cs start quote raw fuel (i + 1)

def scanString (cs : Array Char) (p : Nat) : Scan :=
  let fuel := cs.size + 1
  let (raw, q) := match cs[p]? with
    | some 'r' | some 'R' => (true, p + 1)
    | _ => (false, p)
  match cs[q]? with
  | some c =>
    if c == '"' || c == '\'' then
      let single := scanLine cs p c raw fuel (q + 1)
      if startsAt cs q [c, c, c] then single.join (scanTriple cs p c raw fuel (q + 3))
      else
        let seen := commonPrefix cs q [c, c, c]
        { single with reach := max single.reach (q + seen - p) }
    else Scan.dead (q - p)
  | none => Scan.dead (q - p)

/-- An exponent from position `e`: its end, or the position where it stopped fitting. -/
def exponentEnd (cs : Array Char) (e : Nat) : Except Nat Nat :=
  match cs[e]? with
  | some 'e' | some 'E' =>
    let d := match cs[e + 1]? with
      | some '+' | some '-' => e + 2
      | _ => e + 1
    let stop := runEnd cs Char.isDigit d
    if stop > d then .ok stop else .error d
  | _ => .error e

def withExponent (cs : Array Char) (p m : Nat) : Scan :=
  match exponentEnd cs m with
  | .ok stop => Scan.exact (stop - p)
  | .error k => { accept := some (m - p), reach := k - p }

def scanFloat (cs : Array Char) (p : Nat) : Scan :=
  match cs[p]? with
  | some '.' =>
    let stop := runEnd cs Char.isDigit (p + 1)
    if stop > p + 1 then withExponent cs p stop else Scan.dead 1
  | some c =>
    if !c.isDigit then Scan.dead 0 else
    let d := runEnd cs Char.isDigit p
    let viaPoint : Scan := match cs[d]? with
      | some '.' =>
        let f := runEnd cs Char.isDigit (d + 1)
        if f > d + 1 then withExponent cs p f else Scan.dead (d + 1 - p)
      | _ => Scan.dead (d - p)
    let viaExponent : Scan := match exponentEnd cs d with
      | .ok stop => Scan.exact (stop - p)
      | .error k => Scan.dead (k - p)
    viaPoint.join viaExponent
  | none => Scan.dead 0

/-- A hexadecimal number after `0x` at position `p`, with an optional suffix. -/
def scanHex (cs : Array Char) (p : Nat) (suffix : Bool) : Scan :=
  if !startsAt cs p ['0', 'x'] then Scan.dead (commonPrefix cs p ['0', 'x']) else
  let stop := runEnd cs isHex (p + 2)
  if stop == p + 2 then Scan.dead 2
  else if !suffix then Scan.exact (stop - p)
  else match cs[stop]? with
    | some 'u' | some 'U' => Scan.exact (stop + 1 - p)
    | _ => Scan.dead (stop - p)

def scanInt (cs : Array Char) (p : Nat) : Scan :=
  let d := runEnd cs Char.isDigit p
  let decimal := if d > p then Scan.exact (d - p) else Scan.dead 0
  decimal.join (scanHex cs p false)

def scanUint (cs : Array Char) (p : Nat) : Scan :=
  let d := runEnd cs Char.isDigit p
  let decimal : Scan :=
    if d == p then Scan.dead 0 else match cs[d]? with
      | some 'u' | some 'U' => Scan.exact (d + 1 - p)
      | _ => Scan.dead (d - p)
  decimal.join (scanHex cs p true)

def scanIdent (cs : Array Char) (p : Nat) : Scan :=
  match cs[p]? with
  | some c =>
    if isLetter c || c == '_' then
      Scan.exact (runEnd cs (fun d => isLetter d || d.isDigit || d == '_') (p + 1) - p)
    else Scan.dead 0
  | none => Scan.dead 0

def scanQuotedIdent (cs : Array Char) (p : Nat) : Scan :=
  if cs[p]? != some '`' then Scan.dead 0 else
  let body (c : Char) : Bool :=
    isLetter c || c.isDigit || c == '_' || c == '.' || c == '-' || c == '/' || c == ' '
  let stop := runEnd cs body (p + 1)
  if stop == p + 1 then Scan.dead 1
  else if cs[stop]? == some '`' then Scan.exact (stop + 1 - p)
  else Scan.dead (stop - p)

/-- The tokens with a fixed text, in the grammar's order. -/
def fixedTokens : List (Kind × String) :=
  [(Kind.equals, "=="), (Kind.notEquals, "!="), (Kind.inKw, "in"), (Kind.less, "<"), (Kind.lessEquals, "<="),
   (Kind.greaterEquals, ">="), (Kind.greater, ">"), (Kind.logicalAnd, "&&"), (Kind.logicalOr, "||"),
   (Kind.lbracket, "["), (Kind.rbracket, "]"), (Kind.lbrace, "\x7b"), (Kind.rbrace, "\x7d"), (Kind.lparen, "("),
   (Kind.rparen, ")"), (Kind.dot, "."), (Kind.comma, ","), (Kind.minus, "-"), (Kind.exclam, "!"), (Kind.question, "?"),
   (Kind.colon, ":"), (Kind.plus, "+"), (Kind.star, "*"), (Kind.slash, "/"), (Kind.percent, "%"),
   (Kind.trueKw, "true"), (Kind.falseKw, "false"), (Kind.nullKw, "null")]

/-- Every rule's scan at position `p`, in the grammar's order. -/
def scans (cs : Array Char) (p : Nat) : List (Kind × Scan) :=
  let fixed := fixedTokens.map fun (k, t) =>
    let n := commonPrefix cs p t.toList
    (k, if n == t.length then Scan.exact n else Scan.dead n)
  let blank := runEnd cs isBlank p
  let comment : Scan :=
    if startsAt cs p ['/', '/'] then Scan.exact (runEnd cs (· != '\n') (p + 2) - p)
    else Scan.dead (commonPrefix cs p ['/', '/'])
  let bytes : Scan := match cs[p]? with
    | some 'b' | some 'B' =>
      let s := scanString cs (p + 1)
      { accept := s.accept.map (· + 1), reach := s.reach + 1 }
    | _ => Scan.dead 0
  fixed ++
  [(Kind.whitespace, if blank > p then Scan.exact (blank - p) else Scan.dead 0),
   (Kind.comment, comment), (Kind.numFloat, scanFloat cs p), (Kind.numInt, scanInt cs p),
   (Kind.numUint, scanUint cs p), (Kind.string, scanString cs p), (Kind.bytes, bytes),
   (Kind.identifier, scanIdent cs p), (Kind.escIdentifier, scanQuotedIdent cs p)]

def longest (ss : List (Kind × Scan)) : Option (Kind × Nat) :=
  ss.foldl (fun best (k, s) => match s.accept, best with
    | some n, some (_, m) => if n > m then some (k, n) else best
    | some n, none => some (k, n)
    | none, _ => best) none

/-- The outcome of lexing: every token (hidden ones included), ending with the end of input,
and the unrecognised texts with their offsets. -/
structure Lexed where
  tokens : Array Token
  errors : Array (Nat × String)

def slice (cs : Array Char) (i j : Nat) : String := String.ofList (cs.extract i j).toList

def lexFrom (cs : Array Char) : Nat → Nat → Lexed → Lexed
  | 0, _, acc => acc
  | fuel + 1, p, acc =>
    if p ≥ cs.size then acc else
    let ss := scans cs p
    match longest ss with
    | some (k, n) =>
      let t : Token := { kind := k, text := slice cs p (p + n), offset := p }
      lexFrom cs fuel (p + n) { acc with tokens := acc.tokens.push t }
    | none =>
      let reach := ss.foldl (fun r (_, s) => max r s.reach) 0
      let stop := min (p + reach + 1) cs.size
      let msg := "token recognition error at: '" ++ slice cs p stop ++ "'"
      lexFrom cs fuel stop { acc with errors := acc.errors.push (p, msg) }

def lex (source : String) : Lexed :=
  let cs := source.toList.toArray
  let r := lexFrom cs (cs.size + 1) 0 { tokens := #[], errors := #[] }
  { r with tokens := r.tokens.push { kind := .eof, text := "<EOF>", offset := cs.size } }

end Bindery.Cel
