import Bindery.Text.Case
import Bindery.Regex.Properties

/-!
# Regular expression syntax

A pattern is read in one pass from left to right, the way the RE2 family reads its Perl-like
syntax: literals and escapes, `.`, character classes with ranges, POSIX names (`[:alpha:]`) and
the Perl classes `\d`, `\s`, `\w`, and the Unicode properties `\p` and `\P` name; groups,
which may be named (`(?P<name>...)`, `(?<name>...)`) or only group (`(?:...)`); alternation;
the repetitions `*`, `+`, `?` and `{n}`, `{n,}`, `{n,m}`, each optionally followed by `?`; the
anchors `^`, `$`, `\A`, `\z`, `\b`, `\B`; the flags `i`, `m`, `s` and `U`, set for the rest of
the enclosing group by `(?flags)` or for one group by `(?flags:...)`; and quoted runs `\Q...\E`.

The first mistake met ends the reading, and names the part of the pattern it is in. A repetition
cannot follow another one directly, and a counted repetition may not exceed a thousand, nor make
the innermost thing repeat more than a thousand times in all.

Only what decides whether a text holds a match is kept: groups and the preference of a
repetition for more or fewer copies do not change that.
-/

namespace Bindery.Regex

inductive ErrorCode where
  | invalidCharRange
  | invalidEscape
  | invalidNamedCapture
  | invalidPerlOp
  | invalidRepeatOp
  | invalidRepeatSize
  | missingBracket
  | missingParen
  | missingRepeatArgument
  | trailingBackslash
  | unexpectedParen
deriving BEq, Inhabited, Repr

def ErrorCode.text : ErrorCode → String
  | .invalidCharRange => "invalid character class range"
  | .invalidEscape => "invalid escape sequence"
  | .invalidNamedCapture => "invalid named capture"
  | .invalidPerlOp => "invalid or unsupported Perl syntax"
  | .invalidRepeatOp => "invalid nested repetition operator"
  | .invalidRepeatSize => "invalid repeat count"
  | .missingBracket => "missing closing ]"
  | .missingParen => "missing closing )"
  | .missingRepeatArgument => "missing argument to repetition operator"
  | .trailingBackslash => "trailing backslash at end of expression"
  | .unexpectedParen => "unexpected )"

/-- A mistake in a pattern, with the part of the pattern it is in. -/
structure SyntaxError where
  code : ErrorCode
  part : String
deriving Inhabited, Repr

/-- The message of a mistake: `error parsing regexp: ` and its kind, then the part in backquotes. -/
def SyntaxError.message (e : SyntaxError) : String :=
  "error parsing regexp: " ++ e.code.text ++ ": `" ++ e.part ++ "`"

/-- Characters given by ranges of code points, or all characters outside them. -/
structure CharSet where
  ranges : List (Nat × Nat)
  negated : Bool := false
deriving BEq, Inhabited, Repr

inductive CharTest where
  | char (c : Char) (fold : Bool)
  | any (newline : Bool)
  | oneOf (sets : List CharSet) (negated : Bool) (fold : Bool)
deriving BEq, Inhabited, Repr

/-- A condition on a position of the text, reading nothing. -/
inductive Anchor where
  | textStart
  | textEnd
  | lineStart
  | lineEnd
  | wordBoundary
  | notWordBoundary
deriving BEq, Inhabited, Repr

inductive Pattern where
  | empty
  | single (test : CharTest)
  | anchor (a : Anchor)
  | concat (parts : List Pattern)
  | alternate (options : List Pattern)
  | star (body : Pattern)
  | plus (body : Pattern)
  | quest (body : Pattern)
  | times (body : Pattern) (min : Nat) (max : Option Nat)
  | group (body : Pattern)
deriving Inhabited, Repr

def Pattern.seq : List Pattern → Pattern
  | [] => .empty
  | [p] => p
  | ps => .concat ps

def Pattern.choice : List Pattern → Pattern
  | [p] => p
  | ps => .alternate ps

/-- Whether a counted repetition, with the repetitions inside it, asks for at most `n` copies of
what is innermost: a repetition with at most `m` copies leaves `n / m` for what it holds, and one
with at most none is always fine. -/
def repeatFits : Nat → Pattern → Nat → Bool
  | 0, _, _ => true
  | fuel + 1, p, n =>
    match p with
    | .times body min max =>
      if max == some 0 then true
      else
        let m := max.getD min
        if m > n then false
        else repeatFits fuel body (if m > 0 then n / m else n)
    | .concat ps | .alternate ps => ps.all fun q => repeatFits fuel q n
    | .star body | .plus body | .quest body | .group body => repeatFits fuel body n
    | _ => true

structure Flags where
  fold : Bool := false
  oneLine : Bool := true
  dotNewline : Bool := false
deriving BEq, Inhabited, Repr

/-- A group being read: the flags to restore when it closes, its finished options (last first)
and the parts of its open option (last first). -/
structure Group where
  saved : Flags
  options : List Pattern := []
  parts : List Pattern := []
deriving Inhabited

def Group.close (g : Group) : Pattern :=
  Pattern.choice ((Pattern.seq g.parts.reverse :: g.options).reverse)

/-- The state of reading a pattern: the flags and the open groups, innermost first; the outermost
is the whole pattern. -/
structure Reader where
  flags : Flags := {}
  current : Group := { saved := {} }
  outer : List Group := []
deriving Inhabited

abbrev Chars := Array Char

def slice (cs : Chars) (a b : Nat) : String := String.ofList (cs.extract a b).toList

def isAsciiAlnum (c : Char) : Bool :=
  ('0' ≤ c && c ≤ '9') || ('a' ≤ c && c ≤ 'z') || ('A' ≤ c && c ≤ 'Z')

def isOctal (c : Option Char) : Bool :=
  match c with
  | some d => '0' ≤ d && d ≤ '7'
  | none => false

def hexValue (c : Char) : Option Nat :=
  if '0' ≤ c && c ≤ '9' then some (c.toNat - '0'.toNat)
  else if 'a' ≤ c && c ≤ 'f' then some (c.toNat - 'a'.toNat + 10)
  else if 'A' ≤ c && c ≤ 'F' then some (c.toNat - 'A'.toNat + 10)
  else none

namespace Reader

def add (r : Reader) (p : Pattern) : Reader :=
  { r with current := { r.current with parts := p :: r.current.parts } }

/-- Adds a literal character, in any case when case is ignored. -/
def literal (r : Reader) (c : Char) : Reader := r.add (.single (.char c r.flags.fold))

/-- Opens a group, keeping the flags in force to restore when it closes. -/
def openGroup (r : Reader) : Reader :=
  { r with current := { saved := r.flags }, outer := r.current :: r.outer }

def bar (r : Reader) : Reader :=
  { r with current := { r.current with
    options := Pattern.seq r.current.parts.reverse :: r.current.options, parts := [] } }

def closeGroup (r : Reader) (whole : String) : Except SyntaxError Reader :=
  match r.outer with
  | [] => .error ⟨.unexpectedParen, whole⟩
  | parent :: rest =>
    let node := Pattern.group r.current.close
    .ok { flags := r.current.saved, current := { parent with parts := node :: parent.parts },
          outer := rest }

end Reader

/-- Reads the escape at `i`, a backslash and what follows it, as one character: octal with one to
three digits (a single digit other than zero being refused), hexadecimal as `\xhh` or `\x{h...}`,
the control escapes `\a \f \t \n \r \v`, and any ASCII character that is not a letter or digit
as itself. Returns the character and the position after the escape. -/
def readEscape (cs : Chars) (i : Nat) : Except SyntaxError (Char × Nat) :=
  match cs[i + 1]? with
  | none => .error ⟨.trailingBackslash, ""⟩
  | some c =>
    let j := i + 2
    let bad (stop : Nat) : Except SyntaxError (Char × Nat) := .error ⟨.invalidEscape, slice cs i stop⟩
    let octal : Char × Nat :=
      let d0 := c.toNat - '0'.toNat
      if isOctal cs[j]? then
        let d1 := (cs[j]?.map Char.toNat).getD 0 - '0'.toNat
        if isOctal cs[j + 1]? then
          let d2 := (cs[j + 1]?.map Char.toNat).getD 0 - '0'.toNat
          (Char.ofNat ((d0 * 8 + d1) * 8 + d2), j + 2)
        else (Char.ofNat (d0 * 8 + d1), j + 1)
      else (Char.ofNat d0, j)
    if c.toNat < 0x80 && !isAsciiAlnum c then .ok (c, j)
    else if c == '0' then .ok octal
    else if '1' ≤ c && c ≤ '7' then (if isOctal cs[j]? then .ok octal else bad j)
    else if c == 'x' then
      match cs[j]? with
      | none => bad j
      | some '\x7b' =>
        -- any number of hexadecimal digits, at least one, up to the closing brace
        let rec braced : Nat → Nat → Nat → Nat → Except SyntaxError (Char × Nat)
          | 0, k, _, _ => bad k
          | fuel + 1, k, value, count =>
            match cs[k]? with
            | none => bad k
            | some '\x7d' => if count == 0 then bad (k + 1) else .ok (Char.ofNat value, k + 1)
            | some d =>
              match hexValue d with
              | none => bad (k + 1)
              | some v =>
                let value := value * 16 + v
                if value > 0x10FFFF then bad (k + 1) else braced fuel (k + 1) value (count + 1)
        braced cs.size (j + 1) 0 0
      | some d =>
        match cs[j + 1]? with
        | none => bad (j + 1)
        | some e =>
          match hexValue d, hexValue e with
          | some x, some y => .ok (Char.ofNat (x * 16 + y), j + 2)
          | _, _ => bad (j + 2)
    else
      match c with
      | 'a' => .ok ('\x07', j)
      | 'f' => .ok ('\x0C', j)
      | 'n' => .ok ('\n', j)
      | 'r' => .ok ('\r', j)
      | 't' => .ok ('\t', j)
      | 'v' => .ok ('\x0B', j)
      | _ => bad j

/-- The Perl classes `\d`, `\s`, `\w` and their complements `\D`, `\S`, `\W`. -/
def perlClass (c : Char) : Option CharSet :=
  match c with
  | 'd' => some { ranges := [(0x30, 0x39)] }
  | 'D' => some { ranges := [(0x30, 0x39)], negated := true }
  | 's' => some { ranges := [(0x09, 0x0A), (0x0C, 0x0D), (0x20, 0x20)] }
  | 'S' => some { ranges := [(0x09, 0x0A), (0x0C, 0x0D), (0x20, 0x20)], negated := true }
  | 'w' => some { ranges := [(0x30, 0x39), (0x41, 0x5A), (0x5F, 0x5F), (0x61, 0x7A)] }
  | 'W' => some { ranges := [(0x30, 0x39), (0x41, 0x5A), (0x5F, 0x5F), (0x61, 0x7A)],
                  negated := true }
  | _ => none

def posixRanges (name : String) : Option (List (Nat × Nat)) :=
  match name with
  | "alnum" => some [(0x30, 0x39), (0x41, 0x5A), (0x61, 0x7A)]
  | "alpha" => some [(0x41, 0x5A), (0x61, 0x7A)]
  | "ascii" => some [(0x00, 0x7F)]
  | "blank" => some [(0x09, 0x09), (0x20, 0x20)]
  | "cntrl" => some [(0x00, 0x1F), (0x7F, 0x7F)]
  | "digit" => some [(0x30, 0x39)]
  | "graph" => some [(0x21, 0x7E)]
  | "lower" => some [(0x61, 0x7A)]
  | "print" => some [(0x20, 0x7E)]
  | "punct" => some [(0x21, 0x2F), (0x3A, 0x40), (0x5B, 0x60), (0x7B, 0x7E)]
  | "space" => some [(0x09, 0x0D), (0x20, 0x20)]
  | "upper" => some [(0x41, 0x5A)]
  | "word" => some [(0x30, 0x39), (0x41, 0x5A), (0x5F, 0x5F), (0x61, 0x7A)]
  | "xdigit" => some [(0x30, 0x39), (0x41, 0x46), (0x61, 0x66)]
  | _ => none

def posixClass (written : String) : Option CharSet :=
  let inner := (written.drop 2).dropEnd 2 |>.toString
  if inner.startsWith "^" then
    (posixRanges (inner.drop 1).toString).map fun rs => { ranges := rs, negated := true }
  else (posixRanges inner).map fun rs => { ranges := rs }

/-- The first position from `k` on where `ch` stands, looking at most `fuel` positions on. -/
def findChar (cs : Chars) (ch : Char) : Nat → Nat → Option Nat
  | 0, _ => none
  | fuel + 1, k =>
    match cs[k]? with
    | none => none
    | some d => if d == ch then some k else findChar cs ch fuel (k + 1)

/-- The first position from `k` on where `a` is followed by `b`. -/
def findPair (cs : Chars) (a b : Char) : Nat → Nat → Option Nat
  | 0, _ => none
  | fuel + 1, k =>
    match cs[k]? with
    | none => none
    | some d => if d == a && cs[k + 1]? == some b then some k else findPair cs a b fuel (k + 1)

/-- Reads a class named by `\p` or `\P` at `i`: one letter, or a name in braces, negated by `P` or
a leading `^`. Returns the set and the position after it. -/
def readUnicodeClass (cs : Chars) (i : Nat) : Except SyntaxError (CharSet × Nat) :=
  let positive := cs[i + 1]? == some 'p'
  let (name, stop, bad) : String × Nat × Option SyntaxError :=
    match cs[i + 2]? with
    | some '\x7b' =>
      match findChar cs '\x7d' cs.size i with
      | some e => (slice cs (i + 3) e, e + 1, none)
      | none => ("", cs.size, some ⟨.invalidCharRange, slice cs i cs.size⟩)
    | some _ => (slice cs (i + 2) (i + 3), i + 3, none)
    | none => ("", i + 2, none)
  match bad with
  | some e => .error e
  | none =>
    let (positive, name) :=
      if name.startsWith "^" then (!positive, (name.drop 1).toString) else (positive, name)
    match unicodeProperty? name with
    | some (rs, holds) => .ok ({ ranges := rs, negated := positive != holds }, stop)
    | none => .error ⟨.invalidCharRange, slice cs i stop⟩

/-- Reads one character of a class at `k`, an escape or itself; the end of the pattern means the
class at `start` was not closed. -/
def readClassChar (cs : Chars) (start k : Nat) : Except SyntaxError (Char × Nat) :=
  match cs[k]? with
  | none => .error ⟨.missingBracket, slice cs start cs.size⟩
  | some '\\' => readEscape cs k
  | some c => .ok (c, k + 1)

/-- Reads the items of a class from `k` on until its closing bracket, adding them to `sets` (last
first). A `]` right after the opening bracket is a member; `-` between two members makes a
range. -/
def readClassItems (cs : Chars) (start : Nat) :
    Nat → Nat → Bool → List CharSet → Except SyntaxError (List CharSet × Nat)
  | 0, k, _, _ => .error ⟨.missingBracket, slice cs start (min k cs.size)⟩
  | fuel + 1, k, first, sets =>
    if cs[k]? == some ']' && !first then .ok (sets, k + 1)
    else
      let named : Option (Except SyntaxError (CharSet × Nat)) :=
        if cs[k]? == some '[' && cs[k + 1]? == some ':' && k + 2 < cs.size then
          match findPair cs ':' ']' cs.size (k + 2) with
          | some e =>
            let written := slice cs k (e + 2)
            match posixClass written with
            | some set => some (.ok (set, e + 2))
            | none => some (.error ⟨.invalidCharRange, written⟩)
          | none => none
        else if cs[k]? == some '\\' && (cs[k + 1]? == some 'p' || cs[k + 1]? == some 'P') then
          some (readUnicodeClass cs k)
        else if cs[k]? == some '\\' then
          match cs[k + 1]? >>= perlClass with
          | some set => some (.ok (set, k + 2))
          | none => none
        else none
      match named with
      | some (.ok (set, next)) => readClassItems cs start fuel next false (set :: sets)
      | some (.error e) => .error e
      | none => do
        let (lo, next) ← readClassChar cs start k
        if cs[next]? == some '-' && next + 1 < cs.size && cs[next + 1]? != some ']' then
          let (hi, after) ← readClassChar cs start (next + 1)
          if hi < lo then .error ⟨.invalidCharRange, slice cs k after⟩
          else readClassItems cs start fuel after false ({ ranges := [(lo.toNat, hi.toNat)] } :: sets)
        else readClassItems cs start fuel next false ({ ranges := [(lo.toNat, lo.toNat)] } :: sets)

/-- Reads the class whose opening bracket is at `i`; `[^...]` holds the characters outside it.
Returns the test and the position after the class. -/
def readClass (cs : Chars) (flags : Flags) (i : Nat) : Except SyntaxError (CharTest × Nat) := do
  let negated := cs[i + 1]? == some '^'
  let k := if negated then i + 2 else i + 1
  let (sets, next) ← readClassItems cs i (cs.size + 1) k true []
  pure (.oneOf sets.reverse negated flags.fold, next)

/-- Reads a number of a counted repetition at `k`: digits without a leading zero. -/
def readCount (cs : Chars) (k : Nat) : Option (Nat × Nat) :=
  let digits := (cs.extract k cs.size).toList.takeWhile Char.isDigit
  if digits.isEmpty then none
  else if digits.length ≥ 2 && digits.head? == some '0' then none
  else some (digits.foldl (fun n d => n * 10 + (d.toNat - '0'.toNat)) 0, k + digits.length)

/-- Reads a counted repetition `{n}`, `{n,}` or `{n,m}` at `i`: its least and greatest count and
the position after it; none when the brace does not start one. -/
def readBraces (cs : Chars) (i : Nat) : Option (Nat × Option Nat × Nat) := do
  let (lo, k) ← readCount cs (i + 1)
  match cs[k]? with
  | some '\x7d' => some (lo, some lo, k + 1)
  | some ',' =>
    match cs[k + 1]? with
    | some '\x7d' => some (lo, none, k + 2)
    | _ =>
      let (hi, m) ← readCount cs (k + 1)
      if cs[m]? == some '\x7d' then some (lo, some hi, m + 1) else none
  | _ => none

/-- Whether a group name is made of ASCII letters, digits and underscores, at least one. -/
def validGroupName (name : String) : Bool :=
  !name.isEmpty && name.toList.all fun c => c == '_' || isAsciiAlnum c

/-- Reads the flags of `(?flags)` or `(?flags:` at `i`, after a possible `-` the ones to clear,
starting with the flags `now`. Returns the new flags, whether a group opens, and the position
after the group's start. -/
def readFlags (cs : Chars) (i : Nat) (now : Flags) :
    Nat → Nat → Flags → Bool → Bool → Except SyntaxError (Flags × Bool × Nat)
  | 0, k, _, _, _ => .error ⟨.invalidPerlOp, slice cs i k⟩
  | fuel + 1, k, flags, clearing, saw =>
    let bad : Except SyntaxError (Flags × Bool × Nat) := .error ⟨.invalidPerlOp, slice cs i (k + 1)⟩
    match cs[k]? with
    | none => .error ⟨.invalidPerlOp, slice cs i k⟩
    | some 'i' => readFlags cs i now fuel (k + 1) { flags with fold := !clearing } clearing true
    | some 'm' => readFlags cs i now fuel (k + 1) { flags with oneLine := clearing } clearing true
    | some 's' => readFlags cs i now fuel (k + 1) { flags with dotNewline := !clearing } clearing true
    | some 'U' => readFlags cs i now fuel (k + 1) flags clearing true
    | some '-' => if clearing then bad else readFlags cs i now fuel (k + 1) flags true false
    | some ':' => if clearing && !saw then bad else .ok (flags, true, k + 1)
    | some ')' => if clearing && !saw then bad else .ok (flags, false, k + 1)
    | some _ => bad

/-- Reads what starts with `(?` at `i`: a named group, a group that only groups, or a change of
flags. -/
def readGroupStart (cs : Chars) (i : Nat) (r : Reader) : Except SyntaxError (Reader × Nat) :=
  let rest := cs.size - i
  let named :=
    (rest > 4 && cs[i + 2]? == some 'P' && cs[i + 3]? == some '<') ||
      (rest > 3 && cs[i + 2]? == some '<')
  if named then
    let begin := if cs[i + 2]? == some '<' then i + 3 else i + 4
    match findChar cs '>' cs.size i with
    | none => .error ⟨.invalidNamedCapture, slice cs i cs.size⟩
    | some e =>
      if validGroupName (slice cs begin e) then .ok (r.openGroup, e + 1)
      else .error ⟨.invalidNamedCapture, slice cs i (e + 1)⟩
  else do
    let (flags, opens, next) ← readFlags cs i r.flags (cs.size + 1) (i + 2) r.flags false false
    let r := if opens then r.openGroup else r
    pure ({ r with flags := flags }, next)

/-- What one step of reading found: the reader after it, the position after it, and where it
started if it was a repetition. -/
abbrev Stepped := Reader × Nat × Option Nat

/-- Applies a repetition written from `before` up to `after` to the last part read. A `?` after it
asks for fewer copies and belongs to it. It may not directly follow another repetition, which
started at `last`; and a counted one may not ask for too many copies in all. -/
def repetition (cs : Chars) (r : Reader) (wrap : Pattern → Pattern) (counted : Bool)
    (before after : Nat) (last : Option Nat) : Except SyntaxError Stepped :=
  let after := if cs[after]? == some '?' then after + 1 else after
  match last with
  | some l => .error ⟨.invalidRepeatOp, slice cs l after⟩
  | none =>
    match r.current.parts with
    | [] => .error ⟨.missingRepeatArgument, slice cs before after⟩
    | sub :: rest =>
      let node := wrap sub
      if counted && !repeatFits (cs.size + 2) node 1000 then
        .error ⟨.invalidRepeatSize, slice cs before after⟩
      else .ok ({ r with current := { r.current with parts := node :: rest } }, after, some before)

def readBackslash (cs : Chars) (i : Nat) (r : Reader) : Except SyntaxError (Reader × Nat) :=
  match cs[i + 1]? with
  | some 'A' => .ok (r.add (.anchor .textStart), i + 2)
  | some 'b' => .ok (r.add (.anchor .wordBoundary), i + 2)
  | some 'B' => .ok (r.add (.anchor .notWordBoundary), i + 2)
  | some 'C' => .error ⟨.invalidEscape, slice cs i (i + 2)⟩
  | some 'z' => .ok (r.add (.anchor .textEnd), i + 2)
  | some 'Q' =>
    let stop := (findPair cs '\\' 'E' cs.size (i + 2)).getD cs.size
    let r := (cs.extract (i + 2) stop).foldl (fun r c => r.literal c) r
    .ok (r, min (stop + 2) cs.size)
  | some 'p' | some 'P' => do
    let (set, next) ← readUnicodeClass cs i
    pure (r.add (.single (.oneOf [set] false r.flags.fold)), next)
  | some c =>
    match perlClass c with
    | some set => .ok (r.add (.single (.oneOf [set] false r.flags.fold)), i + 2)
    | none => do
      let (ch, next) ← readEscape cs i
      pure (r.literal ch, next)
  | none => .error ⟨.trailingBackslash, ""⟩

def readItem (cs : Chars) (whole : String) (i : Nat) (last : Option Nat) (r : Reader) :
    Except SyntaxError Stepped :=
  let plain (r : Reader) (next : Nat) : Except SyntaxError Stepped := .ok (r, next, none)
  match cs[i]? with
  | none => plain r (i + 1)
  | some c =>
    match c with
    | '(' =>
      if cs[i + 1]? == some '?' then do
        let (r, next) ← readGroupStart cs i r
        plain r next
      else plain r.openGroup (i + 1)
    | '|' => plain r.bar (i + 1)
    | ')' => do plain (← r.closeGroup whole) (i + 1)
    | '^' => plain (r.add (.anchor (if r.flags.oneLine then .textStart else .lineStart))) (i + 1)
    | '$' => plain (r.add (.anchor (if r.flags.oneLine then .textEnd else .lineEnd))) (i + 1)
    | '.' => plain (r.add (.single (.any r.flags.dotNewline))) (i + 1)
    | '[' => do
      let (test, next) ← readClass cs r.flags i
      plain (r.add (.single test)) next
    | '*' => repetition cs r .star false i (i + 1) last
    | '+' => repetition cs r .plus false i (i + 1) last
    | '?' => repetition cs r .quest false i (i + 1) last
    | '\x7b' =>
      match readBraces cs i with
      | none => plain (r.literal '\x7b') (i + 1)
      | some (lo, hi, next) =>
        let tooMany := lo > 1000 || (hi.getD 0) > 1000 || (match hi with
          | some h => lo > h
          | none => false)
        if tooMany then .error ⟨.invalidRepeatSize, slice cs i next⟩
        else
          let counted := lo ≥ 2 || hi.getD 0 ≥ 2
          repetition cs r (fun p => .times p lo hi) counted i next last
    | '\\' => do
      let (r, next) ← readBackslash cs i r
      plain r next
    | _ => plain (r.literal c) (i + 1)

def readItems (cs : Chars) (whole : String) : Nat → Nat → Option Nat → Reader → Except SyntaxError Reader
  | 0, _, _, r => .ok r
  | fuel + 1, i, last, r =>
    if i ≥ cs.size then .ok r
    else do
      let (r, next, rep) ← readItem cs whole i last r
      readItems cs whole fuel (max next (i + 1)) rep r

def parse (source : String) : Except SyntaxError Pattern := do
  let cs := source.toList.toArray
  let r ← readItems cs source (cs.size + 1) 0 none {}
  match r.outer with
  | [] => pure r.current.close
  | _ => throw ⟨.missingParen, source⟩

end Bindery.Regex
