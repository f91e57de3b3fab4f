import Bindery.Yaml.Token
import Bindery.Text.Base64

/-!
# Splitting YAML text into tokens

The scanner reads the text one token at a time, on demand, keeping a queue of tokens that the
reader of tokens has not taken yet.

Block structure is found from columns. Each block collection pushes the indentation it starts at;
a token in a column left of the current indentation closes collections until the indentation fits,
each closing one adding a block end. Inside flow collections (`[...]`, `{...}`) indentation means
nothing.

A key written without `?` is only known to be a key when its `:` is found. So every token that
could start such a key is remembered as a possible key, one per flow level; when a `:` follows
on the same line, within 1024 characters, a key token is put into the queue before the remembered
token, and in block context a mapping is opened at the key's column. A token at the column of
the current block indentation must be such a key, and not finding its `:` is an error.

Because of these late insertions, a token is only handed out when no possible key might still be
inserted before it, and the scanner always reads two tokens past the one handed out. Errors in
those tokens are therefore reported before the reader sees the token.
-/

namespace Bindery.Yaml

structure SimpleKey where
  possible : Bool := false
  required : Bool := false
  tokenNumber : Nat := 0
  mark : Mark := {}
deriving Inhabited

structure Scanner where
  text : Array Char
  mark : Mark := {}
  queue : Array Token := #[]
  taken : Nat := 0
  available : Bool := false
  started : Bool := false
  flowLevel : Nat := 0
  indent : Int := -1
  indents : List Int := []
  keyAllowed : Bool := false
  keys : Array SimpleKey := #[]
  keysByToken : List (Nat × Nat) := []
deriving Inhabited

abbrev ScanM := StateT Scanner (Except ReadError)

namespace Scanner

def maxDepth : Nat := 10000

/-- The character `k` places ahead; the end character past the end of the text. -/
def ahead (k : Nat) : ScanM Char := do
  let s ← get
  pure (s.text.getD (s.mark.index + k) endChar)

def here : ScanM Char := ahead 0

def currentMark : ScanM Mark := do pure (← get).mark

def steps : ScanM Nat := do pure ((← get).text.size + 4)

/-- Fails at the current mark, within a construct starting at `contextMark`. -/
def fail (context : String) (contextMark : Mark) (problem : String) : ScanM α := do
  throw { scanning := true, context, contextMark, problemMark := (← get).mark, problem }

def skip : ScanM Unit :=
  modify fun s =>
    let m := s.mark
    { s with mark := { m with index := m.index + 1, column := m.column + 1 } }

/-- Moves past a line break, two characters for carriage return and line feed. -/
def skipLine : ScanM Unit := do
  let c ← here
  let d ← ahead 1
  let width := if c == '\r' && d == '\n' then 2 else if isBreak c then 1 else 0
  if width > 0 then
    modify fun s =>
      let m := s.mark
      { s with mark := { index := m.index + width, line := m.line + 1, column := 0 } }

/-- Moves past the current character, adding it to a text. -/
def read (acc : String) : ScanM String := do
  let c ← here
  skip
  pure (acc.push c)

/-- Moves past a line break, adding it to a text: a line feed for carriage returns, line feeds
and next-line characters, the separator itself for the line and paragraph separators. -/
def readLine (acc : String) : ScanM String := do
  let c ← here
  if c == '\r' || c == '\n' || c == '\u0085' then
    skipLine
    pure (acc.push '\n')
  else if c == '\u2028' || c == '\u2029' then
    skipLine
    pure (acc.push c)
  else pure acc

def nextNumber : ScanM Nat := do
  let s ← get
  pure (s.taken + s.queue.size)

def push (t : Token) : ScanM Unit :=
  modify fun s => { s with queue := s.queue.push t }

def insert (pos : Nat) (t : Token) : ScanM Unit :=
  modify fun s =>
    let q := s.queue.toList
    { s with queue := (q.take pos ++ t :: q.drop pos).toArray }

def currentKey : ScanM SimpleKey := do
  let s ← get
  pure (s.keys.getD (s.keys.size - 1) {})

def setCurrentKey (k : SimpleKey) : ScanM Unit :=
  modify fun s => { s with keys := s.keys.modify (s.keys.size - 1) fun _ => k }

def forgetKeyAt (number : Nat) : ScanM Unit :=
  modify fun s => { s with keysByToken := s.keysByToken.filter (·.1 != number) }

/-- Drops the possible key of the current flow level; an error if it had to be a key. -/
def removeSimpleKey : ScanM Unit := do
  let k ← currentKey
  if k.possible then
    if k.required then fail "while scanning a simple key" k.mark "could not find expected ':'"
    setCurrentKey { k with possible := false }
    forgetKeyAt k.tokenNumber

/-- Remembers that a key may start at the next token, when keys are allowed here. -/
def saveSimpleKey : ScanM Unit := do
  let s ← get
  let required := s.flowLevel == 0 && s.indent == (s.mark.column : Int)
  if s.keyAllowed then
    let k : SimpleKey :=
      { possible := true, required, tokenNumber := ← nextNumber, mark := s.mark }
    removeSimpleKey
    setCurrentKey k
    modify fun s =>
      let others := s.keysByToken.filter (·.1 != k.tokenNumber)
      { s with keysByToken := (k.tokenNumber, s.keys.size - 1) :: others }

/-- Whether a remembered key is still possible: on the line it started on and within 1024
characters. A stale key stops being possible; an error if it had to be a key. -/
def keyStillPossible (level : Nat) : ScanM Bool := do
  let s ← get
  let k := s.keys.getD level {}
  if !k.possible then return false
  if k.mark.line < s.mark.line || k.mark.index + 1024 < s.mark.index then
    if k.required then fail "while scanning a simple key" k.mark "could not find expected ':'"
    modify fun s => { s with keys := s.keys.modify level fun k => { k with possible := false } }
    return false
  return true

def increaseFlowLevel : ScanM Unit := do
  let n ← nextNumber
  let m ← currentMark
  modify fun s =>
    { s with
      keys := s.keys.push { tokenNumber := n, mark := m }, flowLevel := s.flowLevel + 1 }
  if (← get).flowLevel > maxDepth then
    fail "while increasing flow level" m
      ("exceeded max depth of " ++ toString maxDepth)

def decreaseFlowLevel : ScanM Unit := do
  let s ← get
  if s.flowLevel > 0 then
    let last := s.keys.getD (s.keys.size - 1) {}
    forgetKeyAt last.tokenNumber
    modify fun s => { s with flowLevel := s.flowLevel - 1, keys := s.keys.pop }

/-- Opens a block collection at a column deeper than the current indentation, adding its start
token at the end of the queue or, for a key found late, at the key's token. -/
def rollIndent (column : Nat) (number : Option Nat) (kind : TokenKind) (place : Mark) :
    ScanM Unit := do
  let s ← get
  if s.flowLevel > 0 then return
  if s.indent < column then
    set { s with indents := s.indent :: s.indents, indent := column }
    if s.indents.length + 1 > maxDepth then
      fail "while increasing indent level" (← currentKey).mark
        ("exceeded max depth of " ++ toString maxDepth)
    let t : Token := { kind, start := place, stop := place }
    match number with
    | some n => insert (n - s.taken) t
    | none => push t

/-- Closes block collections until the indentation is at most `column`, each with a block end
marked just before the blanks that preceded the token. -/
def unrollIndent (column : Int) (scanMark : Mark) : ScanM Unit := do
  if (← get).flowLevel > 0 then return
  let blockMark := { scanMark with index := scanMark.index - 1 }
  for _ in [0:(← get).indents.length + 1] do
    let s ← get
    if s.indent > column then
      match s.indents with
      | i :: rest =>
        push { kind := .blockEnd, start := blockMark, stop := blockMark }
        modify fun s => { s with indent := i, indents := rest }
      | [] => break
    else break

/-- Whether the text at the current place is a document marker of three `c` followed by a blank
or the end, at the start of a line. -/
def atDocumentMarker (c : Char) : ScanM Bool := do
  let s ← get
  pure (s.mark.column == 0 && (← ahead 0) == c && (← ahead 1) == c && (← ahead 2) == c &&
    isBlankZ (← ahead 3))

def skipToLineEnd : ScanM Unit := do
  for _ in [0:← steps] do
    if isBreakZ (← here) then break
    skip

/-- The offset of the next comment after the current line break, when only blank lines and
blanks stand before it, within 512 characters. -/
def nextCommentOffset : ScanM (Option Nat) := do
  let mut k := 0
  for _ in [0:512] do
    let c ← ahead k
    if c == '#' then return some k
    if isBlank c || isBreak c then k := k + 1
    else return none
  return none

/-- Moves past a comment and the comments that follow it on the next lines, with only blank
lines between them, stopping at the end of the last comment's line. -/
def skipComments : ScanM Unit := do
  skipToLineEnd
  for _ in [0:← steps] do
    match ← nextCommentOffset with
    | none => break
    | some k =>
      let stop := (← get).mark.index + k
      for _ in [0:k + 1] do
        if (← get).mark.index ≥ stop then break
        if isBreak (← here) then skipLine else skip
      skipToLineEnd

/-- Moves past blanks, comments and line breaks up to the next token. Tabs are skipped only in
flow context and where no key may start, so a tab cannot indent a block. -/
def scanToNextToken : ScanM Unit := do
  for _ in [0:← steps] do
    if (← get).mark.column == 0 && (← here) == '\uFEFF' then skip
    for _ in [0:← steps] do
      let c ← here
      let s ← get
      if c == ' ' || ((s.flowLevel > 0 || !s.keyAllowed) && c == '\t') then skip else break
    if (← here) == '#' then skipComments
    if isBreak (← here) then
      skipLine
      if (← get).flowLevel == 0 then modify fun s => { s with keyAllowed := true }
    else break

def fetchStreamStart : ScanM Unit := do
  let m ← currentMark
  modify fun s =>
    { s with
      indent := -1, keys := s.keys.push {}, keysByToken := [], keyAllowed := true,
      started := true }
  push { kind := .streamStart, start := m, stop := m }

/-- Reads the end of the stream, on a line of its own, closing every block collection. -/
def fetchStreamEnd : ScanM Unit := do
  let s ← get
  if s.mark.column != 0 then
    set { s with mark := { s.mark with column := 0, line := s.mark.line + 1 } }
  unrollIndent (-1) (← currentMark)
  removeSimpleKey
  modify fun s => { s with keyAllowed := false }
  let m ← currentMark
  push { kind := .streamEnd, start := m, stop := m }

/-- Reads the letters, digits, `_` and `-` at the current place. -/
def readWord : ScanM String := do
  let mut acc := ""
  for _ in [0:← steps] do
    if isWordChar (← here) then acc ← read acc else break
  return acc

def skipBlanks : ScanM Unit := do
  for _ in [0:← steps] do
    if isBlank (← here) then skip else break

/-- Reads one number of a version directive: one or two digits. -/
def scanVersionNumber (start : Mark) : ScanM Nat := do
  let mut value := 0
  let mut length := 0
  for _ in [0:← steps] do
    let c ← here
    if !c.isDigit then break
    length := length + 1
    if length > 2 then
      fail "while scanning a %YAML directive" start "found extremely long version number"
    value := value * 10 + (c.toNat - 48)
    skip
  if length == 0 then
    fail "while scanning a %YAML directive" start "did not find expected version number"
  return value

def tagContext (directive : Bool) : String :=
  if directive then "while parsing a %TAG directive" else "while parsing a tag"

/-- Reads a tag handle: `!`, `!!`, or `!` word `!`; in a tag, a `!` and a word without the
closing `!` is returned as read, to be the start of a suffix. -/
def scanTagHandle (directive : Bool) (start : Mark) : ScanM String := do
  if (← here) != '!' then fail (tagContext directive) start "did not find expected '!'"
  let mut acc ← read ""
  for _ in [0:← steps] do
    if isWordChar (← here) then acc ← read acc else break
  if (← here) == '!' then acc ← read acc
  else if directive && acc != "!" then
    fail (tagContext directive) start "did not find expected '!'"
  return acc

/-- The number of bytes of a UTF-8 sequence by its first byte; zero for a byte that cannot start
one. -/
def utf8Width (b : Nat) : Nat :=
  if b < 0x80 then 1 else if b &&& 0xE0 == 0xC0 then 2 else if b &&& 0xF0 == 0xE0 then 3
  else if b &&& 0xF8 == 0xF0 then 4 else 0

def hexDigit? (c : Char) : Option Nat :=
  if c.isDigit then some (c.toNat - 48)
  else if 'a' ≤ c && c ≤ 'f' then some (c.toNat - 87)
  else if 'A' ≤ c && c ≤ 'F' then some (c.toNat - 55)
  else none

def scanUriEscapes (directive : Bool) (start : Mark) : ScanM (List Nat) := do
  let mut bytes : List Nat := []
  let mut width := 0
  for _ in [0:5] do
    let c ← here
    match c == '%', hexDigit? (← ahead 1), hexDigit? (← ahead 2) with
    | true, some hi, some lo =>
      let octet := hi * 16 + lo
      if bytes.isEmpty then
        width := utf8Width octet
        if width == 0 then
          fail (tagContext directive) start "found an incorrect leading UTF-8 octet"
      else if octet &&& 0xC0 != 0x80 then
        fail (tagContext directive) start "found an incorrect trailing UTF-8 octet"
      bytes := bytes ++ [octet]
      skip; skip; skip
      if bytes.length == width then break
    | _, _, _ => fail (tagContext directive) start "did not find URI escaped octet"
  return bytes

/-- Whether a character may appear in a tag; `,`, `[` and `]` only inside `!<...>` and in tag
directives. -/
def isUriChar (flowChars : Bool) (c : Char) : Bool :=
  isWordChar c || ";/?:@&=+$.%!~*'()".toList.contains c ||
    (flowChars && (c == ',' || c == '[' || c == ']'))

/-- Reads the rest of a tag after `head`, whose leading `!` is dropped. -/
def scanTagUri (flowChars directive : Bool) (head : String) (start : Mark) : ScanM String := do
  let mut acc := String.ofList (head.toList.drop 1)
  let mut hasTag := !head.isEmpty
  for _ in [0:← steps] do
    let c ← here
    if !isUriChar flowChars c then break
    if c == '%' then
      let bytes ← scanUriEscapes directive start
      acc := acc ++ Text.ofUtf8Lossy bytes
    else acc ← read acc
    hasTag := true
  if !hasTag then fail (tagContext directive) start "did not find expected tag URI"
  return acc

/-- Reads a directive line: `%YAML major.minor` or `%TAG handle expansion`. -/
def scanDirective : ScanM Token := do
  let start ← currentMark
  skip
  let name ← readWord
  if name.isEmpty then
    fail "while scanning a directive" start "could not find expected directive name"
  if !isBlankZ (← here) then
    fail "while scanning a directive" start "found unexpected non-alphabetical character"
  let kind ← if name == "YAML" then do
      skipBlanks
      let major ← scanVersionNumber start
      if (← here) != '.' then
        fail "while scanning a %YAML directive" start "did not find expected digit or '.' character"
      skip
      let minor ← scanVersionNumber start
      pure (TokenKind.versionDirective major minor)
    else if name == "TAG" then do
      skipBlanks
      let handle ← scanTagHandle true start
      if !isBlank (← here) then
        fail "while scanning a %TAG directive" start "did not find expected whitespace"
      skipBlanks
      let expansion ← scanTagUri true true "" start
      if !isBlankZ (← here) then
        fail "while scanning a %TAG directive" start "did not find expected whitespace or line break"
      pure (TokenKind.tagDirective handle expansion)
    else fail "while scanning a directive" start "found unknown directive name"
  let stop ← currentMark
  skipBlanks
  if (← here) == '#' then skipToLineEnd
  if !isBreakZ (← here) then
    fail "while scanning a directive" start "did not find expected comment or line break"
  if isBreak (← here) then skipLine
  return { kind, start, stop }

/-- Reads a directive, closing every block collection first. -/
def fetchDirective : ScanM Unit := do
  unrollIndent (-1) (← currentMark)
  removeSimpleKey
  modify fun s => { s with keyAllowed := false }
  push (← scanDirective)

/-- Reads `---` or `...`, closing every block collection first. -/
def fetchDocumentIndicator (kind : TokenKind) : ScanM Unit := do
  unrollIndent (-1) (← currentMark)
  removeSimpleKey
  modify fun s => { s with keyAllowed := false }
  let start ← currentMark
  skip; skip; skip
  push { kind, start, stop := ← currentMark }

def indicator (kind : TokenKind) : ScanM Unit := do
  let start ← currentMark
  skip
  push { kind, start, stop := ← currentMark }

def fetchFlowCollectionStart (kind : TokenKind) : ScanM Unit := do
  saveSimpleKey
  increaseFlowLevel
  modify fun s => { s with keyAllowed := true }
  indicator kind

def fetchFlowCollectionEnd (kind : TokenKind) : ScanM Unit := do
  removeSimpleKey
  decreaseFlowLevel
  modify fun s => { s with keyAllowed := false }
  indicator kind

def fetchFlowEntry : ScanM Unit := do
  removeSimpleKey
  modify fun s => { s with keyAllowed := true }
  indicator .flowEntry

/-- Reads `-` starting a block sequence entry, opening the sequence if needed. -/
def fetchBlockEntry : ScanM Unit := do
  let s ← get
  if s.flowLevel == 0 then
    if !s.keyAllowed then
      fail "" s.mark "block sequence entries are not allowed in this context"
    rollIndent s.mark.column none .blockSequenceStart s.mark
  removeSimpleKey
  modify fun s => { s with keyAllowed := true }
  indicator .blockEntry

/-- Reads `?` starting a key, opening a block mapping if needed. -/
def fetchKey : ScanM Unit := do
  let s ← get
  if s.flowLevel == 0 then
    if !s.keyAllowed then
      fail "" s.mark "mapping keys are not allowed in this context"
    rollIndent s.mark.column none .blockMappingStart s.mark
  removeSimpleKey
  modify fun s => { s with keyAllowed := s.flowLevel == 0 }
  indicator .key

/-- Reads `:`. After a possible key it inserts the key token before the key, opening a block
mapping at the key's column if needed; otherwise the colon follows a `?` key or stands alone. -/
def fetchValue : ScanM Unit := do
  let s ← get
  let level := s.keys.size - 1
  let k := s.keys.getD level {}
  if ← keyStillPossible level then
    insert (k.tokenNumber - s.taken) { kind := .key, start := k.mark, stop := k.mark }
    rollIndent k.mark.column (some k.tokenNumber) .blockMappingStart k.mark
    setCurrentKey { k with possible := false }
    forgetKeyAt k.tokenNumber
    modify fun s => { s with keyAllowed := false }
  else
    let s ← get
    if s.flowLevel == 0 then
      if !s.keyAllowed then
        fail "" s.mark "mapping values are not allowed in this context"
      rollIndent s.mark.column none .blockMappingStart s.mark
    modify fun s => { s with keyAllowed := s.flowLevel == 0 }
  indicator .value

def fetchAnchor (isAlias : Bool) : ScanM Unit := do
  saveSimpleKey
  modify fun s => { s with keyAllowed := false }
  let start ← currentMark
  skip
  let mut name := ""
  for _ in [0:← steps] do
    if isAnchorChar (← here) then name ← read name else break
  let stop ← currentMark
  let c ← here
  if name.isEmpty || !(isBlankZ c || "?:,]\x7d%@`".toList.contains c) then
    fail (if isAlias then "while scanning an alias" else "while scanning an anchor") start
      "did not find expected alphabetic or numeric character"
  push { kind := if isAlias then .alias name else .anchor name, start, stop }

/-- Reads a tag: `!<verbatim>`, `!suffix`, `!handle!suffix`, or `!` alone. -/
def fetchTag : ScanM Unit := do
  saveSimpleKey
  modify fun s => { s with keyAllowed := false }
  let start ← currentMark
  let (handle, suffix) ← if (← ahead 1) == '<' then do
      skip; skip
      let suffix ← scanTagUri true false "" start
      if (← here) != '>' then fail "while scanning a tag" start "did not find the expected '>'"
      skip
      pure ("", suffix)
    else do
      let handle ← scanTagHandle false start
      if handle.length > 1 && handle.front == '!' && handle.back == '!' then
        pure (handle, ← scanTagUri false false "" start)
      else
        let suffix ← scanTagUri false false handle start
        if suffix.isEmpty then pure ("", "!") else pure ("!", suffix)
  let c ← here
  if !isBlankZ c && ((← get).flowLevel == 0 || c != ',') then
    fail "while scanning a tag" start "did not find expected whitespace or line break"
  push { kind := .tag handle suffix, start, stop := ← currentMark }

/-- Reads the indentation and empty lines before a line of a block scalar, fixing the
indentation from the most indented of them when it is not known yet; `breaks` collects the line
breaks. -/
def scanBlockScalarBreaks (indent : Nat) (breaks : String) (start : Mark) :
    ScanM (Nat × String × Mark) := do
  let mut endMark ← currentMark
  let mut breaks := breaks
  let mut maxIndent := 0
  for _ in [0:← steps] do
    for _ in [0:← steps] do
      if (indent == 0 || (← get).mark.column < indent) && (← here) == ' ' then skip else break
    let col := (← get).mark.column
    if col > maxIndent then maxIndent := col
    if (indent == 0 || col < indent) && (← here) == '\t' then
      fail "while scanning a block scalar" start
        "found a tab character where an indentation space is expected"
    if !isBreak (← here) then break
    breaks ← readLine breaks
    endMark ← currentMark
  let mut indent := indent
  if indent == 0 then
    let parent := (← get).indent
    indent := max maxIndent (max (parent + 1).toNat 1)
  return (indent, breaks, endMark)

/-- Reads a literal (`|`) or folded (`>`) block scalar with its header. -/
def scanBlockScalar (literal : Bool) : ScanM Token := do
  let start ← currentMark
  skip
  let mut chomping : Int := 0
  let mut increment := 0
  let c ← here
  if c == '+' || c == '-' then
    chomping := if c == '+' then 1 else -1
    skip
    let d ← here
    if d.isDigit then
      if d == '0' then
        fail "while scanning a block scalar" start "found an indentation indicator equal to 0"
      increment := d.toNat - 48
      skip
  else if c.isDigit then
    if c == '0' then
      fail "while scanning a block scalar" start "found an indentation indicator equal to 0"
    increment := c.toNat - 48
    skip
    let d ← here
    if d == '+' || d == '-' then
      chomping := if d == '+' then 1 else -1
      skip
  skipBlanks
  if (← here) == '#' then skipToLineEnd
  if !isBreakZ (← here) then
    fail "while scanning a block scalar" start "did not find expected comment or line break"
  if isBreak (← here) then skipLine
  let parent := (← get).indent
  let indent := if increment > 0 then
      (if parent ≥ 0 then (parent + increment).toNat else increment) else 0
  let (indent, trailing, endMark) ← scanBlockScalarBreaks indent "" start
  let mut endMark := endMark
  let mut trailingBreaks := trailing
  let mut text := ""
  let mut leadingBreak := ""
  let mut leadingBlank := false
  for _ in [0:← steps] do
    if !((← get).mark.column == indent && (← here) != endChar) then break
    let trailingBlank := isBlank (← here)
    if !literal && !leadingBlank && !trailingBlank && leadingBreak.front == '\n' &&
        !leadingBreak.isEmpty then
      if trailingBreaks.isEmpty then text := text.push ' '
    else text := text ++ leadingBreak
    leadingBreak := ""
    text := text ++ trailingBreaks
    trailingBreaks := ""
    leadingBlank := isBlank (← here)
    for _ in [0:← steps] do
      if isBreakZ (← here) then break
      text ← read text
    leadingBreak ← readLine ""
    let (_, breaks, m) ← scanBlockScalarBreaks indent "" start
    trailingBreaks := breaks
    endMark := m
  if chomping != -1 then text := text ++ leadingBreak
  if chomping == 1 then text := text ++ trailingBreaks
  return { kind := .scalar text (if literal then .literal else .folded), start, stop := endMark }

/-- Reads a block scalar, which may be followed by a key. -/
def fetchBlockScalar (literal : Bool) : ScanM Unit := do
  removeSimpleKey
  modify fun s => { s with keyAllowed := true }
  push (← scanBlockScalar literal)

def simpleEscape (c : Char) : Option Char :=
  match c with
  | '0' => some '\x00' | 'a' => some '\x07' | 'b' => some '\x08' | 't' => some '\t'
  | '\t' => some '\t' | 'n' => some '\n' | 'v' => some '\x0b' | 'f' => some '\x0c'
  | 'r' => some '\r' | 'e' => some '\x1b' | ' ' => some ' ' | '"' => some '"'
  | '\'' => some '\'' | '\\' => some '\\' | 'N' => some '\u0085' | '_' => some '\u00A0'
  | 'L' => some '\u2028' | 'P' => some '\u2029'
  | _ => none

/-- Reads a single- or double-quoted scalar. Line breaks inside fold into spaces, except that
empty lines stand for themselves; blanks around line breaks are dropped. -/
def scanFlowScalar (single : Bool) : ScanM Token := do
  let start ← currentMark
  skip
  let mut text := ""
  let mut leadingBreak := ""
  let mut trailingBreaks := ""
  let mut whitespaces := ""
  for _ in [0:← steps] do
    if (← atDocumentMarker '-') || (← atDocumentMarker '.') then
      fail "while scanning a quoted scalar" start "found unexpected document indicator"
    if (← here) == endChar then
      fail "while scanning a quoted scalar" start "found unexpected end of stream"
    let mut leadingBlanks := false
    for _ in [0:← steps] do
      let c ← here
      if isBlankZ c then break
      let d ← ahead 1
      if single && c == '\'' && d == '\'' then
        text := text.push '\''
        skip; skip
      else if single && c == '\'' then break
      else if !single && c == '"' then break
      else if !single && c == '\\' && isBreak d then
        skip
        skipLine
        leadingBlanks := true
        break
      else if !single && c == '\\' then
        let width := if d == 'x' then 2 else if d == 'u' then 4 else if d == 'U' then 8 else 0
        if width == 0 then
          match simpleEscape d with
          | some e => text := text.push e
          | none => fail "while parsing a quoted scalar" start "found unknown escape character"
        skip; skip
        if width > 0 then
          let mut value := 0
          for k in [0:width] do
            match hexDigit? (← ahead k) with
            | some v => value := value * 16 + v
            | none =>
              fail "while parsing a quoted scalar" start "did not find expected hexdecimal number"
          if (0xD800 ≤ value && value ≤ 0xDFFF) || value > 0x10FFFF then
            fail "while parsing a quoted scalar" start "found invalid Unicode character escape code"
          text := text.push (Char.ofNat value)
          for _ in [0:width] do skip
      else text ← read text
    let c ← here
    if (single && c == '\'') || (!single && c == '"') then break
    for _ in [0:← steps] do
      let c ← here
      if !(isBlank c || isBreak c) then break
      if isBlank c then
        if !leadingBlanks then whitespaces ← read whitespaces else skip
      else if !leadingBlanks then
        whitespaces := ""
        leadingBreak ← readLine leadingBreak
        leadingBlanks := true
      else trailingBreaks ← readLine trailingBreaks
    if leadingBlanks then
      if !leadingBreak.isEmpty && leadingBreak.front == '\n' then
        if trailingBreaks.isEmpty then text := text.push ' ' else text := text ++ trailingBreaks
      else text := text ++ leadingBreak ++ trailingBreaks
      trailingBreaks := ""
      leadingBreak := ""
    else
      text := text ++ whitespaces
      whitespaces := ""
  skip
  let stop ← currentMark
  return { kind := .scalar text (if single then .singleQuoted else .doubleQuoted), start, stop }

def fetchFlowScalar (single : Bool) : ScanM Unit := do
  saveSimpleKey
  modify fun s => { s with keyAllowed := false }
  push (← scanFlowScalar single)

/-- Reads a plain scalar. It ends at `: ` or ` #`, at a flow indicator in flow context, at a
document marker, or at a line indented no deeper than the enclosing block; line breaks inside
fold as in quoted scalars. -/
def scanPlainScalar : ScanM Token := do
  let s0 ← get
  let indent : Int := s0.indent + 1
  let start := s0.mark
  let mut endMark := s0.mark
  let mut text := ""
  let mut leadingBreak := ""
  let mut trailingBreaks := ""
  let mut whitespaces := ""
  let mut leadingBlanks := false
  for _ in [0:← steps] do
    if (← atDocumentMarker '-') || (← atDocumentMarker '.') then break
    if (← here) == '#' then break
    for _ in [0:← steps] do
      let c ← here
      if isBlankZ c then break
      let d ← ahead 1
      let flow := (← get).flowLevel > 0
      if (c == ':' && isBlankZ d) ||
          (flow && (c == ',' || c == '?' || c == '[' || c == ']' || c == '\x7b' || c == '\x7d')) then
        break
      if leadingBlanks || !whitespaces.isEmpty then
        if leadingBlanks then
          if leadingBreak.front == '\n' then
            if trailingBreaks.isEmpty then text := text.push ' ' else text := text ++ trailingBreaks
          else text := text ++ leadingBreak ++ trailingBreaks
          trailingBreaks := ""
          leadingBreak := ""
          leadingBlanks := false
        else
          text := text ++ whitespaces
          whitespaces := ""
      text ← read text
      endMark ← currentMark
    let c ← here
    if !(isBlank c || isBreak c) then break
    for _ in [0:← steps] do
      let c ← here
      if !(isBlank c || isBreak c) then break
      if isBlank c then
        if leadingBlanks && ((← get).mark.column : Int) < indent && c == '\t' then
          fail "while scanning a plain scalar" start
            "found a tab character that violates indentation"
        if !leadingBlanks then whitespaces ← read whitespaces else skip
      else if !leadingBlanks then
        whitespaces := ""
        leadingBreak ← readLine leadingBreak
        leadingBlanks := true
      else trailingBreaks ← readLine trailingBreaks
    let s ← get
    if s.flowLevel == 0 && (s.mark.column : Int) < indent then break
  if leadingBlanks then modify fun s => { s with keyAllowed := true }
  return { kind := .scalar text .plain, start, stop := endMark }

def fetchPlainScalar : ScanM Unit := do
  saveSimpleKey
  modify fun s => { s with keyAllowed := false }
  push (← scanPlainScalar)

def isIndicatorChar (c : Char) : Bool :=
  "-?:,[]\x7b\x7d#&*!|>'\"%@`".toList.contains c

/-- Reads the next token, after the blanks and comments before it. -/
def fetchNextToken : ScanM Unit := do
  if !(← get).started then
    fetchStreamStart
    return
  let scanMark ← currentMark
  scanToNextToken
  unrollIndent (← get).mark.column scanMark
  let c ← here
  let d ← ahead 1
  let s ← get
  let flow := s.flowLevel > 0
  if c == endChar then fetchStreamEnd
  else if s.mark.column == 0 && c == '%' then fetchDirective
  else if ← atDocumentMarker '-' then fetchDocumentIndicator .documentStart
  else if ← atDocumentMarker '.' then fetchDocumentIndicator .documentEnd
  else if c == '[' then fetchFlowCollectionStart .flowSequenceStart
  else if c == '\x7b' then fetchFlowCollectionStart .flowMappingStart
  else if c == ']' then fetchFlowCollectionEnd .flowSequenceEnd
  else if c == '\x7d' then fetchFlowCollectionEnd .flowMappingEnd
  else if c == ',' then fetchFlowEntry
  else if c == '-' && isBlankZ d then fetchBlockEntry
  else if c == '?' && (flow || isBlankZ d) then fetchKey
  else if c == ':' && (flow || isBlankZ d) then fetchValue
  else if c == '*' then fetchAnchor true
  else if c == '&' then fetchAnchor false
  else if c == '!' then fetchTag
  else if c == '|' && !flow then fetchBlockScalar true
  else if c == '>' && !flow then fetchBlockScalar false
  else if c == '\'' then fetchFlowScalar true
  else if c == '"' then fetchFlowScalar false
  else if !(isBlankZ c || isIndicatorChar c) || (c == '-' && !isBlank d) ||
      (!flow && (c == '?' || c == ':') && !isBlankZ d) then
    fetchPlainScalar
  else
    fail "while scanning for the next token" s.mark "found character that cannot start any token"

/-- Reads tokens until the first one in the queue can be handed out: two more tokens are read,
and none of them may be a key still to be inserted before it. -/
def fetchMoreTokens : ScanM Unit := do
  for _ in [0:(← steps) + 4] do
    let s ← get
    if s.queue.size > 2 then
      match s.keysByToken.lookup s.taken with
      | none => break
      | some level => if !(← keyStillPossible level) then break
    fetchNextToken
  modify fun s => { s with available := true }

def peekToken : ScanM Token := do
  if !(← get).available then fetchMoreTokens
  let s ← get
  pure (s.queue.getD 0 { kind := .streamEnd, start := s.mark, stop := s.mark })

def skipToken : ScanM Unit :=
  modify fun s => { s with available := false, taken := s.taken + 1, queue := s.queue.extract 1 s.queue.size }

end Scanner

/-- A scanner at the start of a text; a byte order mark at the start is dropped. -/
def Scanner.ofText (text : String) : Scanner :=
  let cs := match text.toList with
    | '\uFEFF' :: rest => rest
    | cs => cs
  { text := cs.toArray }

end Bindery.Yaml
