import Bindery.Markup.Entity

/-!
# Splitting HTML text into tokens

The tokenizer reads start and end tags, text, comments and declarations, one token at a time, so
that the tree builder can steer it: after the start tag of an element whose content is raw text
(`script`, `style`, `textarea`, `title` and a few others) the next token is that content, up to
the element's own end tag, unless the builder says otherwise.

Tag names and attribute names are lowered (ASCII only); attribute values and text have their
character references decoded, except the content of raw text elements other than `textarea` and
`title`. A tag that the end of the text cuts short is dropped. `</>` reads as an empty comment, as
do declarations other than a document type, and `<?...>` and `</` followed by no letter read as
comments up to the next `>`.

References follow the lenient rules: numeric ones wrap around like 32-bit numbers, name the
Windows-1252 characters for 0x80 to 0x9F, and give U+FFFD for zero, surrogates and values past
Unicode; a decimal one with a single digit needs its semicolon. A named one may lack its
semicolon when it is one of the older names, and outside attribute values the longest such name
at the head of a longer run of letters is read.
-/

namespace Bindery.Markup.Html

inductive Token where
  | text (s : String)
  | startTag (name : String) (attrs : List (String × String)) (selfClosing : Bool)
  | endTag (name : String)
  | comment (s : String)
  | doctype
  | eof
deriving Inhabited, Repr, BEq

def isTagSpace (c : Char) : Bool :=
  c == ' ' || c == '\n' || c == '\r' || c == '\t' || c == '\x0C'

def isLetter (c : Char) : Bool := ('a' ≤ c && c ≤ 'z') || ('A' ≤ c && c ≤ 'Z')

def isAlnum (c : Char) : Bool := isLetter c || ('0' ≤ c && c ≤ '9')

def lowerAscii (c : Char) : Char := if 'A' ≤ c && c ≤ 'Z' then Char.ofNat (c.toNat + 32) else c

def sliceChars (src : Array Char) (a b : Nat) : List Char := (src.extract a b).toList

def replaceNul (cs : List Char) : List Char := cs.map fun c => if c == '\x00' then '\uFFFD' else c

/-- The characters 0x80 to 0x9F of Windows-1252, which numeric references name in their place. -/
def windows1252 : Array Nat := #[0x20AC, 0x81, 0x201A, 0x192, 0x201E, 0x2026, 0x2020, 0x2021,
  0x2C6, 0x2030, 0x160, 0x2039, 0x152, 0x8D, 0x17D, 0x8F, 0x90, 0x2018, 0x2019, 0x201C, 0x201D,
  0x2022, 0x2013, 0x2014, 0x2DC, 0x2122, 0x161, 0x203A, 0x153, 0x9D, 0x17E, 0x178]

/-- The character a numeric reference names, given its value as a 32-bit pattern. -/
def numericChar (x : Nat) : Char :=
  if x ≥ 0x80000000 then '\uFFFD'
  else if 0x80 ≤ x && x ≤ 0x9F then Char.ofNat (windows1252.getD (x - 0x80) 0xFFFD)
  else if x == 0 || (0xD800 ≤ x && x ≤ 0xDFFF) || x > 0x10FFFF then '\uFFFD'
  else Char.ofNat x

def referenceDigit (hex : Bool) (c : Char) : Option Nat :=
  if '0' ≤ c && c ≤ '9' then some (c.toNat - '0'.toNat)
  else if hex && 'a' ≤ c && c ≤ 'f' then some (c.toNat - 'a'.toNat + 10)
  else if hex && 'A' ≤ c && c ≤ 'F' then some (c.toNat - 'A'.toNat + 10)
  else none

/-- The longest of the older named references at the head of `name`, at most six letters and
shorter than `name`: its length and its text. -/
def legacyPrefix (name : List Char) : Option (Nat × String) :=
  let longest := min (name.length - 1) 6
  ((List.range (longest + 1)).reverse.filter (· > 1)).findSome? fun j =>
    (namedReference (String.ofList (name.take j))).map fun v => (j, v)

/-- Decodes the character reference after an ampersand: `s` is what follows the ampersand.
Returns the text and the rest; a reference that does not decode stands for itself. -/
def readReference (s : List Char) (inValue : Bool) : String × List Char :=
  match s with
  | [] => ("&", [])
  | '#' :: rest =>
    if rest.length ≤ 1 then ("&", s) else
    let (hex, body) := match rest with
      | 'x' :: r | 'X' :: r => (true, r)
      | r => (false, r)
    let digits := body.takeWhile fun c => (referenceDigit hex c).isSome
    let after := body.drop digits.length
    let (semicolon, after) := match after with
      | ';' :: r => (true, r)
      | r => (false, r)
    let used := (if hex then 1 else 0) + digits.length + (if semicolon then 1 else 0)
    if used ≤ 1 then ("&", s) else
    let base := if hex then 16 else 10
    let x := digits.foldl (fun acc c => (acc * base + (referenceDigit hex c).getD 0) % 0x100000000) 0
    (String.singleton (numericChar x), after)
  | _ =>
    let letters := s.takeWhile isAlnum
    let after := s.drop letters.length
    let (name, rest) := match after with
      | ';' :: r => (letters ++ [';'], r)
      | r => (letters, r)
    let literal := ("&" ++ String.ofList name, rest)
    if name.isEmpty then ("&", s)
    else if inValue && after.head? != some ';' && rest.head? == some '=' then literal
    else match namedReference (String.ofList name) with
      | some v => (v, rest)
      | none =>
        if inValue then literal
        else match legacyPrefix name with
          | some (j, v) => (v, name.drop j ++ rest)
          | none => literal

/-- Text with its character references decoded, at most `fuel` of them. -/
def unescapeFrom (inValue : Bool) : Nat → List Char → String → String
  | 0, cs, acc => acc ++ String.ofList cs
  | _, [], acc => acc
  | fuel + 1, '&' :: rest, acc =>
    let (decoded, rest) := readReference rest inValue
    unescapeFrom inValue fuel rest (acc ++ decoded)
  | fuel + 1, c :: rest, acc => unescapeFrom inValue fuel rest (acc.push c)

/-- Text with its character references decoded; in attribute values an unterminated name
followed by `=` and names that are only a head of the run of letters stay as they are. -/
def unescape (cs : List Char) (inValue : Bool) : String := unescapeFrom inValue (cs.length + 1) cs ""

/-- The state of reading: the text, the position, the element whose content comes next as raw
text, whether `<![CDATA[` opens text, and whether the end of the text has been met. -/
structure Tokenizer where
  src : Array Char
  pos : Nat := 0
  rawTag : String := ""
  allowCDATA : Bool := false
  ended : Bool := false
deriving Inhabited

/-- The first position from `i` on whose character passes a test; the end of the text when
there is none. -/
def findFrom (src : Array Char) (p : Char → Bool) : Nat → Nat → Nat
  | 0, _ => src.size
  | fuel + 1, i =>
    match src[i]? with
    | none => src.size
    | some c => if p c then i else findFrom src p fuel (i + 1)

/-- The first position from `i` on that does not hold a blank. -/
def skipSpace (src : Array Char) (i : Nat) : Nat := findFrom src (fun c => !isTagSpace c) src.size i

/-- Reads a tag name whose first letter is at `i`: its end and the position after it; none when
the text ends inside it. -/
def readTagName (src : Array Char) (i : Nat) : Option (Nat × Nat) :=
  let j := findFrom src (fun c => isTagSpace c || c == '/' || c == '>') src.size (i + 1)
  match src[j]? with
  | none => none
  | some c => if isTagSpace c then some (j, j + 1) else some (j, j)

/-- Reads an attribute name at `j`, where a leading `=` belongs to the name: its end, or none when
the text ends inside it. -/
def readAttrName (src : Array Char) (j : Nat) : Option Nat :=
  let from' := if src[j]? == some '=' then j + 1 else j
  let k := findFrom src (fun c => isTagSpace c || c == '/' || c == '>' || c == '=') src.size from'
  if k ≥ src.size then none else some k

/-- Reads what follows an attribute name at `k`: the bounds of its value, if it has one, and the
position after it; none when the text ends. -/
def readAttrValue (src : Array Char) (k : Nat) : Option (Option (Nat × Nat) × Nat) :=
  let k := skipSpace src k
  match src[k]? with
  | none => none
  | some '/' => some (none, k + 1)
  | some '=' =>
    let k := skipSpace src (k + 1)
    match src[k]? with
    | none => none
    | some '>' => some (none, k)
    | some q =>
      if q == '\'' || q == '"' then
        let e := findFrom src (· == q) src.size (k + 1)
        if e ≥ src.size then none else some (some (k + 1, e), e + 1)
      else
        let e := findFrom src (fun c => isTagSpace c || c == '>') src.size (k + 1)
        if e ≥ src.size then none else some (some (k, e), e)
  | some _ => some (none, k)

/-- Reads the attributes of a tag from `j` up to its `>`: names lowered, values decoded, and the
position after the `>`; none when the text ends first. -/
def readAttrs (src : Array Char) : Nat → Nat → List (String × String) →
    Option (List (String × String) × Nat)
  | 0, _, _ => none
  | fuel + 1, j, acc =>
    let j := skipSpace src j
    match src[j]? with
    | none => none
    | some '>' => some (acc.reverse, j + 1)
    | some _ => do
      let nameEnd ← readAttrName src j
      let (value, next) ← readAttrValue src nameEnd
      let acc :=
        if nameEnd > j then
          let name := String.ofList ((sliceChars src j nameEnd).map lowerAscii)
          let text := match value with
            | some (a, b) => unescape (sliceChars src a b) true
            | none => ""
          (name, text) :: acc
        else acc
      readAttrs src fuel next acc

/-- Reads a tag whose name starts at `i`: its name in lower case, its attributes and the
position after it; none when the text ends inside it. -/
def readTag (src : Array Char) (i : Nat) : Option (String × List (String × String) × Nat) := do
  let (nameEnd, j) ← readTagName src i
  let name := String.ofList ((sliceChars src i nameEnd).map lowerAscii)
  let (attrs, next) ← readAttrs src (src.size + 1) j []
  pure (name, attrs, next)

def rawTextTags : List String :=
  ["iframe", "noembed", "noframes", "noscript", "plaintext", "script", "style", "textarea",
    "title", "xmp"]

/-- Reads to the next `>` from `j`: the end of what was read, the position after the `>`, and
whether the text ended first. -/
def readToClose (src : Array Char) (j : Nat) : Nat × Nat × Bool :=
  let e := findFrom src (· == '>') src.size j
  if e ≥ src.size then (src.size, src.size, true) else (e, e + 1, false)

/-- Reads a comment whose text starts at `s`, the `<!--` read: the end of its text, the position
after it, and whether the text ended first. `-->`, `--!>`, and `>` right at the start or after
two dashes close it; at the end of the text, trailing dashes (and `--!`) are left out. -/
def readComment (src : Array Char) (s : Nat) : Nat × Nat × Bool :=
  let cut : Nat :=
    let content := sliceChars src s src.size
    if content.reverse.take 3 == ['!', '-', '-'] then src.size - 3
    else if content.reverse.take 2 == ['-', '-'] then src.size - 2
    else if content.reverse.take 1 == ['-'] then src.size - 1
    else src.size
  let rec go : Nat → Nat → Nat → Bool → Nat × Nat × Bool
    | 0, _, _, _ => (cut, src.size, true)
    | fuel + 1, k, dashes, beginning =>
      match src[k]? with
      | none => (max cut s, src.size, true)
      | some '-' => go fuel (k + 1) (dashes + 1) beginning
      | some '>' =>
        if dashes ≥ 2 || beginning then (max s (k + 1 - 3), k + 1, false)
        else go fuel (k + 1) 0 false
      | some '!' =>
        if dashes ≥ 2 then
          match src[k + 1]? with
          | none => (max cut s, src.size, true)
          | some '>' => (max s (k + 2 - 4), k + 2, false)
          | some '-' => go fuel (k + 2) 1 false
          | some _ => go fuel (k + 2) 0 false
        else go fuel (k + 1) 0 false
      | some _ => go fuel (k + 1) 0 false
  go (src.size + 1) s 0 true

/-- Whether the end tag of the raw text element `tag` follows at `k`, right after `</`: the name
in any case, then a blank, `/` or `>`. When it does not, the position to read on from; none when
the text ends first. -/
def rawEndTag (src : Array Char) (tag : List Char) (k : Nat) : Option (Bool × Nat) :=
  match tag with
  | [] =>
    match src[k]? with
    | none => none
    | some c => if isTagSpace c || c == '/' || c == '>' then some (true, k) else some (false, k)
  | t :: rest =>
    match src[k]? with
    | none => none
    | some c =>
      if c == t || c == Char.ofNat (t.toNat - 32) then rawEndTag src rest (k + 1)
      else some (false, k)

/-- Reads raw text from `k` up to the end tag of `tag`: where the text stops and whether the end
of the text came first. -/
def readRaw (src : Array Char) (tag : List Char) : Nat → Nat → Nat × Bool
  | 0, _ => (src.size, true)
  | fuel + 1, k =>
    match src[k]? with
    | none => (src.size, true)
    | some '<' =>
      match src[k + 1]? with
      | none => (src.size, true)
      | some '/' =>
        match rawEndTag src tag (k + 2) with
        | none => (src.size, true)
        | some (true, _) => (k, false)
        | some (false, j) => readRaw src tag fuel j
      | some _ => readRaw src tag fuel (k + 1)
    | some _ => readRaw src tag fuel (k + 1)

/-- The states of reading a script's content, which may hide `</script>` inside `<!--` and
`<script>`. -/
inductive ScriptState where
  | data
  | lessThan
  | escapeStart
  | escapeStartDash
  | escaped
  | escapedDash
  | escapedDashDash
  | escapedLessThan
  | doubleEscapeStart
  | doubleEscaped
  | doubleEscapedDash
  | doubleEscapedDashDash
  | doubleEscapedLessThan
deriving Inhabited, BEq

/-- Whether `script` follows at `k` in any case, then a blank, `/` or `>`: the position after it
when it does, the position of the first character that differs when it does not, none when the
text ends. -/
def scriptWord (src : Array Char) (k : Nat) : Option (Bool × Nat) :=
  let rec go : List Char → Nat → Option (Bool × Nat)
    | [], k =>
      match src[k]? with
      | none => none
      | some c => if isTagSpace c || c == '/' || c == '>' then some (true, k + 1) else some (false, k)
    | t :: rest, k =>
      match src[k]? with
      | none => none
      | some c =>
        if c == t || c == Char.ofNat (t.toNat - 32) then go rest (k + 1) else some (false, k)
  go "script".toList k

/-- Reads a script's content from `k`: where it stops and whether the end of the text came
first. -/
def readScript (src : Array Char) : Nat → ScriptState → Nat → Nat × Bool
  | 0, _, _ => (src.size, true)
  | fuel + 1, state, k =>
    let script := "script".toList
    match src[k]? with
    | none => (src.size, true)
    | some c =>
      let next := k + 1
      match state with
      | .data => readScript src fuel (if c == '<' then .lessThan else .data) next
      | .lessThan =>
        if c == '/' then
          match rawEndTag src script next with
          | none => (src.size, true)
          | some (true, _) => (k - 1, false)
          | some (false, j) => readScript src fuel .data j
        else if c == '!' then readScript src fuel .escapeStart next
        else readScript src fuel .data k
      | .escapeStart =>
        if c == '-' then readScript src fuel .escapeStartDash next else readScript src fuel .data k
      | .escapeStartDash =>
        if c == '-' then readScript src fuel .escapedDashDash next else readScript src fuel .data k
      | .escaped =>
        if c == '-' then readScript src fuel .escapedDash next
        else if c == '<' then readScript src fuel .escapedLessThan next
        else readScript src fuel .escaped next
      | .escapedDash =>
        if c == '-' then readScript src fuel .escapedDashDash next
        else if c == '<' then readScript src fuel .escapedLessThan next
        else readScript src fuel .escaped next
      | .escapedDashDash =>
        if c == '-' then readScript src fuel .escapedDashDash next
        else if c == '<' then readScript src fuel .escapedLessThan next
        else if c == '>' then readScript src fuel .data next
        else readScript src fuel .escaped next
      | .escapedLessThan =>
        if c == '/' then
          match rawEndTag src script next with
          | none => (src.size, true)
          | some (true, _) => (k - 1, false)
          | some (false, j) => readScript src fuel .escaped j
        else if isLetter c then readScript src fuel .doubleEscapeStart k
        else readScript src fuel .data k
      | .doubleEscapeStart =>
        match scriptWord src k with
        | none => (src.size, true)
        | some (true, j) => readScript src fuel .doubleEscaped j
        | some (false, j) => readScript src fuel .escaped j
      | .doubleEscaped =>
        if c == '-' then readScript src fuel .doubleEscapedDash next
        else if c == '<' then readScript src fuel .doubleEscapedLessThan next
        else readScript src fuel .doubleEscaped next
      | .doubleEscapedDash =>
        if c == '-' then readScript src fuel .doubleEscapedDashDash next
        else if c == '<' then readScript src fuel .doubleEscapedLessThan next
        else readScript src fuel .doubleEscaped next
      | .doubleEscapedDashDash =>
        if c == '-' then readScript src fuel .doubleEscapedDashDash next
        else if c == '<' then readScript src fuel .doubleEscapedLessThan next
        else if c == '>' then readScript src fuel .data next
        else readScript src fuel .doubleEscaped next
      | .doubleEscapedLessThan =>
        if c == '/' then
          match rawEndTag src script next with
          | none => (src.size, true)
          | some (true, _) => readScript src fuel .escaped (k + 8)
          | some (false, j) => readScript src fuel .doubleEscaped j
        else readScript src fuel .doubleEscaped k

/-- Where the next markup starts from `i` on: the position of a `<` followed by a letter, `/`,
`!` or `?`; none when the text ends first. -/
def findMarkup (src : Array Char) : Nat → Nat → Option Nat
  | 0, _ => none
  | fuel + 1, i =>
    match src[i]?, src[i + 1]? with
    | some '<', some c =>
      if isLetter c || c == '/' || c == '!' || c == '?' then some i else findMarkup src fuel (i + 1)
    | some _, some _ => findMarkup src fuel (i + 1)
    | _, _ => none

/-- Reads a declaration whose text starts at `j`, after `<!`: a comment, a document type, a
CDATA section when allowed, or a bogus comment. Returns the token, the position after it and
whether the text ended. -/
def readDeclaration (src : Array Char) (allowCDATA : Bool) (j : Nat) : Token × Nat × Bool :=
  let commentOf (a b : Nat) : Token := .comment (unescape (replaceNul (sliceChars src a b)) false)
  match src[j]?, src[j + 1]? with
  | none, _ => (.comment "", src.size, true)
  | some _, none => (commentOf j src.size, src.size, true)
  | some '-', some '-' =>
    let (stop, next, ended) := readComment src (j + 2)
    (commentOf (j + 2) stop, next, ended)
  | some _, some _ =>
    let word := (sliceChars src j (j + 7)).map lowerAscii
    if word.length < 7 && word == ("doctype".toList.take word.length) then
      -- the text ends inside the word
      (.comment "", src.size, true)
    else if word == "doctype".toList then
      let k := skipSpace src (j + 7)
      if k ≥ src.size then (.doctype, src.size, true)
      else
        let (_, next, ended) := readToClose src k
        (.doctype, next, ended)
    else
      let opener := sliceChars src j (j + 7)
      if allowCDATA && opener.length < 7 && opener == ("[CDATA[".toList.take opener.length) then
        (.comment "", src.size, true)
      else if allowCDATA && opener == "[CDATA[".toList then
        let body := j + 7
        let rec close : Nat → Nat → Nat → Nat × Nat × Bool
          | 0, _, _ => (src.size, src.size, true)
          | fuel + 1, k, brackets =>
            match src[k]? with
            | none => (src.size, src.size, true)
            | some ']' => close fuel (k + 1) (brackets + 1)
            | some '>' => if brackets ≥ 2 then (k - 2, k + 1, false) else close fuel (k + 1) 0
            | some _ => close fuel (k + 1) 0
        let (stop, next, ended) := close (src.size + 1) body 0
        (.text (unescape (replaceNul (sliceChars src body stop)) false), next, ended)
      else
        let (stop, next, ended) := readToClose src j
        (commentOf j stop, next, ended)

/-- The text between `a` and `b` as a text token, with its references decoded. -/
def textToken (src : Array Char) (a b : Nat) : Token := .text (unescape (sliceChars src a b) false)

/-- Reads the markup at `i`, where a `<` is followed by a letter, `/`, `!` or `?`. -/
def Tokenizer.markup (t : Tokenizer) (i : Nat) : Token × Tokenizer :=
  let src := t.src
  let finish (tok : Token) (next : Nat) (ended : Bool) : Token × Tokenizer :=
    (tok, { t with pos := next, ended := ended })
  match src[i + 1]? with
  | some '/' =>
    match src[i + 2]? with
    | none => finish (textToken src i src.size) src.size true
    | some '>' => finish (.comment "") (i + 3) false
    | some c =>
      if isLetter c then
        match readTag src (i + 2) with
        | some (name, _, next) => finish (.endTag name) next false
        | none => finish .eof src.size true
      else
        let (stop, next, ended) := readToClose src (i + 2)
        finish (.comment (unescape (replaceNul (sliceChars src (i + 2) stop)) false)) next ended
  | some '!' =>
    let (tok, next, ended) := readDeclaration src t.allowCDATA (i + 2)
    finish tok next ended
  | some '?' =>
    let (stop, next, ended) := readToClose src (i + 1)
    finish (.comment (unescape (replaceNul (sliceChars src (i + 1) stop)) false)) next ended
  | _ =>
    match readTag src (i + 1) with
    | some (name, attrs, next) =>
      let selfClosing := next ≥ 2 && src[next - 2]? == some '/'
      let raw := if rawTextTags.contains name then name else ""
      (.startTag name attrs selfClosing, { t with pos := next, rawTag := raw })
    | none => finish .eof src.size true

def Tokenizer.plain (t : Tokenizer) : Token × Tokenizer :=
  let src := t.src
  let start := t.pos
  match findMarkup src (src.size + 1) start with
  | none =>
    if start < src.size then (textToken src start src.size, { t with pos := src.size, ended := true })
    else (.eof, { t with pos := src.size, ended := true })
  | some i =>
    if start < i then (textToken src start i, { t with pos := i })
    else t.markup i

def Tokenizer.next (t : Tokenizer) : Token × Tokenizer :=
  if t.ended then (.eof, t) else
  let src := t.src
  let start := t.pos
  if t.rawTag == "" then t.plain
  else if t.rawTag == "plaintext" then
    let t' := { t with pos := src.size, ended := true, rawTag := "" }
    if start < src.size then (.text (String.ofList (replaceNul (sliceChars src start src.size))), t')
    else (.eof, t')
  else
    let tag := t.rawTag.toList
    let (stop, ended) :=
      if t.rawTag == "script" then readScript src (3 * src.size + 3) .data start
      else readRaw src tag (src.size + 1) start
    let body := replaceNul (sliceChars src start stop)
    let text :=
      if t.rawTag == "textarea" || t.rawTag == "title" then unescape body false
      else String.ofList body
    let t' := { t with pos := stop, ended := ended, rawTag := "" }
    if start < stop then (.text text, t')
    else if ended then (.eof, t')
    else t'.plain

end Bindery.Markup.Html
