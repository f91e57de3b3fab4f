/-!
# YAML tokens

The text of a YAML stream splits into tokens: the indicators of block and flow collections,
document markers, directives, anchors, aliases, tags and scalars. Block structure, which the text
shows by indentation only, is made explicit by tokens that open and close block collections.

Every token carries the marks where it starts and stops. A mark counts characters, lines and
columns from zero; a line break written as carriage return and line feed counts two characters
but one line.

A reading error names the problem, the mark where it was found, and the mark of the construct it
was found in, when there is one. Messages show one line number, from the mark of the construct if
that is past the first line and from the problem's mark otherwise; errors found while splitting
the text into tokens count lines from one, errors in the arrangement of tokens from zero, and no
line is shown when the count is zero.
-/

namespace Bindery.Yaml

/-- A position in a text: the characters before it, its line and its column, from zero. -/
structure Mark where
  index : Nat := 0
  line : Nat := 0
  column : Nat := 0
deriving Inhabited, BEq, Repr

inductive ScalarStyle where
  | plain
  | singleQuoted
  | doubleQuoted
  | literal
  | folded
deriving Inhabited, BEq, Repr

inductive TokenKind where
  | streamStart
  | streamEnd
  | versionDirective (major minor : Nat)
  | tagDirective (handle expansion : String)
  | documentStart
  | documentEnd
  | blockSequenceStart
  | blockMappingStart
  | blockEnd
  | flowSequenceStart
  | flowSequenceEnd
  | flowMappingStart
  | flowMappingEnd
  | blockEntry
  | flowEntry
  | key
  | value
  | alias (name : String)
  | anchor (name : String)
  | tag (handle suffix : String)
  | scalar (text : String) (style : ScalarStyle)
deriving Inhabited, BEq, Repr

structure Token where
  kind : TokenKind
  start : Mark
  stop : Mark
deriving Inhabited, Repr

structure ReadError where
  scanning : Bool
  context : String := ""
  contextMark : Mark := {}
  problemMark : Mark := {}
  problem : String
deriving Inhabited, Repr

def ReadError.shownLine (e : ReadError) : Option Nat :=
  let base := if e.contextMark.line != 0 then e.contextMark.line else e.problemMark.line
  if base == 0 then none else some (if e.scanning then base + 1 else base)

def isBreak (c : Char) : Bool :=
  c == '\r' || c == '\n' || c == '\u0085' || c == '\u2028' || c == '\u2029'

def isBlank (c : Char) : Bool := c == ' ' || c == '\t'

def endChar : Char := '\x00'

/-- Whether a character is a blank, a line break or the end of the text. -/
def isBlankZ (c : Char) : Bool := isBlank c || isBreak c || c == endChar

/-- Whether a character is a line break or the end of the text. -/
def isBreakZ (c : Char) : Bool := isBreak c || c == endChar

/-- Whether a character may appear in a directive name or a tag handle: letters, digits, `_`
and `-`. -/
def isWordChar (c : Char) : Bool := c.isAlphanum || c == '_' || c == '-'

/-- Whether a character opens or closes a flow collection or separates its entries. -/
def isFlowIndicator (c : Char) : Bool :=
  c == '[' || c == ']' || c == '\x7b' || c == '\x7d' || c == ','

/-- Whether a character may appear in an anchor name: any printable character but blanks and
the flow indicators. -/
def isAnchorChar (c : Char) : Bool :=
  ((0x21 ≤ c.toNat && c.toNat ≤ 0x7E) || 0x80 ≤ c.toNat) && !isFlowIndicator c

/-- Whether a character may stand in YAML text at all: tab, the line breaks, printable ASCII, and
the rest of Unicode but controls, surrogates and the two non-characters at the end of the basic
plane. -/
def isPrintable (c : Char) : Bool :=
  let n := c.toNat
  n == 0x09 || n == 0x0A || n == 0x0D || (0x20 ≤ n && n ≤ 0x7E) || n == 0x85 ||
    (0xA0 ≤ n && n ≤ 0xD7FF) || (0xE000 ≤ n && n ≤ 0xFFFD) || (0x10000 ≤ n && n ≤ 0x10FFFF)

end Bindery.Yaml
