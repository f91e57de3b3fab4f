/-!
# Syntax of the typed expression language

Tokens and terms of the second expression language. Token kinds carry their number in the
grammar, which orders the sets of expected tokens that syntax errors print. Terms are the
expanded syntax the checker and the evaluator work on: literals of the language's own types
(signed and unsigned integers, doubles, strings, bytes, null), identifiers, field selection and
presence tests, calls of functions and operators (with a receiver for method calls), list, map
and message literals, and comprehensions, into which the macros `all`, `exists`, `exists_one`,
`map` and `filter` expand. Every term carries the character offset that diagnostics point at.
-/

namespace Bindery.Cel

inductive Kind where
  | equals | notEquals | inKw | less | lessEquals | greaterEquals | greater
  | logicalAnd | logicalOr
  | lbracket | rbracket | lbrace | rbrace | lparen | rparen
  | dot | comma | minus | exclam | question | colon
  | plus | star | slash | percent
  | trueKw | falseKw | nullKw
  | whitespace | comment
  | numFloat | numInt | numUint | string | bytes | identifier | escIdentifier
  | eof
deriving BEq, Repr, Inhabited, DecidableEq

/-- The number of a token kind in the grammar; the end of input is `-1`. -/
def Kind.number : Kind → Int
  | .equals => 1 | .notEquals => 2 | .inKw => 3 | .less => 4 | .lessEquals => 5
  | .greaterEquals => 6 | .greater => 7 | .logicalAnd => 8 | .logicalOr => 9
  | .lbracket => 10 | .rbracket => 11 | .lbrace => 12 | .rbrace => 13 | .lparen => 14
  | .rparen => 15 | .dot => 16 | .comma => 17 | .minus => 18 | .exclam => 19
  | .question => 20 | .colon => 21 | .plus => 22 | .star => 23 | .slash => 24
  | .percent => 25 | .trueKw => 26 | .falseKw => 27 | .nullKw => 28 | .whitespace => 29
  | .comment => 30 | .numFloat => 31 | .numInt => 32 | .numUint => 33 | .string => 34
  | .bytes => 35 | .identifier => 36 | .escIdentifier => 37 | .eof => -1

/-- How a token kind is named in messages: its quoted text when it has a fixed one, otherwise
its grammar name. -/
def Kind.display : Kind → String
  | .equals => "'=='" | .notEquals => "'!='" | .inKw => "'in'" | .less => "'<'"
  | .lessEquals => "'<='" | .greaterEquals => "'>='" | .greater => "'>'"
  | .logicalAnd => "'&&'" | .logicalOr => "'||'" | .lbracket => "'['" | .rbracket => "']'"
  | .lbrace => "'\x7b'" | .rbrace => "'\x7d'" | .lparen => "'('" | .rparen => "')'"
  | .dot => "'.'" | .comma => "','" | .minus => "'-'" | .exclam => "'!'"
  | .question => "'?'" | .colon => "':'" | .plus => "'+'" | .star => "'*'" | .slash => "'/'"
  | .percent => "'%'" | .trueKw => "'true'" | .falseKw => "'false'" | .nullKw => "'null'"
  | .whitespace => "WHITESPACE" | .comment => "COMMENT" | .numFloat => "NUM_FLOAT"
  | .numInt => "NUM_INT" | .numUint => "NUM_UINT" | .string => "STRING" | .bytes => "BYTES"
  | .identifier => "IDENTIFIER" | .escIdentifier => "ESC_IDENTIFIER" | .eof => "<EOF>"

def Kind.hidden : Kind → Bool
  | .whitespace | .comment => true
  | _ => false

/-- A token: its kind, its text and the character offset where it starts. -/
structure Token where
  kind : Kind
  text : String
  offset : Nat
deriving Inhabited, Repr

inductive Literal where
  | null
  | bool (b : Bool)
  | int (i : Int)
  | uint (n : Nat)
  | double (f : Float)
  | str (s : String)
  | bytes (bs : List Nat)
deriving Inhabited

inductive Term where
  | lit (v : Literal) (pos : Nat)
  | ident (name : String) (pos : Nat)
  | select (operand : Term) (field : String) (test : Bool) (pos : Nat)
  | call (fn : String) (target : Option Term) (args : List Term) (pos : Nat)
  | list (items : List Term) (pos : Nat)
  | map (entries : List (Term × Term)) (pos : Nat)
  | message (name : String) (fields : List (String × Nat × Term)) (pos : Nat)
  | comprehension (var : String) (range : Term) (accu : String) (init cond step result : Term)
      (pos : Nat)
  | invalid (pos : Nat)
deriving Inhabited

def Term.pos : Term → Nat
  | .lit _ p | .ident _ p | .select _ _ _ p | .call _ _ _ p | .list _ p | .map _ p
  | .message _ _ p | .comprehension _ _ _ _ _ _ _ p | .invalid p => p

def accumulatorName : String := "__result__"

end Bindery.Cel
