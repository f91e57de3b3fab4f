/-!
# Syntax of the dynamic expression language

Tokens and terms of the default expression language. Every token and term records the
character offset it starts at; diagnostics point there.
-/

namespace Bindery.Expr

inductive Kind where
  | identifier
  | number
  | string
  | operator
  | bracket
  | eof
deriving BEq, Repr, Inhabited

def Kind.name : Kind → String
  | .identifier => "Identifier"
  | .number => "Number"
  | .string => "String"
  | .operator => "Operator"
  | .bracket => "Bracket"
  | .eof => "EOF"

/-- A token: its kind, its text (the value of a string literal), and the character offset it
starts at. -/
structure Token where
  kind : Kind
  value : String
  pos : Nat
deriving Inhabited

/-- Whether a token has a kind and, when given, one of some texts. -/
def Token.is (t : Token) (k : Kind) (values : List String := []) : Bool :=
  t.kind == k && (values.isEmpty || values.contains t.value)

inductive Term where
  | nil (pos : Nat)
  | bool (b : Bool) (pos : Nat)
  | int (i : Int) (pos : Nat)
  | float (f : Float) (pos : Nat)
  | str (s : String) (pos : Nat)
  | ident (name : String) (pos : Nat)
  | pointer (name : String) (pos : Nat)
  | unary (op : String) (arg : Term) (pos : Nat)
  | binary (op : String) (lhs rhs : Term) (pos : Nat)
  | member (target key : Term) (optional : Bool) (pos : Nat)
  | slice (target : Term) (lo hi : Option Term) (pos : Nat)
  | call (callee : Term) (args : List Term) (pos : Nat)
  | builtin (name : String) (args : List Term) (pos : Nat)
  | predicate (body : Term) (pos : Nat)
  | cond (test yes no : Term) (pos : Nat)
  | array (items : List Term) (pos : Nat)
  | map (pairs : List (Term × Term)) (pos : Nat)
  | sequence (items : List Term) (pos : Nat)
  | letIn (name : String) (value body : Term) (pos : Nat)
  | chain (t : Term) (pos : Nat)
  | constList (items : List Term) (pos : Nat)
  | textSet (items : List String) (pos : Nat)
  | pick (source pred : Term) (mapped : Option Term) (last : Bool) (pos : Nat)
  | filterMap (source pred mapped : Term) (pos : Nat)
deriving Inhabited

def Term.pos : Term → Nat
  | .nil p | .bool _ p | .int _ p | .float _ p | .str _ p | .ident _ p | .pointer _ p
  | .unary _ _ p | .binary _ _ _ p | .member _ _ _ p | .slice _ _ _ p | .call _ _ p
  | .builtin _ _ p | .predicate _ p | .cond _ _ _ p | .array _ p | .map _ p | .sequence _ p
  | .letIn _ _ _ p | .chain _ p | .constList _ p | .textSet _ p | .pick _ _ _ _ p
  | .filterMap _ _ _ p => p

/-- A term moved to another offset: the term that stands in for another points where it did. -/
def Term.withPos (t : Term) (p : Nat) : Term :=
  match t with
  | .nil _ => .nil p
  | .bool b _ => .bool b p
  | .int i _ => .int i p
  | .float x _ => .float x p
  | .str s _ => .str s p
  | .ident n _ => .ident n p
  | .pointer n _ => .pointer n p
  | .unary op a _ => .unary op a p
  | .binary op l r _ => .binary op l r p
  | .member a k o _ => .member a k o p
  | .slice a lo hi _ => .slice a lo hi p
  | .call c args _ => .call c args p
  | .builtin n args _ => .builtin n args p
  | .predicate b _ => .predicate b p
  | .cond a b c _ => .cond a b c p
  | .array items _ => .array items p
  | .map pairs _ => .map pairs p
  | .sequence items _ => .sequence items p
  | .letIn n v b _ => .letIn n v b p
  | .chain i _ => .chain i p
  | .constList items _ => .constList items p
  | .textSet items _ => .textSet items p
  | .pick s q m l _ => .pick s q m l p
  | .filterMap s q m _ => .filterMap s q m p

end Bindery.Expr
