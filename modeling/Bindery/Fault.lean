import Bindery.Text.Quoted
import Bindery.Decimal.Shortest

/-!
# Faults

A fault is the cause of a failed operation, kept as a tree: a cause may be wrapped in context
text, and several causes may be joined. `Fault.message` writes the tree as one text and
`Fault.kind` names the most specific cause found anywhere in it, by the fixed order of
`Fault.Kind`.
-/

namespace Bindery

inductive Sentinel where
  | notInvocable
  | notProvider
  | argumentType
  | moduleNotFound
  | unknownModuleType
  | invalidDirective
  | unknownEngine
  | engineUnavailable
  | functionExists
  | unknownFunction
deriving BEq, Repr, Inhabited

def Sentinel.text : Sentinel → String
  | .notInvocable => "injector: value is not invocable"
  | .notProvider => "injector: value is not a provider"
  | .argumentType => "injector: argument type mismatch"
  | .moduleNotFound => "injector: module not available"
  | .unknownModuleType => "injector: unknown module type"
  | .invalidDirective => "compile: invalid directive"
  | .unknownEngine => "parse: unknown engine"
  | .engineUnavailable => "parse: engine not available"
  | .functionExists => "parse: function already registered"
  | .unknownFunction => "parse: unknown function"

inductive Fault where
  | unknownProvider (path : List String)
  | circular (path : List String)
  | invalidToken (token : String)
  | phaseConflict (active requested : String)
  | digestLimit (ttl : Int)
  | evaluation (engine source : String) (cause : Fault)
  | sentinel (s : Sentinel)
  | text (message : String)
  | wrap (before : String) (inner : Fault) (after : String)
  | join (parts : List Fault)
deriving Inhabited

namespace Fault

def message : Fault → String
  | .unknownProvider path => "injector: unknown provider: " ++ " <- ".intercalate path
  | .circular path => "injector: circular dependency found: " ++ " <- ".intercalate path
  | .invalidToken token => "injector: invalid injection token: " ++ token
  | .phaseConflict active requested =>
    "scope: " ++ active ++ " already in progress (requested " ++ requested ++ ")"
  | .digestLimit ttl =>
    "scope: digest ttl reached: " ++ Decimal.intText ttl ++ " rounds"
  | .evaluation engine source cause =>
    let shown := if source.isEmpty then "expr=<empty>" else "expr=" ++ Text.quoted source
    "parse: " ++ engine ++ " engine " ++ shown ++ ": " ++ cause.message
  | .sentinel s => s.text
  | .text m => m
  | .wrap before inner after => before ++ inner.message ++ after
  | .join parts => "\n".intercalate (parts.map message)

/-- A sentinel followed by context, as `"<sentinel>: <context>"`. -/
def because (s : Sentinel) (context : String) : Fault := .wrap "" (.sentinel s) (": " ++ context)

def within (context : String) (inner : Fault) : Fault := .wrap context inner ""

/-- The kinds of fault that answers name, most specific first. -/
inductive Kind where
  | unknownProvider
  | circularDependency
  | invalidInjectionToken
  | phaseConflict
  | digestTTLExceeded
  | evaluationError
  | notInvocable
  | notProvider
  | argumentType
  | moduleNotFound
  | unknownModuleType
  | invalidDirective
  | unknownEngine
  | engineUnavailable
  | functionExists
  | unknownFunction
  | error
deriving BEq, Repr, Inhabited

def Kind.rank : Kind → Nat
  | .unknownProvider => 0
  | .circularDependency => 1
  | .invalidInjectionToken => 2
  | .phaseConflict => 3
  | .digestTTLExceeded => 4
  | .evaluationError => 5
  | .notInvocable => 6
  | .notProvider => 7
  | .argumentType => 8
  | .moduleNotFound => 9
  | .unknownModuleType => 10
  | .invalidDirective => 11
  | .unknownEngine => 12
  | .engineUnavailable => 13
  | .functionExists => 14
  | .unknownFunction => 15
  | .error => 16

def Kind.name : Kind → String
  | .unknownProvider => "UnknownProvider"
  | .circularDependency => "CircularDependency"
  | .invalidInjectionToken => "InvalidInjectionToken"
  | .phaseConflict => "PhaseConflict"
  | .digestTTLExceeded => "DigestTTLExceeded"
  | .evaluationError => "EvaluationError"
  | .notInvocable => "NotInvocable"
  | .notProvider => "NotProvider"
  | .argumentType => "ArgumentType"
  | .moduleNotFound => "ModuleNotFound"
  | .unknownModuleType => "UnknownModuleType"
  | .invalidDirective => "InvalidDirective"
  | .unknownEngine => "UnknownEngine"
  | .engineUnavailable => "EngineUnavailable"
  | .functionExists => "FunctionExists"
  | .unknownFunction => "UnknownFunction"
  | .error => "Error"

def kindOfSentinel : Sentinel → Kind
  | .notInvocable => .notInvocable
  | .notProvider => .notProvider
  | .argumentType => .argumentType
  | .moduleNotFound => .moduleNotFound
  | .unknownModuleType => .unknownModuleType
  | .invalidDirective => .invalidDirective
  | .unknownEngine => .unknownEngine
  | .engineUnavailable => .engineUnavailable
  | .functionExists => .functionExists
  | .unknownFunction => .unknownFunction

def Kind.min (a b : Kind) : Kind := if a.rank ≤ b.rank then a else b

mutual

def kind : Fault → Kind
  | .unknownProvider _ => .unknownProvider
  | .circular _ => .circularDependency
  | .invalidToken _ => .invalidInjectionToken
  | .phaseConflict _ _ => .phaseConflict
  | .digestLimit _ => .digestTTLExceeded
  | .evaluation _ _ cause => Kind.min .evaluationError cause.kind
  | .sentinel s => kindOfSentinel s
  | .text _ => .error
  | .wrap _ inner _ => inner.kind
  | .join parts => kindOfAll parts

def kindOfAll : List Fault → Kind
  | [] => .error
  | p :: ps => Kind.min p.kind (kindOfAll ps)

end

mutual

def isDigestLimit : Fault → Bool
  | .digestLimit _ => true
  | .evaluation _ _ cause => cause.isDigestLimit
  | .wrap _ inner _ => inner.isDigestLimit
  | .join parts => anyDigestLimit parts
  | _ => false

def anyDigestLimit : List Fault → Bool
  | [] => false
  | p :: ps => p.isDigestLimit || anyDigestLimit ps

end

mutual

/-- The expression failure inside a fault, if there is one: the first found by a depth-first
search. -/
def findEvaluation : Fault → Option (String × String × Fault)
  | .evaluation engine source cause => some (engine, source, cause)
  | .wrap _ inner _ => inner.findEvaluation
  | .join parts => findEvaluationIn parts
  | _ => none

def findEvaluationIn : List Fault → Option (String × String × Fault)
  | [] => none
  | p :: ps => match p.findEvaluation with
    | some r => some r
    | none => findEvaluationIn ps

end

/-- A failure of an engine, given the engine's name and the expression: an expression failure
already present is kept (with its missing names filled in), anything else is wrapped. -/
def evaluationIn (engine source : String) (cause : Fault) : Fault :=
  match cause.findEvaluation with
  | some (e, s, c) =>
    .evaluation (if e.isEmpty then engine else e) (if s.isEmpty then source else s) c
  | none => .evaluation engine source cause

/-- A failure of an engine without an expression: kept when it is an expression failure or
already names the parse layer, wrapped otherwise. -/
def engineFailure (engine : String) (cause : Fault) : Fault :=
  if cause.findEvaluation.isSome || cause.message.startsWith "parse:" then cause
  else .wrap ("parse: " ++ engine ++ " engine: ") cause ""

end Fault

end Bindery
