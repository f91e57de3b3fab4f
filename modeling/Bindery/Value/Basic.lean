import Bindery.Json.Basic
import Bindery.Fault
import Bindery.Host.Signature
import Bindery.Directive.Basic
import Bindery.Expression.Engine
import Bindery.Time.Instant

/-!
# Values

A value of the runtime is a datum (nil, booleans, numbers, text, bytes, lists, shared tables,
moments, durations, named integers such as months, time zones, and maps keyed by any values), a reference to an object the runtime keeps
(boxes, settings, containers, registries, scopes, markup nodes), a function, or a failure. Shared
tables and objects are named by their number in the runtime's state, so that two holders of one
table see each other's writes; lists are immutable and carry an identity of their own.

Functions come in two families. An *invocable* declares the names of its dependencies and says
what it does when called (`Act`). A *host function* is a plain function with a signature
(`HostFn`); calling it checks its arguments first.
-/

namespace Bindery

/-- The fixture functions a request can name by signature. -/
inductive Sig where
  | intInc
  | intPair
  | strConcat
  | strUpper
  | variadic
  | recvStr
  | none
  | thunk
  | errNil
  | errFail
  | pair
  | pairBad
  | triple
  | boxAppend
  | boxNew
  | panics
deriving BEq, Repr, Inhabited

def Sig.ofName? : String → Option Sig
  | "int_inc" => some .intInc
  | "int_pair" => some .intPair
  | "str_concat" => some .strConcat
  | "str_upper" => some .strUpper
  | "variadic" => some .variadic
  | "recv_str" => some .recvStr
  | "none" => some .none
  | "thunk" => some .thunk
  | "err_nil" => some .errNil
  | "err_fail" => some .errFail
  | "pair" => some .pair
  | "pair_bad" => some .pairBad
  | "triple" => some .triple
  | "box_append" => some .boxAppend
  | "box_new" => some .boxNew
  | "panic" => some .panics
  | _ => Option.none

def Sig.signature : Sig → Signature
  | .intInc => ⟨[.int], false, [.int]⟩
  | .intPair => ⟨[.int, .int], false, [.int]⟩
  | .strConcat => ⟨[.string, .string], false, [.string]⟩
  | .strUpper => ⟨[.string], false, [.string]⟩
  | .variadic => ⟨[.any], true, [.anyList]⟩
  | .recvStr => ⟨[.any, .string], false, [.string]⟩
  | .none => ⟨[], false, []⟩
  | .thunk => ⟨[], false, [.any]⟩
  | .errNil => ⟨[], false, [.error]⟩
  | .errFail => ⟨[], false, [.error]⟩
  | .pair => ⟨[.any], false, [.any, .error]⟩
  | .pairBad => ⟨[], false, [.int, .int]⟩
  | .triple => ⟨[], false, [.int, .int, .error]⟩
  | .boxAppend => ⟨[.box], false, []⟩
  | .boxNew => ⟨[], false, [.box]⟩
  | .panics => ⟨[], false, [.any]⟩

/-- The shapes of scripted callables handed to scopes and translators. -/
inductive Form where
  | scopeValueError
  | scopeValue
  | scopeError
  | scopeVoid
  | parseFunc
  | envLocals
  | envValueError
  | envValue
  | thunk
  | thunkError
  | errorOnly
  | action
  | intFn
deriving BEq, Repr, Inhabited

/-- The form of a name; the default is a scope function returning a value and an error. -/
def Form.ofName : String → Form
  | "scope_any" => .scopeValue
  | "scope_err" => .scopeError
  | "scope_void" => .scopeVoid
  | "parse_func" => .parseFunc
  | "env_locals" => .envLocals
  | "env_any_err" => .envValueError
  | "env_any" => .envValue
  | "thunk" => .thunk
  | "thunk_err" => .thunkError
  | "err_only" => .errorOnly
  | "action" => .action
  | "other_func" => .intFn
  | _ => .scopeValueError

def Form.signature : Form → Signature
  | .scopeValueError => ⟨[.scope], false, [.any, .error]⟩
  | .scopeValue => ⟨[.scope], false, [.any]⟩
  | .scopeError => ⟨[.scope], false, [.error]⟩
  | .scopeVoid => ⟨[.scope], false, []⟩
  | .parseFunc => ⟨[.env, .locals], false, [.any, .error]⟩
  | .envLocals => ⟨[.env, .locals], false, [.any, .error]⟩
  | .envValueError => ⟨[.env], false, [.any, .error]⟩
  | .envValue => ⟨[.env], false, [.any]⟩
  | .thunk => ⟨[], false, [.any]⟩
  | .thunkError => ⟨[], false, [.any, .error]⟩
  | .errorOnly => ⟨[], false, [.error]⟩
  | .action => ⟨[], false, []⟩
  | .intFn => ⟨[.int], false, [.int]⟩

inductive RecorderShape where
  | nodesError
  | nodes
  | node
deriving BEq, Repr, Inhabited

inductive HostFn where
  | fixture (s : Sig) (label : String)
  | boxInit (spec : Json) (deps : Nat)
  | settingInit (spec : Json) (deps : Nat)
  | registryInit
  | appInit
  | buildRoot (provider : Nat)
  | buildTranslator (provider : Nat)
  | directiveThunk (spec : Json)
  | recorder (shape : RecorderShape) (label : String) (fail : Option String)
  | reporter (name : String)
  | scripted (form : Form) (spec : Json) (counter : Nat) (home : Nat)
  | probe (form : Form) (spec : Json)
  | listener (spec : Json) (counter : Nat) (watcher : Nat)
  | flushApplyQueue (scope : Nat)
  | afterDigest (spec : Json) (scope : Nat)
deriving Inhabited

def HostFn.signature : HostFn → Signature
  | .fixture s _ => s.signature
  | .boxInit _ deps =>
    match deps with
    | 0 => ⟨[.box], false, [.error]⟩
    | 1 => ⟨[.box, .any], false, [.error]⟩
    | 2 => ⟨[.box, .any, .any], false, [.error]⟩
    | _ => ⟨[.box, .any], true, [.error]⟩
  | .settingInit _ deps =>
    match deps with
    | 0 => ⟨[.setting], false, [.error]⟩
    | 1 => ⟨[.setting, .any], false, [.error]⟩
    | _ => ⟨[.setting, .any, .any], false, [.error]⟩
  | .registryInit => ⟨[.registry, .provide], false, []⟩
  | .appInit => ⟨[.app], false, []⟩
  | .buildRoot _ => ⟨[.translator], false, [.scope]⟩
  | .buildTranslator _ => ⟨[], false, [.parser]⟩
  | .directiveThunk _ => ⟨[], false, [.any]⟩
  | .recorder .nodesError _ _ => ⟨[.nodes], false, [.error]⟩
  | .recorder .nodes _ _ => ⟨[.nodes], false, []⟩
  | .recorder .node _ _ => ⟨[.node], false, []⟩
  | .reporter _ => ⟨[.nodes], false, [.error]⟩
  | .scripted form _ _ _ => form.signature
  | .probe form _ => form.signature
  | .listener .. => ⟨[.any, .any, .scope], false, []⟩
  | .flushApplyQueue _ => ⟨[], false, []⟩
  | .afterDigest _ _ => ⟨[], false, []⟩

inductive Make where
  | box (label : String)
  | setting
  | directive (d : DirectiveObject)
  | registry
  | app
deriving Inhabited

/-- How a constructor initialises the object it allocated. -/
inductive Init where
  | host (f : HostFn)
  | script (spec : Json)
deriving Inhabited

/-- A two-phase constructor: dependency names, what to allocate (none for a constructor without
allocator), and the initialiser run on the new object with the dependencies (none for a
constructor that leaves the object as allocated). -/
structure Ctor where
  inject : List String
  make : Option Make
  init : Option Init
deriving Inhabited

/-- The two resolution tiers of an injector: the tier of providers and the tier of
instances. -/
inductive Tier where
  | providers
  | instances
deriving BEq, Repr, Inhabited

mutual

inductive Value where
  | nil
  | bool (b : Bool)
  | int (i : Int)
  | uint (n : Nat)
  | float (f : Float)
  | str (s : String)
  | bytes (bs : List Nat)
  | list (id : Nat) (items : List Value)
  | strings (items : List String)
  | table (id : Nat)
  | box (id : Nat)
  | setting (id : Nat)
  | container (tier : Tier)
  | provide
  | registry (id : Nat)
  | compiler (id : Nat)
  | rootProvider (id : Nat)
  | translatorProvider (id : Nat)
  | translator (t : Translator)
  | scope (id : Nat)
  | node (id : Nat)
  | descriptors (ds : List Descriptor)
  | definition (d : Definition) (byAddress : Bool)
  | noDefinition
  | directive (id : Nat)
  | app
  | invocable (inject : List String) (act : Act)
  | ctor (c : Ctor)
  | func (f : HostFn)
  | factoryProvider (fn : Value)
  | providerFunc (fn : Value)
  | brokenProvider (msg : String)
  | error (e : Fault)
  | time (t : Time.Instant)
  | duration (ns : Int)
  | named (type : String) (i : Int)
  | zone (z : Time.Zone)
  | keyed (entries : List (Value × Value)) (groups : Bool)

/-- What an invocable does when called with a receiver and its dependencies. -/
inductive Act where
  | script (spec : Json)
  | reflect (fn : Value)
  | yield (v : Value)
  | instantiate (c : Ctor)
  | delegate (fn : Value)
  | decorate (inner provider fn : Value)
  | offer (setting : Nat)
  | compile (registry : Nat)
  | describe (registry : Nat) (name : String)
  | initialise (c : Ctor)
  | makeDirective (spec : Json)
  | nothing

end

instance : Inhabited Value := ⟨.nil⟩

/-- The callable form of anything a scope or a translator accepts: a function of an environment
and locals returning a value or failing. -/
inductive Callable where
  | noop
  | fails (e : Fault)
  | program (engine : Engine) (source : String) (p : Program)
  | host (f : HostFn)
deriving Inhabited

end Bindery
