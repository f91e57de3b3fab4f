import Bindery.Expr.Eval
import Bindery.Expr.Optimize
import Bindery.Cel.Parse
import Bindery.Cel.Check
import Bindery.Cel.Host

/-!
# Compiling and running programs

An engine compiles source text into a program and runs a program against an environment of
named values. Empty text does not compile. Failures name the engine and the source.

The default language checks a program when it compiles it, then simplifies it the way its engine
does before running it, and an engine with a program cache keeps it under `expr:<source>`. The
typed language only parses at compile time: it checks when a program first runs, against the
names of the environment (every variable being of type `dyn`), so an engine with a cache keeps
the checked program under
`cel:<sorted names, comma-separated>:<source>`.
-/

namespace Bindery

def cachedProgram? (cache : Option Nat) (key : String) : Run (Option Program) := do
  match cache with
  | none => pure none
  | some id =>
    pure ((((← get).caches[id]?.map (·.entries)).getD []).find? (·.1 == key) |>.map (·.2))

def cacheProgram (cache : Option Nat) (key : String) (p : Program) : Run Unit :=
  match cache with
  | none => pure ()
  | some id => modify fun w => { w with caches := w.caches.modify id fun c =>
      { c with entries := (c.entries.filter (·.1 != key)) ++ [(key, p)] } }

/-- The names of the functions an engine offers: the helpers and `call`, when it has a
registry. -/
def Engine.functionNames (e : Engine) : List String :=
  match e.helpers with
  | some hs => callHelperName :: hs.map (·.1)
  | none => []

/-- The failure of an engine on a source, with the text of a diagnostic. -/
def diagnosticFault (e : Engine) (source : String) (d : Expr.Diag) : Fault :=
  .evaluation e.language.name source (.text (d.render source))

/-- Compiles source text of the default language with an engine's functions, checks it and
simplifies it, without looking at a cache. -/
def Engine.compileExpr (e : Engine) (source : String) : Except Fault Program :=
  let functions := e.functionNames
  match Expr.parse source functions with
  | .error d => .error (diagnosticFault e source d)
  | .ok t =>
    match Expr.check functions t source.length with
    | some d => .error (diagnosticFault e source d)
    | none =>
      match Expr.optimize functions t source.length with
      | .error d => .error (diagnosticFault e source d)
      | .ok t => .ok (.expr t source.length e.helpers)

def Engine.compileSource (e : Engine) (source : String) : Run (Except Fault Program) := do
  if source.isEmpty then
    return .error (Fault.engineFailure e.language.name (.text "expression must not be empty"))
  match e.language with
  | .expr =>
    let key := "expr:" ++ source
    if let some p ← cachedProgram? e.cache key then return .ok p
    match e.compileExpr source with
    | .error f => pure (.error f)
    | .ok p =>
      cacheProgram e.cache key p
      pure (.ok p)
  | .cel =>
    match Cel.parse source with
    | .error issues => pure (.error (.evaluation "cel" source (.text (Cel.renderIssues source issues))))
    | .ok t => pure (.ok (.cel t e.helpers))

/-- The failure of the typed language on a source, with a message. -/
def celFault (source : String) (message : String) : Fault :=
  .evaluation "cel" source (.text message)

/-- The key a checked program of the typed language is cached under: the sorted names of the
environment, comma-separated, then the source. -/
def celKey (names : List String) (source : String) : String :=
  "cel:" ++ ",".intercalate (names.mergeSort fun a b => decide (a ≤ b)) ++ ":" ++ source

/-- Checks a parsed term of the typed language against the names of an environment, every
variable being of type `dyn` (`call` is the registry's when the engine has one), without
looking at a cache. -/
def Engine.checkCel (e : Engine) (source : String) (t : Cel.Term) (names : List String) :
    Except Fault Cel.Term :=
  let names := names.mergeSort fun a b => decide (a ≤ b)
  let vars := if e.helpers.isSome then names.filter (· != callHelperName) else names
  match Cel.check ⟨vars, e.helpers.isSome⟩ source t with
  | .error issues => .error (celFault source (Cel.renderIssues source issues))
  | .ok checked => .ok checked

/-- The checked program of the typed language for an environment's names, with the helpers its
calls reach: from the cache, or checked now (and then cached). -/
def Engine.checkedCel (e : Engine) (source : String) (t : Cel.Term) (names : List String) :
    Run (Except Fault (Cel.Term × Option Helpers)) := do
  let key := celKey names source
  if let some (.cel checked hs) ← cachedProgram? e.cache key then return .ok (checked, hs)
  match e.checkCel source t names with
  | .error f => pure (.error f)
  | .ok checked =>
    cacheProgram e.cache key (.cel checked e.helpers)
    pure (.ok (checked, e.helpers))

def Engine.runSource (e : Engine) (source : String) (p : Program) (env : List (String × Value)) :
    Run (Except Fault Value) := do
  match p with
  | .expr t size hs =>
    match ← Expr.run t size env hs with
    | .ok v => pure (.ok v)
    | .error d => pure (.error (diagnosticFault e source d))
  | .cel t _ =>
    match ← e.checkedCel source t (env.map (·.1)) with
    | .error f => pure (.error f)
    | .ok (checked, hs) =>
      match ← Cel.runChecked hs source checked env with
      | .ok v => pure (.ok v)
      | .error m => pure (.error (celFault source m))

end Bindery
