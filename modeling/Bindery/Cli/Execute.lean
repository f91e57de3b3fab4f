import Bindery.Cli.Commands
import Bindery.Config
import Bindery.Core
import Bindery.Dispatch
import Bindery.Injector.Load
import Bindery.Yaml.Value
import Bindery.Markup.Forest
import Bindery.Markup.Render
import Bindery.Value.Encode

/-!
# Running commands

A command runs against the files it may read, given by path. Both working commands first settle
the configuration: the file `--config` names (when it does) read and validated over the defaults,
then the engine, log level and positive round limit the flags give, validated again.

`eval` builds the core module with a metrics observer on the root scope, bootstraps an injector
on it, sets each `--set name=value` on the root scope (the value read as a YAML document), applies
the expression and prints the result; with `--stats` it then prints the metric lines.

`compile` reads the markup and the directive manifest (a YAML document whose `directives` table
maps names to definitions), registers each definition in a module beside the core module with a
compile function that prints the directive's name and the tag names of its nodes, compiles the
markup and, with `--render`, prints it.

A failure stops the command: its message goes to standard error and the exit status is one.
-/

namespace Bindery.Cli

abbrev Files := List (String × String)

def cleanPath (path : String) : String :=
  let rec strip : Nat → List Char → List Char
    | 0, cs => cs
    | fuel + 1, '.' :: '/' :: rest => strip fuel (rest.dropWhile (· == '/'))
    | _, cs => cs
  String.ofList (strip path.length path.toList)

def Files.read? (files : Files) (path : String) : Option String := files.lookup (cleanPath path)

def missingFile (path : String) : String := "open " ++ path ++ ": no such file or directory"

def readFile (files : Files) (path : String) : Run String :=
  match files.read? path with
  | some text => pure text
  | none => Run.fail (.text (missingFile path))

/-- The configuration a command runs with: the file's, or the defaults, with the flags' engine,
log level and positive round limit over it, validated. -/
def runtimeConfig (files : Files) (o : Options) : Run Config := do
  let mut cfg : Config := {}
  if !o.configPath.isEmpty then
    let text ← match files.read? o.configPath with
      | some text => pure text
      | none => Run.fail (.text ("open config: " ++ missingFile o.configPath))
    cfg ← Run.ofExcept (loadConfig text)
  if !o.engine.isEmpty then cfg := { cfg with engine := o.engine }
  if !o.logLevel.isEmpty then cfg := { cfg with logLevel := o.logLevel }
  if o.digestTTL > 0 then cfg := { cfg with digestTTL := o.digestTTL }
  Run.ofExcept cfg.validate

def engineOf (cfg : Config) : Run Engine :=
  match Engine.byName cfg.engine with
  | .ok e => pure e
  | .error e => Run.fail (.within "opular: " e)

/-- Splits `name=value` at its first `=`; none without one. -/
def splitAssignment (a : String) : Option (String × String) :=
  let cs := a.toList
  if cs.contains '=' then
    some (String.ofList (cs.takeWhile (· != '=')), String.ofList ((cs.dropWhile (· != '=')).drop 1))
  else none

/-- Sets a variable on a scope from an assignment `name=value`, the value read as YAML. -/
def assign (scope : Nat) (a : String) : Run Unit := do
  let some (name, raw) := splitAssignment a
    | Run.fail (.text ("invalid --set " ++ Text.quoted a ++ ", want name=value"))
  if (Text.trim name).isEmpty then
    Run.fail (.text ("invalid --set " ++ Text.quoted a ++ ", want name=value"))
  match Yaml.readData raw with
  | .ok data => Scope.setVar scope (Text.trim name) (← data.value)
  | .error m => Run.fail (.text ("--set " ++ name ++ ": " ++ m))

def runEval (files : Files) (o : Options) (expression : String) (assignments : List String)
    (stats : Bool) : Run Unit := do
  let cfg ← runtimeConfig files o
  let engine ← engineOf cfg
  let registry := Injector.Registry.define [] (← coreModule engine cfg.rootTTL [.metrics])
  Injector.newWith machine registry [.str coreModuleName]
  let root ← machine.get .instances "_root_scope"
  let _ ← machine.get .instances "_compile"
  let scope ← match root with
    | .scope id => pure id
    | other => Run.fail (.text ("injector: " ++ other.typeName ++ " is not a scope"))
  for a in assignments do assign scope a
  let (result, failure) ← Scope.applyWith machine scope (.str expression)
  if let some e := failure then Run.fail e
  Run.print ((← plainText result) ++ "\n")
  if stats then Run.print (String.join (((← get).counts.lines false).map (· ++ "\n")))

/-- A directive manifest: each directive's name with the entries of its definition. -/
abbrev Manifest := List (String × List (String × Yaml.Data))

def manifestTypeName : String := "main.manifest"

/-- The shape a manifest document decodes into: a record whose `directives` field is a table of
definitions, each a table of data. -/
def manifestShape : Yaml.Shape :=
  .record manifestTypeName [("directives", .table (.table .any))] false

def readManifest (source : String) : Except String Manifest :=
  match Yaml.readInto manifestShape source with
  | .error m => .error m
  | .ok none => .ok []
  | .ok (some fields) =>
    let directives := match fields with
      | .table fs => fs.lookup "directives"
      | _ => none
    let definitions : Manifest := match directives with
      | some (.table ds) => ds.map fun (name, d) => (name, match d with
        | .table entries => entries
        | _ => [])
      | _ => []
    .ok (definitions.mergeSort fun a b => decide (a.1 ≤ b.1))

/-- The table a manifest entry registers: its entries, with a compile function reporting the
directive's applications in place of any `compile` entry. -/
def definitionTable (name : String) (entries : List (String × Yaml.Data)) : Run Value := do
  let values ← Yaml.Data.entryValues (entries.filter (·.1 != "compile"))
  Run.newTable (values ++ [("compile", .func (.reporter name))])

def manifestModuleName : String := "cli"

def runCompile (files : Files) (o : Options) (page manifestPath : String) (render : Bool) :
    Run Unit := do
  let markup ← readFile files page
  let manifest ← if manifestPath.isEmpty then pure [] else do
    match readManifest (← readFile files manifestPath) with
    | .ok m => pure m
    | .error m => Run.fail (.text ("decode directives: " ++ m))
  let cfg ← runtimeConfig files o
  let engine ← engineOf cfg
  let core ← coreModule engine cfg.rootTTL []
  let directives ← manifest.mapM fun (name, entries) => do
    pure (Injector.Queued.directive name (← definitionTable name entries))
  let module : Injector.Module :=
    { name := manifestModuleName, requires := [coreModuleName], queue := directives }
  let registry := (Injector.Registry.define [] core).define module
  Injector.newWith machine registry [.str coreModuleName, .str manifestModuleName]
  let _ ← machine.get .instances "_root_scope"
  let compiler ← machine.get .instances "_compile"
  let trees := Markup.Html.parse markup
  let roots ← Markup.plantTrees (markup.length + 1) trees
  if let .compiler c := compiler then
    Directive.runWith machine c ((← get).nodes.size + 1) roots
  if render then Run.print (Markup.Html.renderAll trees ++ "\n")

/-- What a run of the program leaves: its standard output and error, and its exit status. -/
structure Outcome where
  stdout : String
  stderr : String
  exit : Nat
deriving Inhabited

def Invocation.paths : Invocation → List String
  | .eval o .. => [o.configPath].filter (!·.isEmpty)
  | .compile o page manifest _ => [page, manifest, o.configPath].filter (!·.isEmpty)
  | _ => []

def pathsOf (words : List String) : List String :=
  match readCommandLine words with
  | .ok inv => inv.paths
  | .error _ => []

def Invocation.perform (files : Files) : Invocation → Run Unit
  | .show text => Run.print text
  | .notice _ => pure ()
  | .eval o expression assignments stats => runEval files o expression assignments stats
  | .compile o page manifest render => runCompile files o page manifest render

def runProgram (files : Files) (words : List String) : Outcome :=
  match readCommandLine words with
  | .error m => { stdout := "", stderr := m ++ "\n", exit := 1 }
  | .ok inv =>
    let notice := match inv with
      | .notice text => text
      | _ => ""
    match (inv.perform files).run {} with
    | .ok _ w => { stdout := w.printed, stderr := notice, exit := 0 }
    | .error (.fault e) w => { stdout := w.printed, stderr := e.message ++ "\n", exit := 1 }
    | .error (.panic text) w => { stdout := w.printed, stderr := "panic: " ++ text ++ "\n", exit := 2 }
    | .error .exhausted w =>
      { stdout := w.printed, stderr := "runtime: goroutine stack exceeds 1000000000-byte limit\n", exit := 2 }

end Bindery.Cli
