import Bindery.Cli.Flags
import Bindery.Text.Case
import Bindery.Decimal.Shortest

/-!
# The command tree

The program has two working commands, `eval` and `compile`, beside `help` and `completion`,
which has a command for each shell. The words of a command line are read in two passes. The
first finds the command: the first word that is neither a flag nor a flag's value names it (and
the next such word a shell, after `completion`), and a word that names no command is refused
with the commands it resembles. The second reads the command's own words against its flags and
the program-wide flags.

A command asked for help, or one that cannot run by itself, shows its help text instead of
running; the help text is the command's description, its usage line, its subcommands and its
flags, the flags aligned in columns.
-/

namespace Bindery.Cli

inductive CommandName where
  | root
  | completion
  | compile
  | eval
  | help
  | shell (name : String)
deriving BEq, Inhabited, Repr

def programName : String := "opular"

def programFlags : List Flag :=
  [{ name := "config", kind := .text, usage := "YAML runtime configuration file" },
   { name := "engine", kind := .text, usage := "expression engine: expr, cel or js" },
   { name := "log-level", kind := .text, usage := "log level: debug, info, warn or error" },
   { name := "digest-ttl", kind := .int, usage := "maximum digest rounds" }]

/-- A command: its word, its use line, its descriptions, its own flags, the number of arguments
it takes when it checks them, whether it runs by itself, and its subcommands' names and
descriptions. -/
structure Command where
  name : CommandName
  word : String
  use : String
  short : String
  long : String := ""
  flags : List Flag := []
  arity : Option Nat := none
  runnable : Bool := true
  children : List (String × String) := []
  bareUse : Bool := false

def subcommands : List CommandName := [.compile, .completion, .eval, .help]

/-- The shells the completion command writes scripts for, in name order. -/
def shells : List String := ["bash", "fish", "powershell", "zsh"]

def shellGuide : String → String
  | "bash" =>
    "Generate the autocompletion script for the bash shell.\n\n" ++
    "This script depends on the 'bash-completion' package.\n" ++
    "If it is not installed already, you can install it via your OS's package manager.\n\n" ++
    "To load completions in your current shell session:\n\n" ++
    "\tsource <(" ++ programName ++ " completion bash)\n\n" ++
    "To load completions for every new session, execute once:\n\n" ++
    "#### Linux:\n\n" ++
    "\t" ++ programName ++ " completion bash > /etc/bash_completion.d/" ++ programName ++ "\n\n" ++
    "#### macOS:\n\n" ++
    "\t" ++ programName ++ " completion bash > $(brew --prefix)/etc/bash_completion.d/" ++
      programName ++ "\n\n" ++
    "You will need to start a new shell for this setup to take effect.\n"
  | "zsh" =>
    "Generate the autocompletion script for the zsh shell.\n\n" ++
    "If shell completion is not already enabled in your environment you will need\n" ++
    "to enable it.  You can execute the following once:\n\n" ++
    "\techo \"autoload -U compinit; compinit\" >> ~/.zshrc\n\n" ++
    "To load completions in your current shell session:\n\n" ++
    "\tsource <(" ++ programName ++ " completion zsh)\n\n" ++
    "To load completions for every new session, execute once:\n\n" ++
    "#### Linux:\n\n" ++
    "\t" ++ programName ++ " completion zsh > \"$\x7bfpath[1]\x7d/_" ++ programName ++ "\"\n\n" ++
    "#### macOS:\n\n" ++
    "\t" ++ programName ++ " completion zsh > $(brew --prefix)/share/zsh/site-functions/_" ++
      programName ++ "\n\n" ++
    "You will need to start a new shell for this setup to take effect.\n"
  | "fish" =>
    "Generate the autocompletion script for the fish shell.\n\n" ++
    "To load completions in your current shell session:\n\n" ++
    "\t" ++ programName ++ " completion fish | source\n\n" ++
    "To load completions for every new session, execute once:\n\n" ++
    "\t" ++ programName ++ " completion fish > ~/.config/fish/completions/" ++ programName ++
      ".fish\n\n" ++
    "You will need to start a new shell for this setup to take effect.\n"
  | _ =>
    "Generate the autocompletion script for powershell.\n\n" ++
    "To load completions in your current shell session:\n\n" ++
    "\t" ++ programName ++ " completion powershell | Out-String | Invoke-Expression\n\n" ++
    "To load completions for every new session, add the output of the above command\n" ++
    "to your powershell profile.\n"

def CommandName.spec : CommandName → Command
  | .root =>
    { name := .root, word := programName, use := programName
      short := "Compile markup and evaluate expressions with the opular runtime"
      runnable := false }
  | .completion =>
    { name := .completion, word := "completion", use := "completion"
      short := "Generate the autocompletion script for the specified shell"
      long := "Generate the autocompletion script for " ++ programName ++
        " for the specified shell.\nSee each sub-command's help for details on how to use the generated script.\n"
      arity := some 0, runnable := false
      children := shells.map fun shell =>
        (shell, "Generate the autocompletion script for " ++ shell) }
  | .compile =>
    { name := .compile, word := "compile", use := "compile <file.html>"
      short := "Report the directives applied to an HTML fragment"
      long := "Parses the HTML file, registers the directives declared in the manifest\n" ++
        "and prints one line per directive application in compile order."
      flags := [{ name := "directives", shorthand := some 'd', kind := .text
                  usage := "YAML manifest of directive definitions" },
                { name := "render", kind := .switch, usage := "print the fragment after compilation" }]
      arity := some 1 }
  | .eval =>
    { name := .eval, word := "eval", use := "eval <expression>"
      short := "Evaluate an expression against a digested root scope"
      long := "Sets the given variables on a fresh root scope, applies the expression\n" ++
        "and prints its result once the digest settled. Values are parsed as YAML\n" ++
        "scalars, so --set n=2 yields a number and --set s=abc a string."
      flags := [{ name := "set", kind := .texts, usage := "scope variable as name=value (repeatable)" },
                { name := "stats", kind := .switch, usage := "print digest metrics after the result" }]
      arity := some 1 }
  | .shell sh =>
    { name := .shell sh, word := sh, use := "completion " ++ sh
      short := "Generate the autocompletion script for " ++ sh
      long := shellGuide sh
      flags := [{ name := "no-descriptions", kind := .switch, usage := "disable completion descriptions" }]
      arity := some 0, bareUse := true }
  | .help =>
    { name := .help, word := "help", use := "help [command]"
      short := "Help about any command"
      long := "Help provides help for any command in the application.\n" ++
        "Simply type " ++ programName ++ " help [path to command] for full details." }

/-- The subcommands a command lists, with their descriptions. -/
def Command.listed (c : Command) : List (String × String) :=
  if c.name == .root then subcommands.map fun n => (n.spec.word, n.spec.short) else c.children

def Command.helpFlag (c : Command) : Flag :=
  { name := "help", shorthand := some 'h', kind := .switch, usage := "help for " ++ c.word }

/-- The flags a command shows as its own: the program-wide ones for the program itself. -/
def Command.localFlags (c : Command) : List Flag :=
  (if c.name == .root then programFlags else c.flags) ++ [c.helpFlag]

def Command.inheritedFlags (c : Command) : List Flag :=
  if c.name == .root then [] else programFlags

def Command.allFlags (c : Command) : List Flag := c.localFlags ++ c.inheritedFlags

def Command.path (c : Command) : String :=
  match c.name with
  | .root => programName
  | .shell sh => programName ++ " completion " ++ sh
  | _ => programName ++ " " ++ c.word

def Command.useLine (c : Command) : String :=
  let line := if c.name == .root then c.use else programName ++ " " ++ c.use
  if c.bareUse || (line.splitOn "[flags]").length > 1 then line else line ++ " [flags]"

def trimEnd (s : String) : String :=
  String.ofList (s.toList.reverse.dropWhile Text.isSpace).reverse

/-- A name padded on the right to the width of the longest listed name, at least eleven. -/
def padName (width : Nat) (name : String) : String :=
  name ++ String.ofList (List.replicate (width - name.length) ' ')

/-- The usage text of a command, showing some flags as its own. -/
def Command.usageWith (c : Command) (own : List Flag) : String :=
  let listed := c.listed
  let width := listed.foldl (fun m e => max m e.1.length) 11
  "Usage:" ++ (if c.runnable then "\n  " ++ c.useLine else "") ++
    (if listed.isEmpty then "" else "\n  " ++ c.path ++ " [command]") ++
    (if listed.isEmpty then "" else
      "\n\nAvailable Commands:" ++ String.join (listed.map fun (n, s) => "\n  " ++ padName width n ++ " " ++ s)) ++
    "\n\nFlags:\n" ++ "\n".intercalate (usageLines own) ++
    (if c.inheritedFlags.isEmpty then "" else
      "\n\nGlobal Flags:\n" ++ "\n".intercalate (usageLines c.inheritedFlags)) ++
    (if listed.isEmpty then "" else
      "\n\nUse \"" ++ c.path ++ " [command] --help\" for more information about a command.") ++ "\n"

def Command.usage (c : Command) : String := c.usageWith c.localFlags

def Command.helpText (c : Command) : String :=
  let about := trimEnd (if c.long.isEmpty then c.short else c.long)
  (if about.isEmpty then "" else about ++ "\n\n") ++ c.usage

/-- The edit distance of two sequences: the fewest insertions, deletions and replacements that
turn one into the other. -/
def editDistance (s t : List Nat) : Nat :=
  let row (prev : List Nat) (a : Nat) : List Nat :=
    let first := prev.headD 0 + 1
    let cells := (t.zip (prev.zip (prev.drop 1))).foldl (fun (acc : List Nat × Nat) x =>
      let (b, diag, up) := x
      let v := if a == b then diag else min (min up acc.2) diag + 1
      (acc.1 ++ [v], v)) ([first], first)
    cells.1
  (s.foldl row (List.range (t.length + 1))).getLastD 0

def lowerBytes (s : String) : List Nat := (Text.lower s).toUTF8.toList.map (·.toNat)

/-- The commands a mistyped word may have meant: those within two edits of it and those it
begins, in name order. -/
def suggestions (word : String) : List String :=
  ((subcommands.filter (· != .help)).map (·.spec.word)).filter fun name =>
    editDistance (lowerBytes word) (lowerBytes name) ≤ 2 || (Text.lower name).startsWith (Text.lower word)

def unknownCommand (word : String) : String :=
  let hints := suggestions word
  "unknown command " ++ Text.quoted word ++ " for " ++ Text.quoted programName ++
    (if hints.isEmpty then "" else
      "\n\nDid you mean this?\n" ++ String.join (hints.map fun h => "\t" ++ h ++ "\n"))

def commandNamed? (word : String) : Option CommandName :=
  subcommands.find? (·.spec.word == word)

/-- Finds the command a command line names, with the words left for it. A word after
`completion` naming a shell names that shell's command. -/
def findCommand (words : List String) : Except String (CommandName × List String) :=
  match commandWords programFlags words with
  | [] => .ok (.root, words)
  | w :: _ =>
    match commandNamed? w with
    | some .completion =>
      let rest := withoutWord programFlags w words
      match commandWords programFlags rest with
      | sh :: _ =>
        if shells.contains sh then .ok (.shell sh, withoutWord programFlags sh rest)
        else .ok (.completion, rest)
      | [] => .ok (.completion, rest)
    | some c => .ok (c, withoutWord programFlags w words)
    | none => .error (unknownCommand w)

structure Options where
  configPath : String := ""
  engine : String := ""
  logLevel : String := ""
  digestTTL : Int := 0
deriving Inhabited

def Options.ofGiven (g : Given) : Options :=
  { configPath := g.text "config", engine := g.text "engine", logLevel := g.text "log-level"
    digestTTL := g.int "digest-ttl" }

inductive Invocation where
  | show (text : String)
  | notice (text : String)
  | eval (opts : Options) (expression : String) (assignments : List String) (stats : Bool)
  | compile (opts : Options) (page : String) (manifest : String) (render : Bool)
deriving Inhabited

/-- Whether a character may stand between back quotes: any character beyond ASCII but the byte
order mark, and any ASCII character but the control characters other than tab, and the back
quote. -/
def backquotable (c : Char) : Bool :=
  if c.toNat ≥ 0x80 then c != '\uFEFF'
  else (c.toNat ≥ 0x20 || c == '\t') && c != '\x60' && c.toNat != 0x7F

/-- A list of words as a message shows them, each between back quotes when it can be. -/
def backquotedList (words : List String) : String :=
  let one (w : String) : String :=
    if w.toList.all backquotable then "\x60" ++ w ++ "\x60" else Text.quoted w
  "[" ++ " ".intercalate (words.map one) ++ "]"

def helpTopic (topic : List String) : Invocation :=
  match findCommand topic with
  | .ok (c, _) => .show c.spec.helpText
  | .error _ =>
    -- the program has not yet taken its help flag when the help command runs
    .notice ("Unknown help topic " ++ backquotedList topic ++ "\n" ++
      CommandName.root.spec.usageWith programFlags)

def readCommandLine (words : List String) : Except String Invocation := do
  let (name, rest) ← findCommand words
  let c := name.spec
  let (given, args) ← readWords c.allFlags rest
  if given.switch "help" || !c.runnable then return .show c.helpText
  if let some n := c.arity then
    if args.length != n then
      if let .shell _ := name then
        throw ("unknown command " ++ Text.quoted (args.headD "") ++ " for " ++ Text.quoted c.path)
      throw ("accepts " ++ Decimal.natText n ++ " arg(s), received " ++ Decimal.natText args.length)
  let opts := Options.ofGiven given
  match name with
  | .eval => pure (.eval opts (args.headD "") (given.texts "set") (given.switch "stats"))
  | .compile => pure (.compile opts (args.headD "") (given.text "directives") (given.switch "render"))
  | .help => pure (helpTopic args)
  | _ => pure (.show c.helpText)

end Bindery.Cli
