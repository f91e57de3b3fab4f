import Bindery.Protocol.Answer
import Bindery.Cli.Execute

/-!
# Command-line requests

A `cli` request runs the program on a command line against the files it gives, and answers its
standard output, its exit status, and the lines of its standard error (none when it wrote
nothing), leaving out empty lines and log lines.
-/

namespace Bindery.Protocol

/-- The lines of standard error an answer shows: the non-empty ones that are not log lines. -/
def errorLines (text : String) : List String :=
  (text.splitOn "\n").filter fun l =>
    !l.isEmpty && !l.startsWith "time=" && !l.startsWith "\x7b\"time\""

def cliRequest (req : Json) : Json :=
  let files : Cli.Files := match req.field? "files" with
    | some (.obj fields) => fields.filterMap fun (k, v) => match v with
      | .str s => some (Cli.cleanPath k, s)
      | _ => none
    | _ => []
  let o := Cli.runProgram files (req.strings "args")
  let stderr := match errorLines o.stderr with
    | [] => Json.null
    | lines => .arr (lines.map .str)
  .obj [("r", .obj [("stdout", .str o.stdout), ("exit", .int o.exit), ("stderr", stderr)])]

end Bindery.Protocol
