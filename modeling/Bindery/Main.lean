import Bindery.Cli.Execute

/-!
# The program

Reads the files the command line may read, runs the program on them, and writes its output and
error text, exiting with its status.
-/

open Bindery Cli

def readIfPresent (path : String) : IO (Option String) := do
  try
    pure (some (← IO.FS.readFile path))
  catch _ =>
    pure none

def main (args : List String) : IO UInt32 := do
  let mut files : Files := []
  for path in pathsOf args do
    if let some text ← readIfPresent path then
      files := (cleanPath path, text) :: files
  let outcome := runProgram files args
  IO.print outcome.stdout
  IO.eprint outcome.stderr
  pure (UInt32.ofNat outcome.exit)
