import Tickwise.Command.Arguments
import Tickwise.Command.Run

/-!
# The command line

Runs the command of the arguments in the environment of the process. A result is printed to
the standard output, a failure with its causes to the standard error.
-/

namespace Tickwise

/-- A command sees the variables and the files of the process. -/
instance : Host IO where
  lookUp name := IO.getEnv name
  textOf path := do
    try
      return some (← IO.FS.readFile path)
    catch _ => return none

/-- Prints the lines of a journal that matter. -/
def printJournal (verbose : Bool) (journal : List Entry) : IO Unit :=
  for entry in journal do
    if verbose || entry.level ≠ .debug then IO.eprintln entry

/-- Prints what a command has come to, and answers the exit code. -/
def printReport (verbose : Bool) (report : Report) : IO UInt32 := do
  printJournal verbose report.journal
  match report.result with
  | .ok line =>
    IO.println line
    return 0
  | .error failure =>
    IO.eprintln s!"Error: {failure.line}"
    return 1

end Tickwise

open Tickwise in
/-- Runs the command of the arguments. -/
def main (arguments : List String) : IO UInt32 := do
  match Invocation.ofArguments? arguments with
  | some invocation => printReport invocation.verbose (← Command.run invocation.command)
  | none =>
    IO.eprintln "error: these are the arguments of no command"
    return 2
