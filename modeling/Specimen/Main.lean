import Specimen.Command

open Specimen

def usage : String :=
  "usage: specimen [-f FLAGS] [--dump-ir] [--max-group-results N] [--max-repeater-variance N] " ++
    "[--max-results-limit N] PATTERN\n"

def main (args : List String) : IO UInt32 := do
  match Command.parse? args with
  | none =>
      (← IO.getStderr).putStr usage
      return 1
  | some invocation =>
      let outcome := Command.run invocation
      (← IO.getStdout).putStr outcome.stdout
      (← IO.getStderr).putStr outcome.stderr
      return outcome.code.toUInt32
