import LexKit.Program.Run

/-!
The executable: reads its input, runs the program and prints what the program reports.
-/

open LexKit

/-- Read all bytes of a file or of the standard input, or tell why that is impossible.  A path below
a file can not be opened, which the error tells of by its name; a directory can be opened, but not
read. -/
def LexKit.readInput (path : Option Text) : IO (Except ReadError ByteArray) := do
  try
    match path with
    | some path => return .ok (← IO.FS.readBinFile (String.ofList path))
    | none => return .ok (← (← IO.getStdin).readBinToEnd)
  catch
    | .noFileOrDirectory .. => return .error .notFound
    | .invalidArgument (some _) .. => return .error .nameTooLong
    | .inappropriateType (some _) .. => return .error .notADirectory
    | .inappropriateType none .. => return .error .isADirectory
    | error => throw error

/-- Run the program on the command line. -/
def main (arguments : List String) : IO UInt32 := do
  let arguments := arguments.map String.toList
  let input ← match Command.parse arguments with
    | .ok (.run options) =>
        if options.check then pure (.ok .empty) else readInput options.input
    | _ => pure (.ok .empty)
  match Program.answer arguments fun options => Program.runLexer options input with
  | some report =>
      IO.print (String.ofList report.output)
      IO.eprint (String.ofList report.errors)
      return report.code.toUInt32
  | none =>
      IO.eprintln "the lexer does not come to an end"
      return 3
