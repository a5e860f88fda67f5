import SenderPolicy.CommandLine.Run

/-!
# The program

Reads the arguments and, where they ask for it, the standard input; everything else is
`CommandLine.execute`.  There is no network transport here, so every question that a domain leads to
goes unanswered, and the report says so.
-/

namespace SenderPolicy.CommandLine

/-- Put a file in place as a whole: it is written under another name first. -/
def writeFile (path content : String) : IO Unit := do
  let temporary := path ++ ".tmp"
  IO.FS.writeFile temporary content
  IO.FS.rename temporary path

/-- Carry out what a run decided on. -/
def carryOut (result : Result) : IO UInt32 := do
  (← IO.getStdout).putStr result.stdout
  (← IO.getStderr).putStr result.stderr
  match result.file with
  | none => return UInt32.ofNat result.exitCode
  | some (path, content) =>
    try
      writeFile path content
      return UInt32.ofNat result.exitCode
    catch failure =>
      (← IO.getStderr).putStr ("Error: " ++ toString failure ++ "\n")
      return 1

/-- The standard input, if the arguments ask for it. -/
def readInput (arguments : Arguments) : IO String := do
  if arguments.stdin then (← IO.getStdin).readToEnd else return ""

end SenderPolicy.CommandLine

open SenderPolicy SenderPolicy.CommandLine in
/-- Run the program. -/
def main (arguments : List String) : IO UInt32 := do
  match Arguments.parse arguments with
  | .error failure => carryOut (refuse failure)
  | .ok arguments =>
    carryOut (execute (Resolver.offline "no network transport") arguments (← readInput arguments))
