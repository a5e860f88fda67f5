import SenderPolicy.CommandLine.Arguments
import SenderPolicy.CommandLine.Help
import SenderPolicy.Report.Format

/-!
# A run of the program

What a run does is a function of its arguments, its standard input and the resolver: it shows
something, perhaps leaves a file, and ends with a code.  Zero means that there is nothing to look
at, two that there is (or that the arguments make no sense), and one that the run failed.

A run without a domain shows the help.
-/

namespace SenderPolicy.CommandLine

/-- What a run leaves behind. -/
structure Result where
  exitCode : Nat := 0
  stdout : String := ""
  stderr : String := ""
  /-- A file to be written: its path and its content. -/
  file : Option (String × String) := none
  deriving DecidableEq, Repr

/-- The domains in a text, one to a line. -/
def domainsOf (input : String) : List String :=
  ((input.toList.splitOn '\n').map Text.trimBlanks).filter (· ≠ []) |>.map String.ofList

/-- The domains of a run. -/
def domains (arguments : Arguments) (input : String) : List String :=
  if arguments.stdin then arguments.domains ++ domainsOf input else arguments.domains

/-- The complaint about arguments that make no sense. -/
def complaint : UsageError → String
  | .unknownFlag argument => "error: unexpected argument '" ++ argument ++ "' found\n"
  | .missingValue => "error: a value is required but none was supplied\n"
  | .notANumber value => "error: invalid value '" ++ value ++ "'\n"
  | .repeated => "error: an argument cannot be used multiple times\n"
  | .unexpectedValue value => "error: unexpected value '" ++ value ++ "'\n"
  | .help => ""
  | .version => ""

/-- The result of a run that the arguments do not lead to. -/
def refuse : UsageError → Result
  | .help => { stdout := helpText }
  | .version => { stdout := versionText }
  | failure => { exitCode := 2, stderr := complaint failure }

/-- The reports on domains, in order. -/
def reports (resolver : Resolver) (options : ResolveOptions) (domains : List String) :
    List (Report × List Query) :=
  domains.map (Report.ofDomain resolver options)

/-- Show or file away reports. -/
def deliver (arguments : Arguments) (reports : List Report) : Result :=
  match ReportFormat.ofName? arguments.formatName with
  | none =>
    { exitCode := 1
      stderr := "Error: " ++ ReportFormat.unknownMessage arguments.formatName ++ "\n" }
  | some format =>
    let exitCode := if Report.anyFlagged reports then 2 else 0
    match arguments.out with
    | some path => { exitCode, file := some (path, format.write reports) }
    | none => { exitCode, stdout := format.write reports ++ format.terminalEnd }

/-- What a run with these arguments does. -/
def execute (resolver : Resolver) (arguments : Arguments) (input : String) : Result :=
  match domains arguments input with
  | [] => { stdout := helpText ++ "\n" }
  | domains =>
    deliver arguments ((reports resolver arguments.resolveOptions domains).map Prod.fst)

/-- What a run does. -/
def run (resolver : Resolver) (arguments : List String) (input : String) : Result :=
  match Arguments.parse arguments with
  | .error failure => refuse failure
  | .ok arguments => execute resolver arguments input

end SenderPolicy.CommandLine
