import SenderPolicy.Dns.Settings
import SenderPolicy.Policy.Options
import SenderPolicy.Text.Cut
import SenderPolicy.Text.Numeral

/-!
# The arguments of the command line

An argument is a flag, the value of a flag, or a domain.  A flag is written in full, `--name`; a value
follows it as the next argument or behind an equals sign.  `-h` and `-V` are short for `--help` and
`--version`.  After `--`, everything is a domain; so is `-` anywhere.

## What waits

A value that comes as an argument of its own is taken in only when the next thing has been
recognised.  So an argument that is no flag at all is complained about before a value that is no
number, and a request for help after it.  `Pending` is what waits: a flag, perhaps with its value.
-/

namespace SenderPolicy

/-- The flags that take a value. -/
inductive Setting where
  | out
  | format
  | maxDepth
  | nameserver
  | timeoutMs
  | attempts
  deriving DecidableEq, Repr

/-- The flags that stand alone. -/
inductive Switch where
  | stdin
  | abortOnError
  | explain
  | help
  | version
  deriving DecidableEq, Repr

/-- A flag. -/
inductive Flag where
  | setting (setting : Setting)
  | switch (switch : Switch)
  deriving DecidableEq, Repr

/-- The flag of a name. -/
def Flag.ofName? : String → Option Flag
  | "out" => some (.setting .out)
  | "format" => some (.setting .format)
  | "max-depth" => some (.setting .maxDepth)
  | "nameserver" => some (.setting .nameserver)
  | "timeout-ms" => some (.setting .timeoutMs)
  | "attempts" => some (.setting .attempts)
  | "stdin" => some (.switch .stdin)
  | "abort-on-error" => some (.switch .abortOnError)
  | "explain" => some (.switch .explain)
  | "help" => some (.switch .help)
  | "version" => some (.switch .version)
  | _ => none

/-- Why the arguments do not lead to a run. -/
inductive UsageError where
  /-- There is no such flag. -/
  | unknownFlag (argument : String)
  /-- A flag is without its value. -/
  | missingValue
  /-- A value should be a number, and is not. -/
  | notANumber (value : String)
  /-- A flag is given twice. -/
  | repeated
  /-- A flag that stands alone has a value. -/
  | unexpectedValue (value : String)
  /-- Help is asked for. -/
  | help
  /-- The version is asked for. -/
  | version
  deriving DecidableEq, Repr

/-- The arguments, read. -/
structure Arguments where
  domains : List String := []
  stdin : Bool := false
  out : Option String := none
  format : Option String := none
  maxDepth : Option Nat := none
  nameservers : List String := []
  timeoutMs : Option Nat := none
  attempts : Option Nat := none
  abortOnError : Bool := false
  explain : Bool := false
  deriving DecidableEq, Repr

namespace Arguments

/-- The largest number that a flag takes. -/
def maxNumber : Nat := 2 ^ 64 - 1

/-- The value of a flag that takes a number and has no value yet. -/
def number (current : Option Nat) (value : String) : Except UsageError (Option Nat) :=
  if current.isSome then .error .repeated
  else
    match Numeral.count? maxNumber value.toList with
    | some n => .ok (some n)
    | none => .error (.notANumber value)

/-- The value of a flag that takes a text and has no value yet. -/
def text (current : Option String) (value : String) : Except UsageError (Option String) :=
  if current.isSome then .error .repeated else .ok (some value)

/-- Whether a flag is on that was off until now. -/
def turnOn (current : Bool) : Except UsageError Bool :=
  if current then .error .repeated else .ok true

/-- Take in a flag with its value.  Name servers may be given again and again. -/
def set (arguments : Arguments) (setting : Setting) (value : String) :
    Except UsageError Arguments :=
  match setting with
  | .out => do return { arguments with out := ← text arguments.out value }
  | .format => do return { arguments with format := ← text arguments.format value }
  | .maxDepth => do return { arguments with maxDepth := ← number arguments.maxDepth value }
  | .nameserver => return { arguments with nameservers := arguments.nameservers ++ [value] }
  | .timeoutMs => do return { arguments with timeoutMs := ← number arguments.timeoutMs value }
  | .attempts => do return { arguments with attempts := ← number arguments.attempts value }

/-- Take in a flag that stands alone. -/
def flip (arguments : Arguments) : Switch → Except UsageError Arguments
  | .stdin => do return { arguments with stdin := ← turnOn arguments.stdin }
  | .abortOnError => do return { arguments with abortOnError := ← turnOn arguments.abortOnError }
  | .explain => do return { arguments with explain := ← turnOn arguments.explain }
  | .help => .error .help
  | .version => .error .version

/-- Take in a domain. -/
def addDomain (arguments : Arguments) (domain : String) : Arguments :=
  { arguments with domains := arguments.domains ++ [domain] }

/-- What waits to be taken in. -/
inductive Pending where
  | nothing
  /-- A flag that waits for its value. -/
  | flag (setting : Setting)
  /-- A flag with its value. -/
  | value (setting : Setting) (value : String)
  deriving DecidableEq, Repr

/-- Take in what waits. -/
def settle (arguments : Arguments) : Pending → Except UsageError Arguments
  | .nothing => .ok arguments
  | .flag _ => .error .missingValue
  | .value setting value => arguments.set setting value

/-- What an argument looks like, before anybody knows whether there is such a flag. -/
inductive Word where
  /-- `--`. -/
  | separator
  /-- `--name` or `--name=value`. -/
  | long (name : String) (value : Option String)
  /-- `-x`, perhaps with more behind it. -/
  | short (first : Char)
  /-- Anything else. -/
  | plain (text : String)
  deriving DecidableEq, Repr

/-- What an argument looks like. -/
def Word.ofArgument (argument : String) : Word :=
  match argument.toList with
  | ['-', '-'] => separator
  | '-' :: '-' :: rest =>
    match Text.cutBefore '=' rest with
    | (name, []) => long (String.ofList name) none
    | (name, _ :: value) => long (String.ofList name) (some (String.ofList value))
  | '-' :: first :: _ => short first
  | _ => plain argument

/-- Take in the arguments in turn. -/
def takeIn (arguments : Arguments) (pending : Pending) :
    List String → Except UsageError Arguments
  | [] => arguments.settle pending
  | argument :: rest =>
    match Word.ofArgument argument with
    | .separator => do return rest.foldl addDomain (← arguments.settle pending)
    | .long name value =>
      match Flag.ofName? name, value with
      | none, _ => .error (.unknownFlag argument)
      | some (.switch _), some value => .error (.unexpectedValue value)
      | some (.switch switch), none => do
        takeIn (← (← arguments.settle pending).flip switch) .nothing rest
      | some (.setting setting), some value => do
        takeIn (← (← arguments.settle pending).set setting value) .nothing rest
      | some (.setting setting), none => do
        takeIn (← arguments.settle pending) (.flag setting) rest
    | .short 'h' => do takeIn (← (← arguments.settle pending).flip .help) .nothing rest
    | .short 'V' => do takeIn (← (← arguments.settle pending).flip .version) .nothing rest
    | .short _ => .error (.unknownFlag argument)
    | .plain text =>
      match pending with
      | .flag setting => takeIn arguments (.value setting text) rest
      | _ => do takeIn ((← arguments.settle pending).addDomain text) .nothing rest

/-- Read the arguments. -/
def parse (arguments : List String) : Except UsageError Arguments :=
  takeIn {} .nothing arguments

/-- The format that is used if none is asked for. -/
def defaultFormat : String := "human"

/-- The name of the format. -/
def formatName (arguments : Arguments) : String := arguments.format.getD defaultFormat

/-- How policies are resolved. -/
def resolveOptions (arguments : Arguments) : ResolveOptions where
  maxDepth := arguments.maxDepth.getD ({} : ResolveOptions).maxDepth
  onFailure := if arguments.abortOnError then .abort else .tolerate
  fetchExplanation := arguments.explain

/-- How the resolver is set up. -/
def resolverSettings (arguments : Arguments) : ResolverSettings :=
  let settings : ResolverSettings := {}
  ((settings.addNameservers arguments.nameservers).setTimeoutMs
    (arguments.timeoutMs.getD settings.timeoutMs)).setAttempts
      (arguments.attempts.getD settings.attempts)

end Arguments

end SenderPolicy
