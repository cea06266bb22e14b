/-
The command line of the dump: `[-v|--verbose] [--allow-version <MAJOR>]... <FILE>`,
with `--help` and `--version` as usual.

Arguments are taken from left to right. The value of an option that stands in an argument of
its own, and the file, are held back: they are judged when the next option or file has been
recognised, or at the end. An argument that is not recognised at all is therefore reported
even if what is held back is wrong as well. A value that is attached to its option by an
equals sign is judged at once.

A message repeats an argument without its control functions, so that a wrong command line
cannot make a terminal do anything.
-/
import ClassPool.Dump.Major
import ClassPool.Text.ControlFunction

set_option autoImplicit false

namespace ClassPool.Dump

/-! ## 1. Requests and errors -/

/-- What the dump of one file is asked for. -/
structure Invocation where
  file : String
  /-- The major versions that are to be accepted too, in the order they were given. -/
  allowed : List UInt16
  verbose : Bool
  deriving Repr, DecidableEq

/-- What a command line asks for. -/
inductive Request where
  | help
  | version
  | dump (invocation : Invocation)
  deriving Repr, DecidableEq

/-- What is wrong with a command line. -/
inductive UsageError where
  | unexpectedArgument (argument : String)
  /-- A value is attached to an option that takes none. -/
  | unexpectedValue (value option : String)
  | repeatedVerbose
  /-- The option or file of this name has no value. -/
  | missingValue (name : String)
  | invalidMajor (text : String) (fault : MajorFault)
  | missingFile
  deriving Repr, DecidableEq

def majorOption : String := "--allow-version <MAJOR>"

def fileArgument : String := "<FILE>"

/-- A text of the command line as messages repeat it. -/
def repeated (text : String) : String :=
  "'" ++ Text.ControlFunction.strip text ++ "'"

/-- The message about an error, which has one line unless a repeated text has more. -/
def UsageError.message : UsageError → String
  | unexpectedArgument argument => "unexpected argument " ++ repeated argument ++ " found"
  | unexpectedValue value option =>
    "unexpected value " ++ repeated value ++ " for '" ++ option ++
      "' found; no more were expected"
  | repeatedVerbose => "the argument '--verbose' cannot be used multiple times"
  | missingValue name => "a value is required for '" ++ name ++ "' but none was supplied"
  | invalidMajor text fault =>
    "invalid value " ++ repeated text ++ " for '" ++ majorOption ++ "': " ++ fault.message
  | missingFile => "the following required arguments were not provided:"

/-! ## 2. Taking arguments -/

namespace Arguments

/-- What has been taken but not judged yet. -/
inductive Held where
  | option
  | major (text : String)
  | file (path : String)
  deriving Repr, DecidableEq

/-- Where the reading of a command line stands. -/
structure Progress where
  verbose : Bool
  /-- The major versions that have been judged, in order. -/
  allowed : List UInt16
  /-- The file, as soon as one has been taken. -/
  file : Option String
  held : Option Held
  /-- Whether every further argument is a file. -/
  onlyFiles : Bool
  deriving Repr, DecidableEq

def Progress.initial : Progress :=
  ⟨false, [], none, none, false⟩

/-- Why the reading ends before the last argument. -/
inductive Stop where
  | answered (request : Request)
  | failed (cause : UsageError)
  deriving Repr, DecidableEq

namespace Progress

/-- Judges the text of a major version and accepts it. -/
def addMajor (p : Progress) (text : String) : Except Stop Progress :=
  match Major.parse text with
  | .ok major => .ok { p with allowed := p.allowed ++ [major] }
  | .error fault => .error (.failed (.invalidMajor text fault))

/-- Judges what is held back. -/
def settle (p : Progress) : Except Stop Progress :=
  let rest := { p with held := none }
  match p.held with
  | none => .ok rest
  | some .option => .error (.failed (.missingValue majorOption))
  | some (.major text) => rest.addMajor text
  | some (.file path) =>
    if path = "" then .error (.failed (.missingValue fileArgument)) else .ok rest

/-- Takes a file. A second one is not expected, whatever is held back. -/
def takeFile (p : Progress) (path : String) : Except Stop Progress := do
  if p.file.isSome then
    throw (.failed (.unexpectedArgument path))
  let p ← p.settle
  return { p with file := some path, held := some (.file path) }

/-- Takes the switch for verbosity, which may be given once. -/
def takeVerbose (p : Progress) : Except Stop Progress := do
  let p ← p.settle
  if p.verbose then
    throw (.failed .repeatedVerbose)
  return { p with verbose := true }

/-- Answers a request that needs no file. -/
def answer (p : Progress) (request : Request) : Except Stop Progress := do
  let _ ← p.settle
  throw (.answered request)

/-- Takes a switch that has a value attached, which no switch takes. -/
def refuseValue (value option : String) : Except Stop Progress :=
  .error (.failed (.unexpectedValue value option))

/-- Takes an option by its full name, perhaps with a value attached. -/
def takeLong (p : Progress) (name : String) (value : Option String) : Except Stop Progress :=
  match name, value with
  | "--allow-version", none => do
    let p ← p.settle
    return { p with held := some .option }
  | "--allow-version", some text => do
    let p ← p.settle
    p.addMajor text
  | "--verbose", none => p.takeVerbose
  | "--help", none => p.answer .help
  | "--version", none => p.answer .version
  | "--verbose", some text => refuseValue text name
  | "--help", some text => refuseValue text name
  | "--version", some text => refuseValue text name
  | _, _ => .error (.failed (.unexpectedArgument name))

/-- Takes switches by their letters, one after the other. -/
def takeLetters (p : Progress) : List Char → Except Stop Progress
  | [] => .ok p
  | 'v' :: rest => do
    let p ← p.takeVerbose
    p.takeLetters rest
  | 'h' :: _ => p.answer .help
  | 'V' :: _ => p.answer .version
  | letter :: _ => .error (.failed (.unexpectedArgument (String.ofList ['-', letter])))

/-- Takes an argument that is no option: the value that is waited for, or the file. -/
def takeValue (p : Progress) (text : String) : Except Stop Progress :=
  match p.held with
  | some .option => .ok { p with held := some (.major text) }
  | _ => p.takeFile text

/-- Takes the next argument. Two hyphens alone end the options; one alone is a value. -/
def take (p : Progress) (argument : String) : Except Stop Progress :=
  if p.onlyFiles then p.takeFile argument
  else
    match argument.toList with
    | ['-', '-'] => .ok { p with onlyFiles := true }
    | '-' :: '-' :: text =>
      let name := String.ofList ('-' :: '-' :: text.takeWhile (· ≠ '='))
      match text.dropWhile (· ≠ '=') with
      | _ :: value => p.takeLong name (some (String.ofList value))
      | [] => p.takeLong name none
    | '-' :: letter :: letters => p.takeLetters (letter :: letters)
    | _ => p.takeValue argument

def takeAll (p : Progress) : List String → Except Stop Progress
  | [] => .ok p
  | argument :: rest => do
    let p ← p.take argument
    p.takeAll rest

/-- Judges what is still held back and asks for the dump of the file. -/
def finish (p : Progress) : Stop :=
  match p.settle with
  | .error stop => stop
  | .ok p =>
    match p.file with
    | some path => .answered (.dump ⟨path, p.allowed, p.verbose⟩)
    | none => .failed .missingFile

end Progress

/-- What a command line asks for, or what is wrong with it. -/
def parse (arguments : List String) : Except UsageError Request :=
  let stop :=
    match Progress.initial.takeAll arguments with
    | .error stop => stop
    | .ok p => p.finish
  match stop with
  | .answered request => .ok request
  | .failed cause => .error cause

end Arguments

end ClassPool.Dump
