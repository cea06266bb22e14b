/-
What the dump prints. On success standard output has a line for the version, a line for the
declared count, and a line for every entry with its index, in ascending order. On failure
standard output stays empty and standard error says which file could not be read and why.
What was logged stands on standard error in front of that, one event a line.

Whether an event is shown depends on the verbosity: by default warnings and errors are, with
the verbose switch all but the single records, and a filter text overrides both. The filter
says nothing about what is logged, only about what is shown.
-/
import ClassPool.ClassFile
import ClassPool.Dump.Arguments

set_option autoImplicit false

namespace ClassPool.Dump

/-- The options that an invocation reads class files with. -/
def Invocation.options (invocation : Invocation) : Options :=
  Options.standard.applyAll (.announce invocation.verbose :: invocation.allowed.map .allow)

/-! ## 1. Standard output -/

/-- Lines as text, each ended by a line feed. -/
def unlines (lines : List String) : String :=
  String.join (lines.map fun line => line ++ "\n")

/-- The line of an entry: its index to the right of six columns, and what it is. -/
def entryLine (index : Nat) (e : Entry) : String :=
  Numeral.padLeft 6 ' ' ("#" ++ Numeral.decimal index) ++ " = " ++ e.display

/-- The lines that show a class file. -/
def classLines (classFile : ClassFile) : List String :=
  ("version: " ++ classFile.version.display) ::
    ("constant pool count: " ++ Numeral.decimal classFile.constantPool.count.toNat) ::
    classFile.constantPool.table.map fun (index, e) => entryLine index e

def helpLines : List String :=
  ["Print the constant pool of a Java class file",
   "",
   "Usage: cpdump [OPTIONS] <FILE>",
   "",
   "Arguments:",
   "  <FILE>  Input .class file",
   "",
   "Options:",
   "      --allow-version <MAJOR>  Also accept class files of this major version",
   "  -v, --verbose                Verbose output",
   "  -h, --help                   Print help",
   "  -V, --version                Print version"]

def versionLines : List String :=
  ["cpdump 0.1.0"]

/-! ## 2. Standard error -/

/-- A text whose lines after the first are indented by four columns. -/
def indentFurther (s : String) : String :=
  String.ofList (s.toList.flatMap fun c => if c = '\n' then "\n    ".toList else [c])

def eventLine (event : Event) : String :=
  "[" ++ event.level.label ++ "] " ++ indentFurther event.message

/-- The lines of the events that are shown. -/
def logLines (verbosity : Verbosity) (events : List Event) : List String :=
  (events.filter fun event => event.level.shownAt verbosity).map eventLine

/-- The lines that explain a failure. An error with another behind it is the first of two. -/
def failureLines (file : String) (cause : OpenError) : List String :=
  ["Error: Failed to read " ++ file, "", "Caused by:"] ++
    match cause.cause? with
    | none => ["    " ++ cause.message]
    | some deeper => ["    0: " ++ cause.message, "    1: " ++ deeper]

/-! ## 3. Verbosity -/

/-- The verbosity that a filter text asks for: a level in letters of either case, or `off`. An
empty text shows errors only.

Only a single word is understood. A list of directives, or one that sets the level of a single
module as in `name=debug`, is outside of this: it is taken for the name of something else that
logs, like any text that is no level, and then nothing is shown. The filter reaches standard error
alone, so what is printed and the exit code do not depend on how it is read. -/
def filterVerbosity (text : String) : Verbosity :=
  let word := text.toUpper
  if word = "" then some .error
  else Level.all.find? fun level => level.label = word

/-- The verbosity of a run: the filter decides if there is one. -/
def verbosity (filter : Option String) (verbose : Bool) : Verbosity :=
  match filter with
  | some text => filterVerbosity text
  | none => if verbose then some .debug else some .warn

/-! ## 4. The run -/

/-- What a run of the dump leaves behind. -/
structure Outcome where
  exitCode : UInt32
  stdout : String
  stderr : String
  deriving Repr, DecidableEq

/-- The outcome of opening a file, with the events that are shown. -/
def report (file : String) (verbosity : Verbosity)
    (opened : Logged (Except OpenError ClassFile)) : Outcome :=
  let log := logLines verbosity opened.events
  match opened.value with
  | .ok classFile => ⟨0, unlines (classLines classFile), unlines log⟩
  | .error cause => ⟨1, "", unlines (log ++ failureLines file cause)⟩

/-- Dumps a file of the storage. -/
def execute (invocation : Invocation) (filter : Option String) (storage : Storage) : Outcome :=
  report invocation.file (verbosity filter invocation.verbose)
    (ClassFile.openFile storage invocation.file invocation.options)

/-- Runs a command line. -/
def run (arguments : List String) (filter : Option String) (storage : Storage) : Outcome :=
  match Arguments.parse arguments with
  | .ok .help => ⟨0, unlines helpLines, ""⟩
  | .ok .version => ⟨0, unlines versionLines, ""⟩
  | .ok (.dump invocation) => execute invocation filter storage
  | .error cause => ⟨2, "", unlines ["error: " ++ cause.message]⟩

end ClassPool.Dump
