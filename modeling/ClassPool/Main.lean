/-
The command itself. It takes its arguments, the filter for its log from the environment, and
the one file that the arguments name, and prints what the dump makes of them. Everything that
can be said about its output is said about `Dump.run`.
-/
import ClassPool.Dump.Report

set_option autoImplicit false

namespace ClassPool.Dump

/-- The environment variable that holds the filter for the log. Its name is part of the interface
of the command. -/
def filterVariable : String := "RUST_LOG"

/-- The number and the words that the system has for an error. -/
def systemReason : IO.Error → Nat × String
  | .alreadyExists _ code reason | .invalidArgument _ code reason
  | .permissionDenied _ code reason | .resourceExhausted _ code reason
  | .inappropriateType _ code reason | .noSuchThing _ code reason
  | .otherError code reason | .resourceBusy code reason | .resourceVanished code reason
  | .unsupportedOperation code reason | .hardwareFault code reason
  | .unsatisfiedConstraints code reason | .illegalOperation code reason
  | .protocolError code reason | .timeExpired code reason
  | .interrupted _ code reason | .noFileOrDirectory _ code reason => (code.toNat, reason)
  | .unexpectedEof => (5, "Input/output error")
  | .userError reason => (5, reason)

/-- The reason for which the system refused access to a file. -/
def refusal (cause : IO.Error) : AccessError :=
  match systemReason cause with
  | (2, _) => .notFound
  | (20, _) => .notDirectory
  | (21, _) => .isDirectory
  | (code, reason) => .other reason code

/-- Reads a file from the file system. -/
def fetch (path : String) : IO (Except AccessError StoredFile) := do
  try
    let bytes ← IO.FS.readBinFile path
    let location ← IO.FS.realPath path
    let modified := (← location.metadata).modified
    let milliseconds := modified.sec * 1000 + modified.nsec.toNat / 1000000
    return .ok ⟨location.toString, bytes.toList, milliseconds⟩
  catch cause =>
    return .error (refusal cause)

end ClassPool.Dump

open ClassPool in
/-- Runs the dump on the file that the arguments name. -/
def main (arguments : List String) : IO UInt32 := do
  let filter ← IO.getEnv Dump.filterVariable
  let found ←
    match Dump.Arguments.parse arguments with
    | .ok (.dump invocation) => Dump.fetch invocation.file
    | _ => pure (.error .notFound)
  let outcome := Dump.run arguments filter fun _ => found
  IO.print outcome.stdout
  IO.eprint outcome.stderr
  return outcome.exitCode
