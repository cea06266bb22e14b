/-
What is logged. An event is data: what happened, with the values that matter. Its level and
its wording are functions of it, so a log that shows less is the same log with fewer events.
-/
import ClassPool.Pool.Decode
import ClassPool.Version

set_option autoImplicit false

namespace ClassPool

/-- How severe an event is, the most severe first. -/
inductive Level where
  | error
  | warn
  | info
  | debug
  | trace
  deriving Repr, DecidableEq

namespace Level

def rank : Level → Nat
  | error => 0
  | warn => 1
  | info => 2
  | debug => 3
  | trace => 4

def label : Level → String
  | error => "ERROR"
  | warn => "WARN"
  | info => "INFO"
  | debug => "DEBUG"
  | trace => "TRACE"

def all : List Level := [error, warn, info, debug, trace]

end Level

/-- The least severe level that is shown; `none` shows nothing. -/
abbrev Verbosity : Type := Option Level

def Level.shownAt (level : Level) : Verbosity → Bool
  | none => false
  | some least => level.rank ≤ least.rank

/-- Something worth logging. -/
inductive Event where
  | recordRead (record : Record)
  /-- A pool with this many entries and declared slots was decoded from these bytes. -/
  | poolDecoded (entries slots start stop : Nat)
  /-- A class file has the right magic number and this version. -/
  | versionFound (version : Version)
  /-- A class file is of a version that is not among those accepted. -/
  | versionRefused (version : Version) (supported : List UInt16)
  | fileOpened (location : String)
  /-- A file was last modified this many seconds after the epoch, if not before it, and has this
  many bytes. -/
  | fileDescribed (seconds : Option Nat) (size : Nat)
  | fileDigested (checksum : String)

namespace Event

def level : Event → Level
  | recordRead _ => .trace
  | poolDecoded .. => .debug
  | versionFound _ => .debug
  | versionRefused .. => .warn
  | fileOpened _ => .info
  | fileDescribed .. => .info
  | fileDigested _ => .info

/-- Major versions between brackets. -/
def listMajors (majors : List UInt16) : String :=
  "[" ++ ", ".intercalate (majors.map fun major => Numeral.decimal major.toNat) ++ "]"

/-- When a file was last modified; there is no telling before the epoch. -/
def age : Option Nat → String
  | some seconds => Numeral.decimal seconds ++ "s since epoch"
  | none => "unknown"

def message : Event → String
  | recordRead record =>
    "#" ++ Numeral.decimal record.index ++ " at " ++ Numeral.offset record.offset ++ ": " ++
      record.entry.display
  | poolDecoded entries slots start stop =>
    "decoded " ++ Numeral.decimal entries ++ " constant pool entries (" ++
      Numeral.decimal slots ++ " slots), bytes " ++ Numeral.offset start ++ ".." ++
      Numeral.offset stop
  | versionFound version => "class file version: " ++ version.display
  | versionRefused version supported =>
    "rejecting class file version " ++ version.display ++ ", supported majors are " ++
      listMajors supported
  | fileOpened location => "Classfile " ++ location
  | fileDescribed seconds size =>
    "Last modified " ++ age seconds ++ "; size " ++ Numeral.decimal size ++ " bytes"
  | fileDigested checksum => "MD5 checksum " ++ checksum

end Event

/-- What a decode of a pool from an offset logs: every record as it is read and, at the end, the
extent of the pool. A decode that fails does not reach the end. -/
def Decoding.events (decoding : Decoding) (start : Nat) : List Event :=
  decoding.records.map .recordRead ++
    match decoding.outcome with
    | .ok pool => [.poolDecoded pool.size (pool.count.toNat - 1) start pool.stop]
    | .error _ => []

end ClassPool
