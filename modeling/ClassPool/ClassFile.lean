/-
Class files. A class file starts with a header of eight bytes: the magic number, the minor
version and the major version. The constant pool follows.

A file passes three gates before its pool is decoded, and the first that it fails decides
the error: the header has to be complete, the magic number has to be right, and the major
version has to be among those that are accepted. A header that is cut short is reported in
the same words as a pool that is, as entry zero at the end of the bytes.

Opening a file reads it from storage and then parses it. Where the options ask for it, it also logs
where the file is, its age and size, and its checksum; these events come before everything
that parsing logs and change nothing of the result.
-/
import ClassPool.Digest.Md5
import ClassPool.Event
import ClassPool.Options
import ClassPool.Storage

set_option autoImplicit false

namespace ClassPool

/-- A result together with the events that led to it, in order. -/
structure Logged (α : Type) where
  events : List Event
  value : α

/-! ## 1. Errors -/

/-- Why bytes are no class file that is accepted. -/
inductive ParseError where
  | wrongMagic (found : UInt32)
  | refusedVersion (version : Version)
  /-- The header is cut short or the pool could not be decoded. -/
  | malformed (cause : DecodeError)
  deriving Repr, DecidableEq

namespace ParseError

def message : ParseError → String
  | wrongMagic found =>
    "Invalid magic number 0x" ++ Numeral.padLeft 8 '0' (Numeral.upperHex found.toNat) ++
      ", expected 0xCAFEBABE"
  | refusedVersion version =>
    "Unsupported class file version " ++ Numeral.decimal version.major.toNat ++ "." ++
      Numeral.decimal version.minor.toNat ++ " (" ++ version.name ++ ")"
  | malformed cause => cause.message

def cause? : ParseError → Option String
  | malformed cause => cause.cause?
  | _ => none

end ParseError

/-- Why no class file could be had from storage. -/
inductive OpenError where
  | unreadable (cause : AccessError)
  | rejected (cause : ParseError)
  deriving Repr, DecidableEq

namespace OpenError

def message : OpenError → String
  | unreadable cause => cause.message
  | rejected cause => cause.message

def cause? : OpenError → Option String
  | unreadable _ => none
  | rejected cause => cause.cause?

end OpenError

/-! ## 2. The header -/

/-- The number that every class file starts with. -/
def magicNumber : UInt32 := 0xCAFEBABE

/-- What stands in front of the constant pool. -/
structure Header where
  magic : UInt32
  version : Version
  deriving Repr, DecidableEq

namespace Header

/-- How many bytes a header takes, and so the offset of the constant pool. -/
def length : Nat := 8

/-- The header at the start of the bytes, if it is complete. -/
def read? (bytes : List UInt8) : Option Header := do
  let (magic, c) ← (Cursor.into bytes 0).readNat 4
  let (minor, c) ← c.readIndex
  let (major, _) ← c.readIndex
  return ⟨UInt32.ofNat magic, ⟨minor, major⟩⟩

end Header

/-! ## 3. The class file -/

/-- A class file, as far as it is decoded. -/
structure ClassFile where
  version : Version
  constantPool : Pool
  deriving DecidableEq

namespace ClassFile

/-- Equality of class files, with floats compared as numbers. -/
def agrees (a b : ClassFile) : Bool :=
  a.version == b.version && a.constantPool.agrees b.constantPool

/-- Decodes the pool behind an accepted header. -/
def parsePool (version : Version) (bytes : List UInt8) : Logged (Except ParseError ClassFile) :=
  let decoding := Pool.decoding bytes Header.length
  ⟨decoding.events Header.length,
    match decoding.outcome with
    | .ok pool => .ok ⟨version, pool⟩
    | .error cause => .error (.malformed cause)⟩

/-- Checks the header of the bytes and decodes the pool behind it. -/
def parse (bytes : List UInt8) (options : Options) : Logged (Except ParseError ClassFile) :=
  match Header.read? bytes with
  | none => ⟨[], .error (.malformed (.cutShort 0 bytes.length))⟩
  | some header =>
    let version := header.version
    if header.magic ≠ magicNumber then ⟨[], .error (.wrongMagic header.magic)⟩
    else if options.accepts version.major then
      let parsed := parsePool version bytes
      ⟨.versionFound version :: parsed.events, parsed.value⟩
    else
      ⟨[.versionFound version, .versionRefused version options.accepted],
        .error (.refusedVersion version)⟩

/-- What opening a file logs before anything is parsed. The size in the log is the number of bytes
that were read, which a `StoredFile` takes to be the length that storage keeps for it. -/
def introduction (file : StoredFile) : List Event :=
  [.fileOpened file.location,
   .fileDescribed file.modifiedSeconds? file.bytes.length,
   .fileDigested (Digest.Md5.checksum file.bytes)]

/-- Parses a file from storage, introduced in the log if the options say so. -/
def parseFile (file : StoredFile) (options : Options) : Logged (Except ParseError ClassFile) :=
  let parsed := parse file.bytes options
  if options.announce then ⟨introduction file ++ parsed.events, parsed.value⟩ else parsed

/-- Reads the file at a path of the storage and parses it. -/
def openFile (storage : Storage) (path : String) (options : Options) :
    Logged (Except OpenError ClassFile) :=
  match storage path with
  | .error cause => ⟨[], .error (.unreadable cause)⟩
  | .ok file =>
    let parsed := parseFile file options
    ⟨parsed.events,
      match parsed.value with
      | .ok classFile => .ok classFile
      | .error cause => .error (.rejected cause)⟩

end ClassFile

end ClassPool
