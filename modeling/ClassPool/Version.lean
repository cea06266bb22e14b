/-
Versions of the class file format. A class file carries a minor and a major version; each
known release of the platform has a major version of its own, and they are consecutive.
One release is supported; any major version may be written down, and those that belong to no
known release have the name `Unknown`.
-/
import ClassPool.Numeral

set_option autoImplicit false

namespace ClassPool

/-- The known releases, in order. -/
inductive Release where
  | java1
  | java1_2
  | java1_3
  | java1_4
  | java5
  | java6
  | java7
  | java8
  | java9
  | java10
  | java11
  | java12
  | java13
  | java14
  | java15
  | java16
  | java17
  | java18
  | java19
  | java20
  | java21
  deriving Repr, DecidableEq

namespace Release

/-- Every known release, in order of its major version. -/
def all : List Release :=
  [java1, java1_2, java1_3, java1_4, java5, java6, java7, java8, java9, java10, java11,
    java12, java13, java14, java15, java16, java17, java18, java19, java20, java21]

def major : Release → UInt16
  | java1 => 45
  | java1_2 => 46
  | java1_3 => 47
  | java1_4 => 48
  | java5 => 49
  | java6 => 50
  | java7 => 51
  | java8 => 52
  | java9 => 53
  | java10 => 54
  | java11 => 55
  | java12 => 56
  | java13 => 57
  | java14 => 58
  | java15 => 59
  | java16 => 60
  | java17 => 61
  | java18 => 62
  | java19 => 63
  | java20 => 64
  | java21 => 65

def name : Release → String
  | java1 => "Java SE 1.0"
  | java1_2 => "Java SE1.2"
  | java1_3 => "Java SE1.3"
  | java1_4 => "Java SE1.4"
  | java5 => "Java SE5.0"
  | java6 => "Java SE6.0"
  | java7 => "Java SE7"
  | java8 => "Java SE8"
  | java9 => "Java SE9"
  | java10 => "Java SE10"
  | java11 => "Java SE11"
  | java12 => "Java SE12"
  | java13 => "Java SE13"
  | java14 => "Java SE14"
  | java15 => "Java SE15"
  | java16 => "Java SE16"
  | java17 => "Java SE17"
  | java18 => "Java SE18"
  | java19 => "Java SE19"
  | java20 => "Java SE20"
  | java21 => "Java SE21"

/-- The one release whose class files are read without being asked for. -/
def supported : Release := java11

def isSupported (release : Release) : Bool :=
  release == supported

def ofMajor? (major : UInt16) : Option Release :=
  all.find? fun release => release.major == major

@[simp] theorem ofMajor?_major (release : Release) : ofMajor? release.major = some release := by
  cases release <;> rfl

/-- The name of the release that has a major version, or `Unknown`. -/
def nameOfMajor (major : UInt16) : String :=
  match ofMajor? major with
  | some release => release.name
  | none => "Unknown"

/-- Whether a major version is that of the supported release. -/
def isSupportedMajor (major : UInt16) : Bool :=
  match ofMajor? major with
  | some release => release.isSupported
  | none => false

end Release

/-- The version that a class file carries. -/
structure Version where
  minor : UInt16
  major : UInt16
  deriving Repr, DecidableEq

namespace Version

/-- The name of the release, or `Unknown`. -/
def name (v : Version) : String :=
  Release.nameOfMajor v.major

/-- Whether the version belongs to the supported release; the minor version does not matter. -/
def isSupported (v : Version) : Bool :=
  Release.isSupportedMajor v.major

def display (v : Version) : String :=
  v.name ++ " (major " ++ Numeral.decimal v.major.toNat ++ ", minor " ++
    Numeral.decimal v.minor.toNat ++ ")"

end Version

end ClassPool
