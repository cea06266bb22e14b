/-
How class files are read: which major versions are accepted, and whether opening a file is
announced in the log. The versions are a list in the order they were added; adding one that
is there already changes nothing, so a list without repetitions stays one.

A change of the options is data, and `applyAll` is what a sequence of changes amounts to.
-/
import ClassPool.Version

set_option autoImplicit false

namespace ClassPool

/-- Options for reading class files. -/
structure Options where
  /-- Whether opening a file logs its location, age, size and checksum. -/
  announce : Bool
  /-- The major versions that are accepted, in the order they were added. -/
  accepted : List UInt16
  deriving Repr, DecidableEq

namespace Options

/-- The options to start from: files are announced, and only the supported release is accepted. -/
def standard : Options :=
  ⟨true, [Release.supported.major]⟩

/-- Whether class files of a major version are accepted. -/
def accepts (options : Options) (major : UInt16) : Bool :=
  options.accepted.contains major

def allow (options : Options) (major : UInt16) : Options :=
  if options.accepts major then options
  else { options with accepted := options.accepted ++ [major] }

/-- A change of options. -/
inductive Change where
  /-- Accepts a major version in addition to the others. -/
  | allow (major : UInt16)
  /-- Accepts these major versions and no others. -/
  | acceptOnly (majors : List UInt16)
  /-- Says whether opening a file is announced. -/
  | announce (on : Bool)
  deriving Repr, DecidableEq

def apply (options : Options) : Change → Options
  | .allow major => options.allow major
  | .acceptOnly majors => { options with accepted := majors }
  | .announce on => { options with announce := on }

def applyAll (options : Options) (changes : List Change) : Options :=
  changes.foldl apply options

end Options

end ClassPool
