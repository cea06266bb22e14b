/-
What standard output does not depend on. Of a file only its bytes reach the result of opening it,
and of the options only the versions that they accept do.

A command line sets these versions: the supported one and all that it allows
(`Invocation.accepts_options`). Two command lines that allow the same versions thus print the same
and exit alike on files with the same bytes, however the log is set.
-/
import ClassPool.Proofs.ClassFile.Gate
import ClassPool.Proofs.Dump.Opening
import ClassPool.Proofs.Options

set_option autoImplicit false

namespace ClassPool

namespace Dump

/-! ## 1. Command lines -/

/-- The versions that a command line has accepted: the supported one, and those that it names. -/
theorem Invocation.accepts_options (invocation : Invocation) (major : UInt16) :
    invocation.options.accepts major = true ↔ major = 55 ∨ major ∈ invocation.allowed := by
  have hoptions : invocation.options
      = (⟨invocation.verbose, [55]⟩ : Options).applyAll (invocation.allowed.map .allow) := rfl
  rw [hoptions, Options.accepts_applyAll_allow, Options.accepts_iff, List.mem_singleton]

/-- What was opened decides the exit code and standard output; the log only goes to standard
error. -/
theorem report_congr {opened opened' : Logged (Except OpenError ClassFile)}
    (h : opened.value = opened'.value) (file file' : String) (shown shown' : Verbosity) :
    (report file shown opened).exitCode = (report file' shown' opened').exitCode ∧
      (report file shown opened).stdout = (report file' shown' opened').stdout := by
  unfold report
  rw [h]
  cases opened'.value with
  | ok c => exact ⟨rfl, rfl⟩
  | error cause => exact ⟨rfl, rfl⟩

theorem value_openFile_congr {storage storage' : Storage} {first second : Invocation}
    {file file' : StoredFile} (hfile : storage first.file = .ok file)
    (hfile' : storage' second.file = .ok file') (hbytes : file.bytes = file'.bytes)
    (hmajors : ∀ major : UInt16,
      (major = 55 ∨ major ∈ first.allowed) ↔ (major = 55 ∨ major ∈ second.allowed)) :
    (ClassFile.openFile storage first.file first.options).value
      = (ClassFile.openFile storage' second.file second.options).value := by
  rw [ClassFile.value_openFile hfile, ClassFile.value_openFile hfile', hbytes]
  congr 1
  apply ClassFile.value_parse_congr
  intro hlen
  rw [Bool.eq_iff_iff, Invocation.accepts_options, Invocation.accepts_options]
  exact hmajors _

/-! ## 2. Two runs -/

/-- **Standard output and the exit code depend on the bytes of the file and on the set of accepted
versions**, and on nothing else that a command line or the system around it says. Opening a file
is parsing it, with three events in front of the log if the options ask for them. -/
theorem run_independent :
    (∀ (arguments arguments' : List String) (first second : Invocation)
        (filter filter' : Option String) (storage storage' : Storage) (file file' : StoredFile),
      Arguments.parse arguments = .ok (.dump first) →
      Arguments.parse arguments' = .ok (.dump second) →
      storage first.file = .ok file → storage' second.file = .ok file' →
      file.bytes = file'.bytes →
      (∀ major : UInt16,
        (major = 55 ∨ major ∈ first.allowed) ↔ (major = 55 ∨ major ∈ second.allowed)) →
      (run arguments filter storage).exitCode = (run arguments' filter' storage').exitCode ∧
        (run arguments filter storage).stdout = (run arguments' filter' storage').stdout) ∧
    ∀ (storage : Storage) (path : String) (file : StoredFile) (options : Options),
      storage path = .ok file →
      (ClassFile.openFile storage path options).value
          = (ClassFile.parse file.bytes options).value.mapError .rejected ∧
        (ClassFile.openFile storage path options).events
          = (if options.announce then ClassFile.introduction file else [])
              ++ (ClassFile.parse file.bytes options).events ∧
        (ClassFile.introduction file).map Event.level = [.info, .info, .info] := by
  constructor
  · intro arguments arguments' first second filter filter' storage storage' file file' hparse
      hparse' hfile hfile' hbytes hmajors
    rw [run_of_parse hparse, run_of_parse hparse']
    unfold execute
    apply report_congr
    exact value_openFile_congr hfile hfile' hbytes hmajors
  · intro storage path file options hfile
    exact ⟨ClassFile.value_openFile hfile options, ClassFile.events_openFile hfile options, rfl⟩

/-- A file of version 61, dumped with everything logged, and again in silence from another place,
with the versions in another order and some of them repeated. -/
theorem run_independent_java17 :
    ∃ storage storage' : Storage,
      (run ["-v", "--allow-version", "52", "--allow-version=61", "A.class"] (some "trace")
          storage).stdout
        = (run ["B.class", "--allow-version", "61", "--allow-version=55", "--allow-version", "52",
            "--allow-version=61"] (some "off") storage').stdout ∧
      (run ["B.class", "--allow-version", "61", "--allow-version=55", "--allow-version", "52",
          "--allow-version=61"] (some "off") storage').stdout
        = "version: Java SE17 (major 61, minor 0)\nconstant pool count: 2\n    #1 = Utf8 \"A\"\n" ∧
      (ClassFile.openFile storage "A.class" ⟨true, [61]⟩).events
        = ClassFile.introduction ⟨"/in/A.class",
            [0xCA, 0xFE, 0xBA, 0xBE, 0, 0, 0, 61, 0, 2, 1, 0, 1, 0x41], 1500⟩
          ++ (ClassFile.parse [0xCA, 0xFE, 0xBA, 0xBE, 0, 0, 0, 61, 0, 2, 1, 0, 1, 0x41]
            ⟨true, [61]⟩).events := by
  refine ⟨fun _ => .ok ⟨"/in/A.class",
      [0xCA, 0xFE, 0xBA, 0xBE, 0, 0, 0, 61, 0, 2, 1, 0, 1, 0x41], 1500⟩,
    fun _ => .ok ⟨"/in/B.class",
      [0xCA, 0xFE, 0xBA, 0xBE, 0, 0, 0, 61, 0, 2, 1, 0, 1, 0x41], -1⟩, ?_, ?_, ?_⟩
  · have hparse : Arguments.parse ["-v", "--allow-version", "52", "--allow-version=61", "A.class"]
        = .ok (.dump ⟨"A.class", [52, 61], true⟩) := rfl
    have hparse' : Arguments.parse ["B.class", "--allow-version", "61", "--allow-version=55",
          "--allow-version", "52", "--allow-version=61"]
        = .ok (.dump ⟨"B.class", [61, 55, 52, 61], false⟩) := rfl
    refine (run_independent.1 _ _ _ _ _ _ _ _ ⟨"/in/A.class", _, 1500⟩ ⟨"/in/B.class", _, -1⟩
      hparse hparse' rfl rfl rfl ?_).2
    intro major
    simp only [List.mem_cons, List.not_mem_nil, or_false]
    grind
  · decide +kernel
  · exact (run_independent.2 _ _ _ ⟨true, [61]⟩ rfl).2.1

end Dump

end ClassPool
