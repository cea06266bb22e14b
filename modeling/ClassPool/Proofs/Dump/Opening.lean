/-
What a dump opens. Opening a file that can be read gives what parsing its bytes gives
(`value_openFile`); whether the options ask for an introduction shows in the log alone, as three
events in front of those of parsing (`events_openFile`). So the name of the file, its place and
its age do not reach the result.

A run of a command line that names a file reports on what was opened, and nothing else decides
the exit code and standard output: a class file is listed, a failure leaves standard output empty.
-/
import ClassPool.Dump.Report
import ClassPool.Proofs.Pool.Table

set_option autoImplicit false

namespace ClassPool

/-! ## 1. Opening -/

namespace ClassFile

variable {storage : Storage} {path : String} {file : StoredFile}

/-- The introduction is no part of the result. -/
theorem value_parseFile (file : StoredFile) (options : Options) :
    (parseFile file options).value = (parse file.bytes options).value := by
  unfold parseFile
  by_cases h : options.announce = true
  · rw [if_pos h]
  · rw [if_neg h]

theorem events_parseFile (file : StoredFile) (options : Options) :
    (parseFile file options).events
      = (if options.announce then introduction file else [])
          ++ (parse file.bytes options).events := by
  unfold parseFile
  by_cases h : options.announce = true
  · rw [if_pos h, if_pos h]
  · rw [if_neg h, if_neg h, List.nil_append]

/-- **A file that can be read is opened as its bytes are parsed.** -/
theorem value_openFile (h : storage path = .ok file) (options : Options) :
    (openFile storage path options).value
      = (parse file.bytes options).value.mapError .rejected := by
  unfold openFile
  rw [h]
  dsimp only
  rw [value_parseFile]
  cases (parse file.bytes options).value with
  | ok c => rfl
  | error cause => rfl

theorem events_openFile (h : storage path = .ok file) (options : Options) :
    (openFile storage path options).events
      = (if options.announce then introduction file else [])
          ++ (parse file.bytes options).events := by
  unfold openFile
  rw [h]
  exact events_parseFile file options

/-- A class file that was opened was parsed from the bytes of a file that can be read. -/
theorem exists_parse_of_openFile {options : Options} {c : ClassFile}
    (h : (openFile storage path options).value = .ok c) :
    ∃ file, storage path = .ok file ∧ (parse file.bytes options).value = .ok c := by
  cases hfile : storage path with
  | error cause =>
      unfold openFile at h
      rw [hfile] at h
      cases h
  | ok file =>
      rw [value_openFile hfile] at h
      refine ⟨file, rfl, ?_⟩
      cases hparse : (parse file.bytes options).value with
      | error cause =>
          rw [hparse] at h
          cases h
      | ok c' =>
          rw [hparse] at h
          cases h
          rfl

theorem reachable_of_openFile {options : Options} {c : ClassFile}
    (h : (openFile storage path options).value = .ok c) : c.constantPool.Reachable := by
  obtain ⟨file, -, hparse⟩ := exists_parse_of_openFile h
  exact .parsed hparse

end ClassFile

/-! ## 2. Reporting -/

namespace Dump

variable {opened : Logged (Except OpenError ClassFile)}

theorem report_of_ok {c : ClassFile} (h : opened.value = .ok c) (file : String)
    (shown : Verbosity) :
    (report file shown opened).exitCode = 0 ∧
      (report file shown opened).stdout = unlines (classLines c) := by
  unfold report
  rw [h]
  exact ⟨rfl, rfl⟩

theorem report_of_error {cause : OpenError} (h : opened.value = .error cause) (file : String)
    (shown : Verbosity) :
    (report file shown opened).exitCode = 1 ∧ (report file shown opened).stdout = "" := by
  unfold report
  rw [h]
  exact ⟨rfl, rfl⟩

theorem run_of_parse {arguments : List String} {invocation : Invocation}
    (h : Arguments.parse arguments = .ok (.dump invocation)) (filter : Option String)
    (storage : Storage) : run arguments filter storage = execute invocation filter storage := by
  unfold run
  rw [h]

end Dump

end ClassPool
