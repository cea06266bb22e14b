/-
The listing that a dump prints, read back. Every line is ended by a line feed and none has a line
break inside, because no hidden character is printed (`Shown`); so splitting standard output at
line feeds gives the lines back, and nothing that a class file holds can forge one.

An entry's line is read by column. Indices are below the count and so have five digits at most:
with the number sign in front they never fill more than the six columns that are theirs, and the
text of the entry begins in the tenth. What is read off all lines is therefore the table of the
pool, and what is known of the indices in the table holds of the indices in the listing.
-/
import ClassPool.Proofs.Dump.Opening
import ClassPool.Proofs.Entry.Shown

set_option autoImplicit false

namespace ClassPool

namespace Dump

open Text

/-! ## 1. Lines -/

theorem toList_unlines (lines : List String) :
    (unlines lines).toList = (lines.map String.toList).flatMap fun line => line ++ ['\n'] := by
  unfold unlines
  rw [String.toList_join, List.flatMap_map, List.flatMap_map]
  apply List.flatMap_congr
  intro line _
  exact String.toList_append

/-- **Lines without line feeds are got back**, with nothing behind the last line feed. -/
theorem splitOn_flatMap_lines {lines : List (List Char)} (h : ∀ line ∈ lines, '\n' ∉ line) :
    (lines.flatMap fun line => line ++ ['\n']).splitOn '\n' = lines ++ [[]] := by
  induction lines with
  | nil => exact List.splitOn_nil '\n'
  | cons line rest ih =>
      rw [List.flatMap_cons, List.append_assoc, List.singleton_append,
        List.splitOn_append_cons_self_of_not_mem (h line List.mem_cons_self), List.cons_append]
      rw [ih fun line' hline' => h line' (List.mem_cons_of_mem _ hline')]

/-! ## 2. The line of an entry -/

/-- A line shows an index and a text: in the first six columns the index behind a number sign, with
blanks in front; then the sign of equality between blanks; then the text. -/
structure ShowsAt (line : List Char) (index : Nat) (text : String) : Prop where
  columns : line.take 6
    = List.replicate (5 - (Nat.toDigits 10 index).length) ' ' ++ '#' :: Nat.toDigits 10 index
  behind : line.drop 6 = [' ', '=', ' '] ++ text.toList
  unbroken : ∀ c ∈ lineBreaks, c ∉ line

/-- The index and the text of an entry's line, read by column. -/
def readLine (line : List Char) : Nat × String :=
  (Nat.ofDigitChars 10 ((line.take 6).dropWhile (· == ' ')).tail 0, String.ofList (line.drop 9))

/-- What a line shows can be read off it in one way only. -/
theorem ShowsAt.readLine_eq {line : List Char} {index : Nat} {text : String}
    (h : ShowsAt line index text) : readLine line = (index, text) := by
  have hblanks : ∀ c ∈ List.replicate (5 - (Nat.toDigits 10 index).length) ' ',
      (c == ' ') = true := by
    intro c hc
    rw [List.eq_of_mem_replicate hc]
    rfl
  have htext : line.drop 9 = text.toList := by
    have hdrop : line.drop 9 = (line.drop 6).drop 3 := by rw [List.drop_drop]
    rw [hdrop, h.behind]
    rfl
  unfold readLine
  rw [h.columns, List.dropWhile_append_of_pos hblanks, htext, String.ofList_toList]
  rw [List.dropWhile_cons_of_neg (by decide), List.tail_cons, Nat.ofDigitChars_ten_toDigits]

theorem toList_entryLine (index : Nat) (e : Entry) :
    (entryLine index e).toList
      = ('#' :: Nat.toDigits 10 index).leftpad 6 ' ' ++ ([' ', '=', ' '] ++ e.display.toList) := by
  unfold entryLine Numeral.padLeft Numeral.decimal
  simp only [String.toList_append, String.toList_ofList, List.append_assoc]
  rfl

theorem shown_entryLine (index : Nat) (e : Entry) : Shown (entryLine index e).toList := by
  rw [toList_entryLine]
  have hindex : Shown ('#' :: Nat.toDigits 10 index) :=
    Shown.cons (isHidden_of_isPrintable rfl)
      (Numeral.shown_toDigits (by decide) (by decide) index)
  refine (hindex.leftpad rfl 6).append ?_
  exact Shown.append (shown_of_printable rfl) e.shown_display

/-- **An entry's line shows the entry at its index**, if the index has five digits at most. -/
theorem showsAt_entryLine {index : Nat} (h : index < 10 ^ 5) (e : Entry) :
    ShowsAt (entryLine index e).toList index e.display := by
  have hdigits : (Nat.toDigits 10 index).length ≤ 5 :=
    (Nat.length_toDigits_le_iff (by decide) (by decide)).mpr h
  have hwidth : (('#' :: Nat.toDigits 10 index).leftpad 6 ' ').length = 6 := by
    rw [List.length_leftpad, List.length_cons]
    omega
  refine ⟨?_, ?_, ?_⟩
  · rw [toList_entryLine, List.take_left' hwidth]
    unfold List.leftpad
    rw [List.length_cons, Nat.add_sub_add_right 5 1]
  · rw [toList_entryLine, List.drop_left' hwidth]
  · intro c hc
    exact (shown_entryLine index e).not_mem_of_lineBreak hc

/-! ## 3. The lines of a class file -/

theorem shown_classLines (c : ClassFile) {line : String} (h : line ∈ classLines c) :
    Shown line.toList := by
  unfold classLines at h
  rcases List.mem_cons.mp h with rfl | h
  · exact Shown.append_toList (shown_of_printable rfl) c.version.shown_display
  · rcases List.mem_cons.mp h with rfl | h
    · exact Shown.append_toList (shown_of_printable rfl) (Numeral.shown_decimal _)
    · obtain ⟨pair, -, rfl⟩ := List.mem_map.mp h
      exact shown_entryLine pair.1 pair.2

theorem splitOn_unlines_classLines (c : ClassFile) :
    (unlines (classLines c)).toList.splitOn '\n' = (classLines c).map String.toList ++ [[]] := by
  rw [toList_unlines]
  apply splitOn_flatMap_lines
  intro line hline
  obtain ⟨s, hs, rfl⟩ := List.mem_map.mp hline
  exact (shown_classLines c hs).not_mem_of_lineBreak List.mem_cons_self

theorem length_classLines (c : ClassFile) :
    (classLines c).length = 2 + c.constantPool.size := by
  unfold classLines
  rw [List.length_cons, List.length_cons, List.length_map, Pool.table, Entry.length_number,
    Pool.size]
  omega

/-- The lines behind the first two show the entries of the table, one each, in order. -/
theorem forall₂_showsAt {table : List (Nat × Entry)} (h : ∀ pair ∈ table, pair.1 < 10 ^ 5) :
    List.Forall₂ (fun line pair => ShowsAt line pair.1 pair.2.display)
      (table.map fun pair => (entryLine pair.1 pair.2).toList) table := by
  rw [List.forall₂_map_left_iff, List.forall₂_same]
  intro pair hpair
  exact showsAt_entryLine (h pair hpair) pair.2

/-- What is read off lines is what they show. -/
theorem map_readLine_of_forall₂ {lines : List (List Char)} {table : List (Nat × Entry)}
    (h : List.Forall₂ (fun line pair => ShowsAt line pair.1 pair.2.display) lines table) :
    lines.map readLine = table.map fun pair => (pair.1, pair.2.display) := by
  induction h with
  | nil => rfl
  | cons hline _ ih => rw [List.map_cons, List.map_cons, hline.readLine_eq, ih]

/-! ## 4. The listing -/

/-- Standard output that lists a class file. Its lines are each ended by a line feed: one for the
version, one for the count, and one for every entry. -/
structure Lists (c : ClassFile) (stdout : String) (lines : List (List Char)) : Prop where
  split : stdout.toList.splitOn '\n' = lines ++ [[]]
  length : lines.length = 2 + c.constantPool.size
  header : lines.take 2 = [("version: " ++ c.version.display).toList,
    ("constant pool count: " ++ Numeral.decimal c.constantPool.count.toNat).toList]
  entries : List.Forall₂ (fun line pair => ShowsAt line pair.1 pair.2.display) (lines.drop 2)
    c.constantPool.table
  /-- What is read off the lines of the entries is the table. -/
  read : (lines.drop 2).map readLine
    = c.constantPool.table.map fun pair => (pair.1, pair.2.display)
  ascending : ((lines.drop 2).map fun line => (readLine line).1).Pairwise (· < ·)
  /-- No line has the index zero, one from the count on, or that of a second slot. -/
  slots : ∀ line ∈ lines.drop 2, 0 < (readLine line).1 ∧
    (readLine line).1 < c.constantPool.count.toNat ∧
    ∀ pair ∈ c.constantPool.table, pair.2.takesTwoSlots = true → (readLine line).1 ≠ pair.1 + 1

theorem lists_classLines {c : ClassFile} (h : c.constantPool.Reachable) :
    Lists c (unlines (classLines c)) ((classLines c).map String.toList) := by
  have hfills := h.fills
  have hbelow : ∀ pair ∈ c.constantPool.table, pair.1 < 10 ^ 5 := by
    intro pair hpair
    have hcount := (Pool.slot_of_mem_table hfills hpair).2.1
    have hbound := c.constantPool.count.toNat_lt
    omega
  have hdrop : ((classLines c).map String.toList).drop 2
      = c.constantPool.table.map fun pair => (entryLine pair.1 pair.2).toList := by
    unfold classLines
    rw [List.map_cons, List.map_cons, List.drop_succ_cons, List.drop_succ_cons, List.drop_zero,
      List.map_map]
    rfl
  have hentries := forall₂_showsAt hbelow
  have hread := map_readLine_of_forall₂ hentries
  constructor
  case split => exact splitOn_unlines_classLines c
  case length => rw [List.length_map, length_classLines]
  case header => rfl
  case entries => rwa [hdrop]
  case read => rwa [hdrop]
  case ascending =>
    have hindices := congrArg (List.map Prod.fst) hread
    rw [← hdrop, List.map_map, List.map_map] at hindices
    exact hindices ▸ (Pool.numbered_of_fills hfills).ascending
  case slots =>
    intro line hline
    have hmem : readLine line ∈ c.constantPool.table.map fun pair => (pair.1, pair.2.display) := by
      rw [← hread, ← hdrop]
      exact List.mem_map_of_mem hline
    obtain ⟨pair, hpair, heq⟩ := List.mem_map.mp hmem
    rw [← heq]
    exact Pool.slot_of_mem_table hfills hpair

/-- **A dump lists the class file that was opened**, in lines that are read back to the indices and
the texts of its entries, and ends with zero; where none could be opened it ends with one and
leaves standard output empty. -/
theorem run_lists {arguments : List String} {invocation : Invocation}
    (hparse : Arguments.parse arguments = .ok (.dump invocation)) (filter : Option String)
    (storage : Storage) :
    (∀ c, (ClassFile.openFile storage invocation.file invocation.options).value = .ok c →
      (run arguments filter storage).exitCode = 0 ∧
        ∃ lines, Lists c (run arguments filter storage).stdout lines) ∧
    ∀ cause, (ClassFile.openFile storage invocation.file invocation.options).value
        = .error cause →
      (run arguments filter storage).exitCode = 1 ∧
        (run arguments filter storage).stdout = "" := by
  rw [run_of_parse hparse]
  unfold execute
  constructor
  · intro c hopen
    obtain ⟨hexit, hstdout⟩ := report_of_ok hopen invocation.file
      (verbosity filter invocation.verbose)
    refine ⟨hexit, (classLines c).map String.toList, ?_⟩
    rw [hstdout]
    exact lists_classLines (ClassFile.reachable_of_openFile hopen)
  · intro cause hopen
    exact report_of_error hopen _ _

/-- A long, and behind its second slot a text that holds a line like those of the listing; and a
file that is not there. -/
theorem run_lists_forged_line :
    ∃ storage : Storage,
      (run ["--allow-version", "61", "A.class"] none storage).exitCode = 0 ∧
      (∃ c lines, Lists c (run ["--allow-version", "61", "A.class"] none storage).stdout lines) ∧
      (run ["--allow-version", "61", "A.class"] none storage).stdout
        = "version: Java SE17 (major 61, minor 0)\nconstant pool count: 4\n" ++
            "    #1 = Long -1l\n    #3 = Utf8 \"\\n    #2 = \"\n" ∧
      (run ["B.class"] none storage).exitCode = 1 := by
  let storage : Storage := fun path =>
    if path = "A.class" then
      .ok ⟨"/in/A.class", [0xCA, 0xFE, 0xBA, 0xBE, 0, 0, 0, 61, 0, 4,
        5, 0xFF, 0xFF, 0xFF, 0xFF, 0xFF, 0xFF, 0xFF, 0xFF,
        1, 0, 10, 0x0A, 0x20, 0x20, 0x20, 0x20, 0x23, 0x32, 0x20, 0x3D, 0x20], 1500⟩
    else .error .notFound
  have hparse : Arguments.parse ["--allow-version", "61", "A.class"]
      = .ok (.dump ⟨"A.class", [61], false⟩) := rfl
  have hopen : (ClassFile.openFile storage "A.class"
      (Invocation.options ⟨"A.class", [61], false⟩)).value
      = .ok ⟨⟨0, 61⟩, ⟨4, [.long (-1), .utf8 "\n    #2 = "], 32⟩⟩ := by
    decide +kernel
  obtain ⟨hexit, hlists⟩ := (run_lists hparse none storage).1 _ hopen
  refine ⟨storage, hexit, ⟨_, hlists⟩, by decide +kernel, ?_⟩
  have hparse' : Arguments.parse ["B.class"] = .ok (.dump ⟨"B.class", [], false⟩) := rfl
  exact ((run_lists hparse' none storage).2 (.unreadable .notFound) rfl).1

end Dump

end ClassPool
