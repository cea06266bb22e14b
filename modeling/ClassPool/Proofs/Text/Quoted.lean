/-
Quoted text can be read in one way only. A character is shown as itself or behind a backslash, and
neither a backslash nor a quotation mark is ever shown as itself. So what follows a backslash
belongs to an escape, which tells where it ends: a letter is a single character, and a number ends
at its brace (`showChar_append_inj`). Nothing that a text holds can pass for an escape, because its
own backslashes are escaped, and nothing can pass for the end of the text, because its own quotation
marks are.
-/
import ClassPool.Proofs.Numeral
import ClassPool.Text.Quoted

set_option autoImplicit false

namespace ClassPool.Text.Quoted

/-! ## 1. Letters -/

/-- The character that a letter behind a backslash stands for. -/
def ofLetter : Char → Char
  | '0' => '\x00'
  | 't' => '\t'
  | 'n' => '\n'
  | 'r' => '\r'
  | letter => letter

theorem ofLetter_of_letter? {c letter : Char} (h : letter? c = some letter) :
    ofLetter letter = c := by
  unfold letter? at h
  split at h
  all_goals cases h
  all_goals rfl

/-- The letter that announces a number stands for no character. -/
theorem letter?_ne_some_u (c : Char) : letter? c ≠ some 'u' := by
  intro h
  unfold letter? at h
  split at h
  all_goals cases h

/-! ## 2. Characters -/

/-- A character is shown by a letter, by its number, or as it is. -/
theorem showChar_cases (c : Char) :
    (∃ letter, letter? c = some letter ∧ showChar c = ['\\', letter]) ∨
      showChar c = numbered c ∨ showChar c = [c] ∧ c ≠ '\\' ∧ c ≠ '"' := by
  unfold showChar
  cases hletter : letter? c with
  | some letter => exact .inl ⟨letter, rfl, rfl⟩
  | none =>
      by_cases hhidden : isHidden c = true
      · rw [if_pos hhidden]
        exact .inr (.inl rfl)
      · rw [if_neg hhidden]
        refine .inr (.inr ⟨rfl, ?_, ?_⟩)
        all_goals
          rintro rfl
          cases hletter

/-- No character is shown by what starts like the end of a text. -/
theorem showChar_append_ne_quote (c : Char) (rest rest' : List Char) :
    showChar c ++ rest ≠ '"' :: rest' := by
  intro h
  rcases showChar_cases c with ⟨letter, -, hshow⟩ | hshow | ⟨hshow, -, hquote⟩
  · rw [hshow, List.cons_append, List.cons.injEq] at h
    exact absurd h.1 (by decide)
  · rw [hshow, numbered, List.cons_append, List.cons_append, List.cons_append,
      List.cons.injEq] at h
    exact absurd h.1 (by decide)
  · rw [hshow, List.cons_append, List.cons.injEq] at h
    exact hquote h.1

theorem numbered_append (c : Char) (rest : List Char) :
    numbered c ++ rest
      = '\\' :: 'u' :: '\x7b' :: ((Numeral.hex c.toNat).toList ++ '\x7d' :: rest) := by
  simp [numbered]

/-- A brace is no digit. -/
theorem not_mem_hex_brace (n : Nat) : '\x7d' ∉ (Numeral.hex n).toList := by
  unfold Numeral.hex
  rw [String.toList_ofList]
  intro hmem
  obtain ⟨d, hd, hbrace⟩ := Numeral.exists_of_mem_toDigits (by decide) hmem
  have hall : ∀ d < 16, '\x7d' ≠ Nat.digitChar d := by decide
  exact hall d hd hbrace

/-- Numbers end at their brace, so they are those of one character. -/
theorem numbered_append_inj {c c' : Char} {rest rest' : List Char}
    (h : numbered c ++ rest = numbered c' ++ rest') : c = c' ∧ rest = rest' := by
  rw [numbered_append, numbered_append] at h
  simp only [List.cons.injEq, true_and] at h
  obtain ⟨hdigits, hrest⟩ :=
    Numeral.append_mark_inj (not_mem_hex_brace _) (not_mem_hex_brace _) h
  have hnumber := Numeral.hex_injective (String.toList_inj.mp hdigits)
  exact ⟨Char.toNat_inj.mp hnumber, hrest⟩

/-- **A shown character tells where it ends**, and which character it is. -/
theorem showChar_append_inj {c c' : Char} {rest rest' : List Char}
    (h : showChar c ++ rest = showChar c' ++ rest') : c = c' ∧ rest = rest' := by
  rcases showChar_cases c with ⟨letter, hletter, hshow⟩ | hshow | ⟨hshow, hslash, -⟩ <;>
    rcases showChar_cases c' with ⟨letter', hletter', hshow'⟩ | hshow' | ⟨hshow', hslash', -⟩ <;>
    rw [hshow, hshow'] at h
  -- a letter, with either of the three
  · simp only [List.cons_append, List.nil_append, List.cons.injEq, true_and] at h
    rw [← ofLetter_of_letter? hletter, ← ofLetter_of_letter? hletter', h.1]
    exact ⟨rfl, h.2⟩
  · rw [numbered_append] at h
    simp only [List.cons_append, List.cons.injEq, true_and] at h
    rw [h.1] at hletter
    exact absurd hletter (letter?_ne_some_u c)
  · simp only [List.cons_append, List.cons.injEq] at h
    exact absurd h.1.symm hslash'
  -- a number
  · rw [numbered_append] at h
    simp only [List.cons_append, List.cons.injEq, true_and] at h
    rw [← h.1] at hletter'
    exact absurd hletter' (letter?_ne_some_u c')
  · exact numbered_append_inj h
  · rw [numbered_append] at h
    simp only [List.cons_append, List.cons.injEq] at h
    exact absurd h.1.symm hslash'
  -- a character as it is
  · simp only [List.cons_append, List.cons.injEq] at h
    exact absurd h.1 hslash
  · rw [numbered_append] at h
    simp only [List.cons_append, List.cons.injEq] at h
    exact absurd h.1 hslash
  · simp only [List.cons_append, List.nil_append, List.cons.injEq] at h
    exact h

/-! ## 3. Texts -/

/-- Shown characters up to a quotation mark are those of one text. -/
theorem flatMap_showChar_inj {chars chars' rest rest' : List Char}
    (h : chars.flatMap showChar ++ '"' :: rest = chars'.flatMap showChar ++ '"' :: rest') :
    chars = chars' ∧ rest = rest' := by
  induction chars generalizing chars' with
  | nil =>
      cases chars' with
      | nil =>
          rw [List.flatMap_nil, List.nil_append, List.nil_append, List.cons.injEq] at h
          exact ⟨rfl, h.2⟩
      | cons c' chars' =>
          rw [List.flatMap_nil, List.nil_append, List.flatMap_cons, List.append_assoc] at h
          exact absurd h.symm (showChar_append_ne_quote c' _ _)
  | cons c chars ih =>
      rw [List.flatMap_cons, List.append_assoc] at h
      cases chars' with
      | nil => exact absurd h (showChar_append_ne_quote c _ _)
      | cons c' chars' =>
          rw [List.flatMap_cons, List.append_assoc] at h
          obtain ⟨rfl, hbehind⟩ := showChar_append_inj h
          obtain ⟨rfl, hrest⟩ := ih hbehind
          exact ⟨rfl, hrest⟩

/-- **Different texts are quoted differently.** -/
theorem quote_injective : Function.Injective quote := by
  intro s t h
  rw [quote, quote, String.ofList_inj, List.cons_append, List.cons_append, List.cons.injEq] at h
  exact String.toList_inj.mp (flatMap_showChar_inj h.2).1

end ClassPool.Text.Quoted
