/-
What is shown of an entry tells which entry it is. The words for the kinds differ in their first two
letters, so the kind is told by its word and what stands behind it is the form of the value
(`display_inj`). Within a kind every value has a form of its own: texts are quoted, numbers are told
by their digits, and between two references stands a mark that is no digit. Only the NaNs have one
form between them (`display_eq_display_iff`).

No control character is among what is shown. They are all hidden, and hidden characters of a text are
shown by letter or by number.
-/
import ClassPool.Proofs.Decimal.Positional
import ClassPool.Proofs.Entry.Shown
import ClassPool.Proofs.Entry.Values
import ClassPool.Proofs.Text.Quoted

set_option autoImplicit false

namespace ClassPool

/-! ## 1. Control characters -/

namespace Text

/-- Whether a character is a control character, of seven bits or of eight. -/
def isControl (c : Char) : Bool :=
  c.toNat < 0x20 || (0x7F ≤ c.toNat && c.toNat < 0xA0)

theorem isHidden_of_isControl {c : Char} (h : isControl c = true) : isHidden c = true := by
  rw [isControl, Bool.or_eq_true, Bool.and_eq_true, decide_eq_true_iff, decide_eq_true_iff,
    decide_eq_true_iff] at h
  rw [isHidden_iff_of_le (by omega)]
  omega

theorem Shown.not_isControl {chars : List Char} (h : Shown chars) :
    ∀ c ∈ chars, isControl c = false := by
  intro c hc
  rw [← Bool.not_eq_true]
  intro hcontrol
  exact absurd (h c hc) (by rw [isHidden_of_isControl hcontrol]; decide)

end Text

/-! ## 2. Kinds -/

/-- The word for a kind, and the blank behind it. -/
def Tag.word : Tag → String
  | utf8 => "Utf8 "
  | integer => "Integer "
  | float => "Float "
  | long => "Long "
  | double => "Double "
  | classRef => "Class "
  | stringRef => "String "
  | fieldRef => "Fieldref "
  | methodRef => "Methodref "
  | nameAndType => "NameAndType "

/-- **The kind is told by its word**, whatever stands behind it. -/
theorem Tag.word_append_inj {kind kind' : Tag} {form form' : String}
    (h : kind.word ++ form = kind'.word ++ form') : kind = kind' ∧ form = form' := by
  have hlong : ∀ kind : Tag, 2 ≤ kind.word.toList.length := by
    intro kind
    cases kind <;> decide
  have hletters : ∀ kind kind' : Tag,
      kind.word.toList.take 2 = kind'.word.toList.take 2 → kind = kind' := by
    intro kind kind'
    cases kind <;> cases kind' <;> decide
  have htake := congrArg (fun s => s.toList.take 2) h
  simp only [String.toList_append] at htake
  rw [List.take_append_of_le_length (hlong kind), List.take_append_of_le_length (hlong kind')]
    at htake
  obtain rfl := hletters kind kind' htake
  exact ⟨rfl, (String.append_right_inj _).mp h⟩

namespace Entry

open Text

/-! ## 3. Forms of values -/

/-- The form of a value: what is shown of an entry behind the word for its kind. -/
def form : Entry → String
  | utf8 text => Quoted.quote text
  | integer value => Numeral.signed value.toInt
  | float bits => Ieee.single.text bits.toNat ++ "f"
  | long value => Numeral.signed value.toInt ++ "l"
  | double bits => Ieee.double.text bits.toNat ++ "d"
  | classRef name => reference name
  | stringRef text => reference text
  | fieldRef owner member => reference owner ++ "." ++ reference member
  | methodRef owner member => reference owner ++ "." ++ reference member
  | nameAndType name descriptor => reference name ++ ":" ++ reference descriptor

theorem display_eq (e : Entry) : e.display = e.tag.word ++ e.form := by
  cases e
  all_goals simp only [display, tag, Tag.word, form, String.append_assoc]

theorem display_inj {a b : Entry} (h : a.display = b.display) :
    a.tag = b.tag ∧ a.form = b.form := by
  rw [display_eq, display_eq] at h
  exact Tag.word_append_inj h

theorem reference_injective : Function.Injective reference := by
  intro i j h
  rw [reference, reference, String.append_right_inj] at h
  exact UInt16.toNat_inj.mp (Numeral.decimal_injective h)

/-- A mark that is no digit tells where the first of two references ends. -/
theorem references_inj {between : String} {mark : Char} (hbetween : between.toList = [mark])
    (hdigit : mark.isDigit = false) (hsign : mark ≠ '#') {first first' second second' : UInt16}
    (h : reference first ++ between ++ reference second
      = reference first' ++ between ++ reference second') :
    first = first' ∧ second = second' := by
  have hmark : ∀ index, mark ∉ (reference index).toList := by
    intro index
    rw [reference, String.toList_append, List.mem_append, not_or]
    exact ⟨fun hmem => hsign (List.mem_singleton.mp hmem), Numeral.not_mem_decimal hdigit _⟩
  have hlists := congrArg String.toList h
  simp only [String.toList_append, hbetween, List.append_assoc, List.singleton_append] at hlists
  obtain ⟨hfirst, hsecond⟩ := Numeral.append_mark_inj (hmark _) (hmark _) hlists
  exact ⟨reference_injective (String.toList_inj.mp hfirst),
    reference_injective (String.toList_inj.mp hsecond)⟩

/-! ## 4. Entries -/

/-- All NaNs of a kind are shown alike, whatever their bits. -/
theorem display_eq_of_isNaN {a b : Entry} (htag : a.tag = b.tag) (ha : a.isNaN = true)
    (hb : b.isNaN = true) : a.display = b.display := by
  cases a with
  | float bits =>
      cases b with
      | float bits' => rw [display, display, Ieee.text_of_isNaN ha, Ieee.text_of_isNaN hb]
      | _ => cases htag
  | double bits =>
      cases b with
      | double bits' => rw [display, display, Ieee.text_of_isNaN ha, Ieee.text_of_isNaN hb]
      | _ => cases htag
  | _ => cases ha

/-- **An entry is told by what is shown of it**, unless it is NaN. -/
theorem display_eq_display_iff {a b : Entry} :
    a.display = b.display ↔ a = b ∨ a.tag = b.tag ∧ a.isNaN = true ∧ b.isNaN = true := by
  constructor
  · intro h
    obtain ⟨htag, hform⟩ := display_inj h
    -- Of two entries of one kind, the forms of the values are compared.
    cases a with
    | utf8 text =>
        cases b with
        | utf8 text' => exact .inl (congrArg utf8 (Quoted.quote_injective hform))
        | _ => cases htag
    | integer value =>
        cases b with
        | integer value' =>
            exact .inl (congrArg integer (Int32.toInt_inj.mp (Numeral.signed_injective hform)))
        | _ => cases htag
    | float bits =>
        cases b with
        | float bits' =>
            have htext := (String.append_left_inj _).mp hform
            rcases (Ieee.text_eq_text_iff bits.toNat_lt bits'.toNat_lt).mp htext with hbits | hnan
            · exact .inl (congrArg float (UInt32.toNat_inj.mp hbits))
            · exact .inr ⟨rfl, hnan⟩
        | _ => cases htag
    | long value =>
        cases b with
        | long value' =>
            have hsigned := (String.append_left_inj _).mp hform
            exact .inl (congrArg long (Int64.toInt_inj.mp (Numeral.signed_injective hsigned)))
        | _ => cases htag
    | double bits =>
        cases b with
        | double bits' =>
            have htext := (String.append_left_inj _).mp hform
            rcases (Ieee.text_eq_text_iff bits.toNat_lt bits'.toNat_lt).mp htext with hbits | hnan
            · exact .inl (congrArg double (UInt64.toNat_inj.mp hbits))
            · exact .inr ⟨rfl, hnan⟩
        | _ => cases htag
    | classRef name =>
        cases b with
        | classRef name' => exact .inl (congrArg classRef (reference_injective hform))
        | _ => cases htag
    | stringRef text =>
        cases b with
        | stringRef text' => exact .inl (congrArg stringRef (reference_injective hform))
        | _ => cases htag
    | fieldRef owner member =>
        cases b with
        | fieldRef owner' member' =>
            obtain ⟨rfl, rfl⟩ := references_inj rfl rfl (by decide) hform
            exact .inl rfl
        | _ => cases htag
    | methodRef owner member =>
        cases b with
        | methodRef owner' member' =>
            obtain ⟨rfl, rfl⟩ := references_inj rfl rfl (by decide) hform
            exact .inl rfl
        | _ => cases htag
    | nameAndType name descriptor =>
        cases b with
        | nameAndType name' descriptor' =>
            obtain ⟨rfl, rfl⟩ := references_inj rfl rfl (by decide) hform
            exact .inl rfl
        | _ => cases htag
  · rintro (rfl | ⟨htag, ha, hb⟩)
    · rfl
    · exact display_eq_of_isNaN htag ha hb

/-- An entry that is not NaN is not shown as any other. -/
theorem display_ne_of_ne {a b : Entry} (hne : a ≠ b) (hnumber : a.isNaN = false) :
    a.display ≠ b.display := by
  intro h
  rcases display_eq_display_iff.mp h with heq | ⟨-, hnan, -⟩
  · exact hne heq
  · rw [hnumber] at hnan
    cases hnan

/-- **What is shown of an entry is the entry, on one line.** It tells the kind, and of every kind the
value, except that all NaNs are shown alike. Different texts are quoted differently, also where one
holds what an escape in the other looks like, and the two zeros are told apart. No control character
is among what is shown, and nothing behind which a line may begin. -/
theorem display_lossless :
    (∀ a b : Entry, a.display = b.display ↔
      a = b ∨ a.tag = b.tag ∧ a.isNaN = true ∧ b.isNaN = true) ∧
    (∀ a b : Entry, a.tag ≠ b.tag → a.display ≠ b.display) ∧
    (∀ s t : String, s ≠ t → Quoted.quote s ≠ Quoted.quote t) ∧
    (float 0).display ≠ (float 0x80000000).display ∧
    (double 0).display ≠ (double 0x8000000000000000).display ∧
    ∀ e : Entry, (∀ c ∈ e.display.toList, isControl c = false) ∧
      ∀ c ∈ lineBreaks, c ∉ e.display.toList := by
  refine ⟨fun a b => display_eq_display_iff, fun a b hne h => hne (display_inj h).1,
    fun s t => Quoted.quote_injective.ne, display_ne_of_ne (by decide) (by decide),
    display_ne_of_ne (by decide) (by decide), fun e => ⟨e.shown_display.not_isControl, ?_⟩⟩
  intro c hc
  exact e.shown_display.not_mem_of_lineBreak hc

/-- A backslash and a letter in a text are not what the escape of a line feed looks like. -/
example : (utf8 "\\n").display = "Utf8 \"\\\\n\"" ∧ (utf8 "\n").display = "Utf8 \"\\n\"" := by
  decide

end Entry

end ClassPool
