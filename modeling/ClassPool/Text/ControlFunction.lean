/-
Control functions in a text: what a terminal would act on instead of showing it. They are the
control characters, and the sequences and strings that an escape character begins.

* A control character stands alone. The blanks among them (tab, line feed, form feed, carriage
  return) count as visible.
* An escape sequence is an escape character, perhaps some intermediates, and a final character.
* A control sequence begins with an escape character and `[`, and ends with a character from
  `@` to `~`.
* A command to the operating system begins with an escape character and `]`, and ends with a
  bell. A device control string, or one of the other strings, ends with the byte `9C`, in
  whichever encoded character that byte stands.
* An escape character always begins anew, and a cancel or substitute character ends all.

`strip` leaves out control functions. A text without control characters stays as it is.
-/

set_option autoImplicit false

namespace ClassPool.Text.ControlFunction

/-- Where in a control function a character stands. -/
inductive Place where
  /-- Outside of every control function. -/
  | text
  /-- Directly behind the escape character. -/
  | escape
  /-- Behind the intermediates of an escape sequence. -/
  | intermediate
  /-- In a control sequence. -/
  | sequence
  /-- In a command to the operating system. -/
  | command
  /-- At the start of a device control string. -/
  | device
  /-- Behind the parameters of a device control string. -/
  | deviceParameter
  /-- Behind the intermediates of a device control string. -/
  | deviceIntermediate
  /-- In the body of a string. -/
  | body
  deriving Repr, DecidableEq

/-- Whether a character is one of the blanks among the control characters. -/
def isBlank (c : Char) : Bool :=
  c = '\t' || c = '\n' || c = '\x0c' || c = '\x0d'

/-- Whether a character is a control character of seven bits. -/
def isControl (c : Char) : Bool :=
  c < ' ' || c = '\x7f'

/-- Whether a character outside of every control function is visible. -/
def isVisible (c : Char) : Bool :=
  !isControl c || isBlank c

/-- Whether a character lies between two others, which count too. -/
def between (first last c : Char) : Bool :=
  first ≤ c && c ≤ last

/-- Whether the encoded form of a character holds the byte that ends a string. -/
def endsBody (c : Char) : Bool :=
  c.toString.toUTF8.toList.contains 0x9C

namespace Place

/-- Whether a character is visible at a place. A blank interrupts sequences, but no strings. -/
def shows : Place → Char → Bool
  | text, c => isVisible c
  | escape, c | intermediate, c | sequence, c => isBlank c
  | command, _ | device, _ | deviceParameter, _ | deviceIntermediate, _ | body, _ => false

/-- The place behind the character that follows an escape character. -/
def afterEscape (c : Char) : Place :=
  if c = '[' then sequence
  else if c = ']' then command
  else if c = 'P' then device
  else if c = 'X' || c = '^' || c = '_' then body
  else if between ' ' '/' c then intermediate
  else if between '0' '~' c then text
  else escape

def next (p : Place) (c : Char) : Place :=
  if c = '\x1b' then escape
  else if c = '\x18' || c = '\x1a' then text
  else
    match p with
    | text => text
    | escape => afterEscape c
    | intermediate => if between '0' '~' c then text else intermediate
    | sequence => if between '@' '~' c then text else sequence
    | command => if c = '\x07' then text else command
    | device =>
      if between ' ' '/' c then deviceIntermediate
      else if between '0' '?' c then deviceParameter
      else if between '@' '~' c then body
      else device
    | deviceParameter =>
      if between ' ' '/' c then deviceIntermediate
      else if between '<' '~' c then body
      else deviceParameter
    | deviceIntermediate => if between '0' '~' c then body else deviceIntermediate
    | body => if endsBody c then text else body

end Place

/-- The characters that are left of a text that goes on at a place. While a run of visible
characters lasts, everything visible belongs to it, also where a blank began it inside a
sequence; such a sequence goes on when the run ends, unless the run had a character of more
than seven bits. -/
def stripFrom (p : Place) (inRun : Bool) : List Char → List Char
  | [] => []
  | c :: rest =>
    if inRun && isVisible c then
      c :: stripFrom (if c.toNat < 0x80 then p else .text) true rest
    else if p.shows c then c :: stripFrom (p.next c) true rest
    else stripFrom (p.next c) false rest

/-- A text without its control functions. -/
def strip (s : String) : String :=
  String.ofList (stripFrom .text false s.toList)

end ClassPool.Text.ControlFunction
