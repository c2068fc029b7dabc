/-!
# Text without control sequences

Where no terminal reads along, the characters that would only steer one are dropped: control
characters other than white space, and what an escape character opens.

* **`ControlSequence.Mode`** says what is being read; **`Mode.next`** reads one more character.
* **`withoutControls`** keeps what is shown.
-/

namespace Curfew.Text

namespace ControlSequence

inductive Mode
  /-- Text that is shown. -/
  | shown
  /-- What follows an escape character. -/
  | escape
  /-- The rest of a short sequence, after a first character that does not end it. -/
  | short
  /-- The parameters of a control sequence, up to the letter that ends it. -/
  | parameters
  /-- A command to the system of the terminal, which a bell can end. -/
  | command
  /-- Any other string, which only an escape character ends. -/
  | string
deriving DecidableEq, Repr

/-- The escape character. -/
def escapeChar : Char := '\x1b'

/-- Whether a character is a control character of ASCII. -/
def isControl (c : Char) : Bool := c.toNat < 32

/-- The control characters that are shown as white space. -/
def isSpacing (c : Char) : Bool := c == '\t' || c == '\n' || c == '\x0c' || c == '\r'

/-- Whether a character cancels a sequence. -/
def isCancel (c : Char) : Bool := c == '\x18' || c == '\x1a'

/-- Whether a character can end a sequence that began between `low` and `~`. -/
def ends (low c : Char) : Bool := low ≤ c && c ≤ '~'

/-- The mode after one more character, and whether the character is shown. White space within a
sequence is shown and ends it. -/
def Mode.next (mode : Mode) (c : Char) : Mode × Bool :=
  if c == escapeChar then (.escape, false)
  else if isCancel c then (.shown, false)
  else
    match mode with
    | .command => (if c == '\x07' then .shown else .command, false)
    | .string => (.string, false)
    | _ =>
      if isSpacing c then (.shown, true)
      else if isControl c || c == '\x7f' then (mode, false)
      else
        match mode with
        | .escape =>
          if c == '[' then (.parameters, false)
          else if c == ']' then (.command, false)
          else if c == 'P' || c == 'X' || c == '^' || c == '_' then (.string, false)
          else if ends '0' c then (.shown, false)
          else if c < '0' then (.short, false)
          else (.escape, false)
        | .short => (if ends '0' c then .shown else .short, false)
        | .parameters => (if ends '@' c then .shown else .parameters, false)
        | mode => (mode, true)

/-- What is shown of the characters read in a mode. -/
def shownFrom : Mode → List Char → List Char
  | _, [] => []
  | mode, c :: rest =>
    let (after, shows) := mode.next c
    if shows then c :: shownFrom after rest else shownFrom after rest

end ControlSequence

/-- What is shown of a text where no terminal reads along. -/
def withoutControls (s : String) : String :=
  String.ofList (ControlSequence.shownFrom .shown s.toList)

end Curfew.Text
