import Retrace.Text.Utf8

/-!
# Terminal control sequences

A terminal takes some characters as orders: an escape opens a sequence that sets
colours, moves the cursor or names a window, and single control characters act by
themselves. `plain` keeps what would be printed, blanks and line ends included. A
sequence that is never closed takes the rest of the text with it.

A blank or a line end within a sequence is printed together with the run of printable
characters after it. Only then the sequence goes on, unless the run had a character
beyond ASCII in it.
-/

namespace Retrace.Text.Terminal

/-- What a terminal takes the next character for. A sequence of control or device functions has
parameters, then marks, then a last character; one that is malformed is `skipped` to
its end. -/
inductive Mode where
  | printing
  | escape
  | escapeMarks
  | control
  | controlParameters
  | controlMarks
  | controlSkipped
  | device
  | deviceParameters
  | deviceMarks
  /-- The text of a device function or of a message, up to a string terminator. -/
  | deviceText
  /-- A command for the system around the terminal, which a bell ends too. -/
  | systemCommand
  deriving DecidableEq, Repr

/-- Blanks and line ends, which are printed also when they stand inside a sequence. -/
def isLayout (c : Char) : Bool := c = '\t' || c = '\n' || c = '\x0c' || c = '\r'

def isControl (c : Char) : Bool := c.toNat < 0x20

def isMark (c : Char) : Bool := 0x20 ≤ c.toNat && c.toNat ≤ 0x2F

def isParameter (c : Char) : Bool := 0x30 ≤ c.toNat && c.toNat ≤ 0x3B

def isPrivate (c : Char) : Bool := 0x3C ≤ c.toNat && c.toNat ≤ 0x3F

def isLast (c : Char) : Bool := 0x40 ≤ c.toNat && c.toNat ≤ 0x7E

/-- The byte that closes a text for a device, alone or within a character. -/
def closesText (c : Char) : Bool := (Utf8.encodeChar c).contains 0x9C && !c.toNat < 0x80

def opened (c : Char) : Mode :=
  if isMark c then .escapeMarks
  else if c = '[' then .control
  else if c = ']' then .systemCommand
  else if c = 'P' then .device
  else if c = 'X' || c = '^' || c = '_' then .deviceText
  else if 0x30 ≤ c.toNat && c.toNat ≤ 0x7E then .printing
  else .escape

def Mode.next (mode : Mode) (c : Char) : Mode :=
  match mode with
  | .printing => .printing
  | .escape => opened c
  | .escapeMarks => if isParameter c || isPrivate c || isLast c then .printing else .escapeMarks
  | .control =>
    if isMark c then .controlMarks
    else if isParameter c || isPrivate c then .controlParameters
    else if isLast c then .printing else .control
  | .controlParameters =>
    if isMark c then .controlMarks
    else if isPrivate c then .controlSkipped
    else if isLast c then .printing else .controlParameters
  | .controlMarks =>
    if isParameter c || isPrivate c then .controlSkipped
    else if isLast c then .printing else .controlMarks
  | .controlSkipped => if isLast c then .printing else .controlSkipped
  | .device =>
    if isMark c then .deviceMarks
    else if isParameter c || isPrivate c then .deviceParameters
    else if isLast c then .deviceText else .device
  | .deviceParameters =>
    if isMark c then .deviceMarks
    else if isPrivate c || isLast c then .deviceText else .deviceParameters
  | .deviceMarks =>
    if isParameter c || isPrivate c || isLast c then .deviceText else .deviceMarks
  | .deviceText => if closesText c then .printing else .deviceText
  | .systemCommand => if c = '\x07' then .printing else .systemCommand

def Mode.executes : Mode → Bool
  | .printing | .escape | .escapeMarks => true
  | .control | .controlParameters | .controlMarks | .controlSkipped => true
  | _ => false

def isPrinted (c : Char) : Bool := isLayout c || (!isControl c && c != '\x7f')

structure Place where
  mode : Mode := .printing
  /-- Whether the last character was printed. -/
  running : Bool := true
  deriving DecidableEq, Repr

def Place.afterPrinted (place : Place) (c : Char) : Place :=
  ⟨if c.toNat < 0x80 then place.mode else .printing, true⟩

def Place.step (place : Place) (c : Char) : Place × Bool :=
  if c = '\x1b' then (⟨.escape, false⟩, false)
  else if c = '\x18' || c = '\x1a' then (⟨.printing, false⟩, false)
  else if isPrinted c && (place.running || place.mode = .printing) ||
      isLayout c && place.mode.executes then
    (place.afterPrinted c, true)
  else (⟨place.mode.next c, false⟩, false)

def plainFrom (place : Place) : List Char → List Char
  | [] => []
  | c :: rest =>
    let (place, printed) := place.step c
    if printed then c :: plainFrom place rest else plainFrom place rest

def plain (text : List Char) : List Char := plainFrom {} text

end Retrace.Text.Terminal
