import Retrace.Shell.Lookup

/-!
# Listing variables

How the richer shell shows its variables: as the commands that would make them again.
-/

/-!
## Quoting

The ways the richer shell writes a text so that it can be read back: between single
quotes, between double quotes, with backslashes, or with escapes if it holds characters
that cannot be shown.
-/

namespace Retrace.Shell.Quoting

open Unix

def isShown (c : Char) : Bool := ' ' ≤ c && c ≤ '~'

variable (text : Bytes)

def needsEscapes : Bool := text.any fun c => !isShown c

def escapes : List (Char × String) :=
  [('\x1b', "\\E"), ('\x07', "\\a"), ('\x08', "\\b"), ('\x0c', "\\f"), ('\n', "\\n"), ('\r', "\\r"),
    ('\t', "\\t"), ('\x0b', "\\v"), ('\\', "\\\\"), ('\'', "\\'")]

def octalDigits (n : Nat) : Bytes :=
  [n / 64 % 8, n / 8 % 8, n % 8].map fun digit => Char.ofNat (digit + '0'.toNat)

def escaped : Bytes :=
  '$' :: '\'' :: text.flatMap (fun c =>
    match escapes.lookup c with
    | some escape => escape.toList
    | none => if isShown c then [c] else '\\' :: octalDigits c.toNat) ++ ['\'']

def single : Bytes :=
  '\'' :: text.flatMap (fun c => if c = '\'' then ['\'', '\\', '\'', '\''] else [c]) ++ ['\'']

def singleQuoted : Bytes :=
  if text = ['\''] then ['\\', '\''] else single text

def double : Bytes :=
  '\x22' :: text.flatMap (fun c =>
    if ['\x22', '$', '\x60', '\\'].contains c then ['\\', c] else [c]) ++ ['\x22']

def forListing : Bytes :=
  if needsEscapes text then escaped text else double text

def reusable : Bytes :=
  if text.isEmpty then ['\'', '\'']
  else if needsEscapes text then escaped text
  else singleQuoted text

def hidden : Bytes := "\t\n !\"$&'()*,;<>?[\\]^\x60\x7b|\x7d".toList

def backslashed : Bytes :=
  if text.isEmpty then ['\'', '\'']
  else if needsEscapes text then escaped text
  else (text.zip (none :: text.map some)).flatMap fun (c, before) =>
    let starts := before.isNone
    let isTilde := c = '~' && (starts || before = some ':' || before = some '=')
    if hidden.contains c || isTilde || (c = '#' && starts) then ['\\', c] else [c]

def hasMeaning : Bool :=
  (text.zip (none :: text.map some)).any fun (c, before) =>
    " \t\n'\"\\|&;()<>!\x7b\x7d*[?]^$\x60".toList.contains c ||
      (c = '~' && (before.isNone || before = some '=' || before = some ':')) ||
      (c = '#' && before.isNone)

def ifNeeded : Bytes :=
  if needsEscapes text then escaped text
  else if hasMeaning text then singleQuoted text
  else text

end Retrace.Shell.Quoting

/-! ## Variables -/

namespace Retrace.Shell

open Unix

namespace Variable

def letters (held : Variable) : Bytes :=
  let kind := match held.elements with
    | some (.row _) => ['a']
    | some (.table _) => ['A']
    | none => []
  let mark := fun (on : Bool) (letter : Char) => if on then [letter] else []
  kind ++ mark held.integer 'i' ++ mark held.refers 'n' ++ mark held.readonly 'r' ++
    mark held.traced 't' ++ mark held.exported 'x' ++ mark held.lower 'l' ++ mark held.upper 'u'

end Variable

namespace Elements

def shownKey (elements : Elements) (key : Bytes) : Bytes :=
  match elements with
  | .row _ => key
  | .table _ =>
    if Quoting.needsEscapes key then Quoting.escaped key
    else if Quoting.hasMeaning key || key.isEmpty then Quoting.double key
    else key

def shown (elements : Elements) : Bytes :=
  let rows := elements.entries.map fun (key, value) =>
    '[' :: elements.shownKey key ++ [']', '='] ++ Quoting.forListing value
  let body := joined ' ' rows
  match elements with
  | .row _ => '(' :: body ++ [')']
  | .table _ => '(' :: body ++ (if rows.isEmpty then [')'] else [' ', ')'])

end Elements

def Variable.shownValue (held : Variable) (quote : Bytes → Bytes) : Bytes :=
  match held.elements, held.value with
  | some elements, some _ => '=' :: elements.shown
  | some elements, none => if elements.size = 0 then [] else '=' :: elements.shown
  | none, some value => '=' :: quote value
  | none, none => []

def declaration (name : Bytes) (held : Variable) : Bytes :=
  let letters := held.letters
  "declare -" ++ (if letters.isEmpty then ['-'] else letters) ++ [' '] ++ name ++
    held.shownValue Quoting.forListing

def settingRow (name : Bytes) (held : Variable) : Bytes :=
  name ++ held.shownValue Quoting.ifNeeded

def Session.chosen (session : Session) (chosen : Variable → Bool) : List (Bytes × Variable) :=
  (session.vars.filter fun (_, held) => chosen held).mergeSort fun a b => !decide (b.1 < a.1)

end Retrace.Shell
