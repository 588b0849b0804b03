import Retrace.Regex.Charset
import Retrace.Tool.Options
import Retrace.Tool.Quoted

/-!
# Translating characters

Characters of one set become those at the same place of another; they can also be
left out, and runs of the same one be made short. A set is written as characters,
ranges, classes by name, and one character so many times.
-/

namespace Retrace.Tool.Translate

open Unix

inductive Item where
  | chars (chars : Bytes)
  | lower
  | upper
  | named (chars : Bytes)
  | same (c : Char)
  /-- One character so many times; none fills the set up. -/
  | filled (c : Char) (count : Option Nat)

inductive Flaw where
  | reversed (low high : Char)
  | unknownClass (name : Bytes)
  | equivalence (name : Bytes)
  | count (text : Bytes)

def shown (c : Char) : Bytes := if Quoted.isPrintable c then [c] else Quoted.escaped c

def Flaw.text : Flaw → Bytes
  | .reversed low high =>
    "range-endpoints of '" ++ shown low ++ '-' :: shown high ++
      "' are in reverse collating sequence order"
  | .unknownClass name => "invalid character class " ++ Quoted.operand name
  | .equivalence name => name ++ ": equivalence class operand must be a single character"
  | .count text =>
    "invalid repeat count " ++ Quoted.operand text ++ " in [c*n] construct"

abbrev Written := Char × Bool

def octalDigit? (c : Char) : Option Nat := if '0' ≤ c && c ≤ '7' then some (c.toNat - 48) else none

/-- The character that is written behind a backslash, and how much of the text that takes up. -/
def escapedAt (text : Bytes) : Char × Nat :=
  match text with
  | [] => ('\\', 0)
  | 'a' :: _ => ('\x07', 1)
  | 'b' :: _ => ('\x08', 1)
  | 'f' :: _ => ('\x0c', 1)
  | 'n' :: _ => ('\n', 1)
  | 'r' :: _ => ('\r', 1)
  | 't' :: _ => ('\t', 1)
  | 'v' :: _ => ('\x0b', 1)
  | c :: _ =>
    let digits := (text.take 3).map octalDigit? |>.takeWhile Option.isSome |>.filterMap id
    let value := fun digits : List Nat => digits.foldl (fun n digit => n * 8 + digit) 0
    if digits.isEmpty then (c, 1)
    else if value digits < 256 then (Char.ofNat (value digits), digits.length)
    else (Char.ofNat (value (digits.take 2)), 2)

def unescapedFrom : Nat → Bytes → List Written
  | _, [] => []
  | passed + 1, _ :: rest => unescapedFrom passed rest
  | 0, c :: rest =>
    if c = '\\' then
      let (meant, used) := escapedAt rest
      (meant, true) :: unescapedFrom used rest
    else (c, false) :: unescapedFrom 0 rest

def unescaped (text : Bytes) : List Written := unescapedFrom 0 text

def byteList : Bytes := (List.range 256).map Char.ofNat

def className? (name : Bytes) : Option Item :=
  match String.ofList name with
  | "lower" => some .lower
  | "upper" => some .upper
  | text => (Charset.ofName? text).bind fun set =>
    if text = "word" || text = "ascii" then none else some (.named (byteList.filter set.mem))

def upTo (first second : Char) : List Written → Option (Bytes × List Written)
  | (a, false) :: (b, false) :: rest =>
    if a = first && b = second then some ([], rest)
    else (upTo first second ((b, false) :: rest)).map fun (before, after) => (a :: before, after)
  | (a, _) :: rest => (upTo first second rest).map fun (before, after) => (a :: before, after)
  | [] => none

def count? (text : Bytes) : Option (Option Nat) :=
  if text.isEmpty then some none
  else if !text.all Char.isDigit then none
  else
    let n := if text.head? = some '0' then text.foldl (fun n c => n * 8 + (c.toNat - 48)) 0
      else Text.digitsValue text
    some (if n = 0 then none else some n)

def items : Nat → List Written → Except Flaw (List Item)
  | 0, _ => .ok []
  | _ + 1, [] => .ok []
  | fuel + 1, written => do
    let bracketed : Except Flaw (Option (Item × List Written)) :=
      match written with
      | ('[', false) :: (':', false) :: rest =>
        match upTo ':' ']' rest with
        | some (name, after) =>
          match className? name with
          | some item => .ok (some (item, after))
          | none => if name.isEmpty then .ok none else .error (.unknownClass name)
        | none => .ok none
      | ('[', false) :: ('=', false) :: rest =>
        match upTo '=' ']' rest with
        | some ([c], after) => .ok (some (.same c, after))
        | some (name, _) => if name.isEmpty then .ok none else .error (.equivalence name)
        | none => .ok none
      | ('[', false) :: (c, _) :: ('*', false) :: rest =>
        let text := rest.takeWhile (·.1 ≠ ']')
        if text.length = rest.length then .ok none
        else if text.any (·.2) then .ok none
        else match count? (text.map (·.1)) with
          | some count => .ok (some (.filled c count, rest.drop (text.length + 1)))
          | none => .error (.count (text.map (·.1)))
      | _ => .ok none
    match ← bracketed with
    | some (item, rest) => return item :: (← items fuel rest)
    | none =>
      match written with
      | (low, _) :: ('-', false) :: (high, _) :: rest =>
        if high < low then throw (.reversed low high)
        let chars := (List.range (high.toNat + 1 - low.toNat)).map fun n => Char.ofNat (low.toNat + n)
        return .chars chars :: (← items fuel rest)
      | (c, _) :: rest => return .chars [c] :: (← items fuel rest)
      | [] => return []

def read (text : Bytes) : Except Flaw (List Item) :=
  let written := unescaped text
  items (written.length + 1) written

def lowers : Bytes := byteList.filter Char.isLower
def uppers : Bytes := byteList.filter Char.isUpper

/-- The characters of an item, apart from what fills a set up. -/
def Item.chars' : Item → Bytes
  | .chars held => held
  | .lower => lowers
  | .upper => uppers
  | .named held => held
  | .same c => [c]
  | .filled c count => List.replicate (count.getD 0) c

def all (items : List Item) : Bytes := items.flatMap Item.chars'

def filledTo (length : Nat) (items : List Item) : Bytes :=
  let missing := length - (all items).length
  let grow := fun (found, done) item =>
    match item with
    | .filled c none => if done then (found, done) else (found ++ List.replicate missing c, true)
    | item => (found ++ item.chars', done)
  (items.foldl grow (([] : Bytes), false)).1

/-- Whether classes of letters of one case stand where the other set has one too. -/
def casesAlign (first second : List Item) : Bool :=
  let starts := fun items : List Item =>
    (items.foldl (fun (places, n) item =>
      match item with
      | .lower => (n :: places, n + 26)
      | .upper => (n :: places, n + 26)
      | item => (places, n + item.chars'.length)) (([] : List Nat), 0)).1
  (starts second).all (starts first).contains

def fillers (items : List Item) : Nat :=
  items.countP fun item =>
    match item with
    | .filled _ none => true
    | _ => false

structure Style where
  (inverted deletes squeezes cuts : Bool := false)

/-- What becomes of each character, if it changes: the last of its places in the set counts. -/
def table (first second : Bytes) : List (Char × Char) := (first.zip second).reverse

def squeezed (isSqueezed : Char → Bool) (last : Option Char) (text : Bytes) : Bytes × Option Char :=
  let (found, last) := text.foldl (fun (found, last) c =>
    if last = some c && isSqueezed c then (found, last) else (c :: found, some c)) ([], last)
  (found.reverse, last)

def manual : Manual :=
  { Manual.make "cCdst" [("complement", "c"), ("delete", "d"), ("squeeze-repeats", "s"),
      ("truncate-set1", "t")] with ordered := true }.named

/-- A rule for text: what it becomes, given the character written last. -/
abbrev Rule := Option Char → Bytes → Bytes × Option Char

def readOrAbort (text : Bytes) : Work (List Item) := do
  match read text with
  | .ok items => return items
  | .error flaw => abort flaw.text 1

def translation (style : Style) (items others : List Item) : Work (Char → Char) := do
  let chosen := all items
  let first := if style.inverted then byteList.filter (!chosen.contains ·) else chosen
  if others.any fun item => match item with | .same _ => true | _ => false then
    abort "[=c=] expressions may not appear in string2 when translating" 1
  if others.any fun item => match item with | .named _ => true | _ => false then
    abort "when translating, the only character classes that may appear in\nstring2 are 'upper' and 'lower'" 1
  let second := filledTo first.length others
  let endsInClass := match others.getLast? with
    | some .lower => true
    | some .upper => true
    | _ => false
  let isCase := fun item : Item => match item with | .lower => true | .upper => true | _ => false
  if others.any isCase && !style.inverted && !casesAlign items others then
    abort "misaligned [:upper:] and/or [:lower:] construct" 1
  if !style.cuts && second.length < first.length then
    if second.isEmpty then abort "when not truncating set1, string2 must be non-empty" 1
    if endsInClass then
      abort "when translating with string1 longer than string2,\nthe latter string must not end with a character class" 1
  let isClass := fun item : Item => isCase item || match item with | .named _ => true | _ => false
  if style.inverted && items.any isClass && second.any (some · ≠ second.head?) then
    abort "when translating with complemented character classes,\nstring2 must map all characters in the domain to one" 1
  let second := if style.cuts then second
    else second ++ List.replicate (first.length - second.length) (second.getLastD ' ')
  let table := table first second
  return fun c => (table.lookup c).getD c

def follow (rule : Rule) : Nat → Option Char → Work Unit
  | 0, _ => return
  | fuel + 1, last => do
    match ← ask (.read 0 8192) with
    | .ok [] => return
    | .ok text =>
      let (text, last) := rule last text
      out text
      follow rule fuel last
    | .error .interrupted => follow rule fuel last
    | .error cause => abort ("read error: " ++ causeText cause) 1

def tool : Tool := make fun words => do
  let (style, operands) ← manual.heed words ({} : Style) fun style name _ =>
    match name with
    | "c" => return { style with inverted := true }
    | "C" => return { style with inverted := true }
    | "d" => return { style with deletes := true }
    | "s" => return { style with squeezes := true }
    | "t" => return { style with cuts := true }
    | _ => return style
  let most := if style.deletes && !style.squeezes then 1 else 2
  let least := if style.deletes = style.squeezes then 2 else 1
  let retry := fun (note : String) =>
    ofString (if note.isEmpty then "" else "\n" ++ note)
  match operands with
  | [] => misuse "missing operand" 1
  | [only] =>
    if least = 2 then
      misuse ("missing operand after " ++ Quoted.operand only ++
        retry (if style.squeezes then
            "Two strings must be given when both deleting and squeezing repeats."
          else "Two strings must be given when translating.")) 1
  | _ => pure ()
  if let some extra := operands[most]? then
    misuse ("extra operand " ++ Quoted.operand extra ++
      retry (if operands.length = 2 then
        "Only one string may be given when deleting without squeezing repeats." else "")) 1
  let first ← readOrAbort (operands.headD [])
  let chosen := all first
  let isChosen := fun c => chosen.contains c != style.inverted
  let second ← match operands.tail.head? with
    | some text => do pure (some (← readOrAbort text))
    | none => pure none
  if 0 < fillers first then
    abort "the [c*] repeat construct may not appear in string1" 1
  if second.any fun others => 1 < fillers others then
    abort "only one [c*] repeat construct may appear in string2" 1
  if style.deletes && second.any fun others => 0 < fillers others then
    abort "the [c*] construct may appear in string2 only when translating" 1
  match second with
  | none =>
    let rule : Rule := fun last text =>
      if style.deletes then (text.filter (!isChosen ·), last) else squeezed isChosen last text
    follow rule Program.manySteps none
  | some others =>
    if style.deletes then
      let kept := all others
      follow (fun last text => squeezed kept.contains last (text.filter (!isChosen ·)))
        Program.manySteps none
    else
      let become ← translation style first others
      let inverted := byteList.filter isChosen
      let kept := filledTo (if style.inverted then inverted.length else chosen.length) others
      follow (fun last text =>
          let text := text.map become
          if style.squeezes then squeezed kept.contains last text else (text, last))
        Program.manySteps none

end Retrace.Tool.Translate
