import Retrace.Tool.Amount
import Retrace.Tool.Options

/-!
# Comparing byte by byte

Tells where two files first differ, or where they do everywhere.
-/

namespace Retrace.Tool.Compare

open Unix Text

structure Style where
  (shows all silent : Bool := false)
  limit : Option Nat := none
  (firstSkip secondSkip : Nat := 0)

def visible (c : Char) : Bytes :=
  let low := fun n : Nat =>
    if n < 32 then ['^', Char.ofNat (n + 64)] else if n = 127 then ['^', '?'] else [Char.ofNat n]
  if 128 ≤ c.toNat then 'M' :: '-' :: low (c.toNat - 128) else low c.toNat

def octalText (c : Char) : Bytes := padLeft 3 (Nat.toDigits 8 c.toNat)

structure Place where
  (byte line : Nat := 1)
  fresh : Bool := true
  differs : Bool := false

def compare (style : Style) (width : Nat) (names : Bytes × Bytes) :
    Place → List (Char × Char) → Work Place
  | place, [] => return place
  | place, (a, b) :: rest => do
    let next := { place with
      byte := place.byte + 1
      line := if a = '\n' then place.line + 1 else place.line
      fresh := a = '\n' }
    if a = b then compare style width names next rest
    else if style.silent then exit 1
    else if style.all then
      out (padLeft width (decimal place.byte) ++ ' ' :: octalText a ++
        (if style.shows then ' ' :: padRight 4 (visible a) else []) ++ ' ' :: octalText b ++
        (if style.shows then ' ' :: visible b else []) ++ ['\n'])
      compare style width names { next with differs := true } rest
    else
      let word := if style.shows then " differ: byte " else " differ: char "
      out (names.1 ++ ' ' :: names.2 ++ ofString word ++ decimal place.byte ++ ", line " ++
        decimal place.line ++
        (if style.shows then " is " ++ octalText a ++ ' ' :: visible a ++ ' ' :: octalText b ++
          ' ' :: visible b else []) ++ ['\n'])
      exit 1

def tellEnd (style : Style) (name : Bytes) (place : Place) : Work Unit := do
  if style.silent then return
  let after := ofString " after byte " ++ decimal (place.byte - 1)
  interject (ofString "cmp: EOF on " ++ name ++
    (if place.byte = 1 then ofString " which is empty"
    else if style.all then after
    else if place.fresh then after ++ ofString ", line " ++ decimal (place.line - 1)
    else after ++ ofString ", in line " ++ decimal place.line) ++ ['\n'])

/-- Compares what is left of two files, within so many steps. `left` is how much may still be
compared. -/
def compareAll (style : Style) (width : Nat) (names : Bytes × Bytes) :
    Nat → Option Nat → Place → Feed → Feed → Work Unit
  | 0, _, _, _, _ => return
  | fuel + 1, left, place, first, second => do
    let size := match left with
      | some left => min left 4096
      | none => 4096
    let (a, first) ← first.take size
    if let some cause := first.flaw then abort (names.1 ++ ": " ++ causeText cause) 2
    let (b, second) ← second.take size
    if let some cause := second.flaw then abort (names.2 ++ ": " ++ causeText cause) 2
    let place ← compare style width names place (a.zip b)
    if a.length ≠ b.length then
      tellEnd style (if a.length < b.length then names.1 else names.2) place
      fail 1
    else if a.length = size && size ≠ 0 then
      compareAll style width names fuel (left.map (· - size)) place first second
    else if place.differs then fail 1

def countOf (option : String) (text : Bytes) : Work Nat := do
  match amount? text with
  | some n => return n
  | none => misuseSigned (ofString ("invalid --" ++ option ++ " value '") ++ text ++ ['\'']) 2

def Style.skip (style : Style) (text : Bytes) : Work Style := do
  let first := text.takeWhile (· ≠ ':')
  let n ← match amount? first with
    | some n => pure n
    | none => countOf "ignore-initial" text
  match text.drop first.length with
  | [] => return { style with firstSkip := max style.firstSkip n, secondSkip := max style.secondSkip n }
  | _ :: second =>
    let m ← match amount? second with
      | some m => pure m
      | none => countOf "ignore-initial" text
    return { style with firstSkip := max style.firstSkip n, secondSkip := max style.secondSkip m }

def Style.set (style : Style) (name : String) (value : Bytes) : Work Style := do
  match name with
  | "b" | "c" => return { style with shows := true }
  | "l" => return { style with all := true }
  | "s" => return { style with silent := true }
  | "i" => style.skip value
  | "n" =>
    let n ← countOf "bytes" value
    return { style with limit := some (min n (style.limit.getD n)) }
  | _ => exit 0

def openSide (style : Style) (name : Bytes) : Work Nat := do
  match ← openInput name with
  | .ok fd => return fd
  | .error cause =>
    if style.silent then exit 2
    abort (name ++ ": " ++ causeText cause) 2

def passOver (fd skip : Nat) : Work Feed := do
  let (_, feed) ← Feed.take { fd } skip
  return feed

/-- What an open file is: a file of its own, how far it has been read, and its size if it has
one. -/
def sideOf (view : View) (fd : Nat) : Option (Target × Nat × Option Nat) := do
  let file ← view.files.lookup fd
  let size := match file.target with
    | .inode number =>
      match view.volume.get? number with
      | some { body := .file content, .. } => some content.size
      | _ => none
    | _ => none
  some (file.target, file.offset, size)

def closing : Closing :=
  { status := 2, texts := fun cause _ => ["standard output: " ++ cause.text] }

def tool : Tool := makeClosing closing fun words => do
  let manual :=
    { (Manual.make "bci:ln:sv" [("print-bytes", "b"), ("print-chars", "c"), ("ignore-initial", "i"),
      ("verbose", "l"), ("bytes", "n"), ("silent", "s"), ("quiet", "s"), ("version", "v")] 2).named
      [("help", .never)] [] with signs := true }
  let (style, operands) ← manual.heed words ({} : Style) Style.set
  if style.all && style.silent then
    misuseSigned "options -l and -s are incompatible" 2
  if operands.isEmpty then
    misuseSigned ("missing operand after '" ++ (← get).name ++ ['\'']) 2
  let first := operands.headD []
  let second := operands[1]?.getD ['-']
  let style ← match operands[2]? with
    | some text => pure { style with firstSkip := max style.firstSkip (← countOf "ignore-initial" text) }
    | none => pure style
  let style ← match operands[3]? with
    | some text => pure { style with secondSkip := max style.secondSkip (← countOf "ignore-initial" text) }
    | none => pure style
  if let some extra := operands[4]? then
    misuseSigned ("extra operand '" ++ extra ++ ['\'']) 2
  if first = ['-'] && second = ['-'] then return
  if (first = ['-'] || second = ['-']) && ((← look).files.lookup 0).isNone then
    abort ("-: " ++ causeText .badDescriptor) 2
  let a ← openSide style first
  let b ← openSide style second
  let view ← look
  match sideOf view a, sideOf view b with
  | some (firstTarget, firstOffset, firstSize), some (secondTarget, secondOffset, secondSize) =>
    let firstStart := firstOffset + style.firstSkip
    let secondStart := secondOffset + style.secondSkip
    if firstTarget = secondTarget && firstStart = secondStart then return
    if style.silent && style.limit.isNone then
      if let (some m, some n) := (firstSize, secondSize) then
        if m - firstStart ≠ n - secondStart then exit 1
    let sizes := (firstSize.map (· - firstStart)).toList ++ (secondSize.map (· - secondStart)).toList ++
      style.limit.toList
    let most := sizes.foldl min 9223372036854775807
    let width := (decimal most).length
    let firstFeed ← passOver a style.firstSkip
    let secondFeed ← passOver b style.secondSkip
    compareAll style width (first, second) Program.manySteps style.limit {} firstFeed secondFeed
  | _, _ => abort ("-: " ++ causeText .badDescriptor) 2

end Retrace.Tool.Compare
