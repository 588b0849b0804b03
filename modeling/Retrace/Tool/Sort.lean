import Retrace.Shell.Real
import Retrace.Tool.Uniq

/-!
# Sorting lines

Lines are compared by keys in turn, each a part of the line under a kind of order;
lines that are equal so far are compared as a whole.
-/

namespace Retrace.Tool.Sort

open Unix

/-- How texts are compared: by letters, as they are written for it. -/
structure Order where
  letters : Bytes := []
  (skipsStart skipsEnd : Bool := false)

def Order.has (order : Order) (letter : Char) : Bool := order.letters.contains letter

structure Key where
  /-- Fields and characters to pass over; none for the start of the line. -/
  start : Option (Nat × Nat) := none
  /-- The field the key ends in, and how many characters of it belong to the key; none of them
  for all. -/
  stop : Option (Nat × Nat) := none
  order : Order := {}

def isBlank (c : Char) : Bool := c = ' ' || c = '\t' || c = '\n'

def dropFields (tab : Option Char) : Nat → Bytes → Bytes
  | 0, text => text
  | n + 1, text =>
    match tab with
    | some tab => dropFields (some tab) n ((text.dropWhile (· ≠ tab)).drop 1)
    | none => dropFields none n ((text.dropWhile isBlank).dropWhile fun c => !isBlank c)

def Key.from (key : Key) (tab : Option Char) (line : Bytes) : Bytes :=
  match key.start with
  | none => if key.order.skipsStart then line.dropWhile isBlank else line
  | some (fields, chars) =>
    let rest := dropFields tab fields line
    (if key.order.skipsStart then rest.dropWhile isBlank else rest).drop chars

def Key.behind (key : Key) (tab : Option Char) (line : Bytes) : Bytes :=
  match key.stop with
  | none => []
  | some (fields, 0) =>
    match tab with
    | none => dropFields none (fields + 1) line
    | some tab => (dropFields (some tab) fields line).dropWhile (· ≠ tab)
  | some (fields, chars) =>
    let rest := dropFields tab fields line
    (if key.order.skipsEnd then rest.dropWhile isBlank else rest).drop chars

def Key.part (key : Key) (tab : Option Char) (line : Bytes) : Bytes :=
  let rest := key.from tab line
  rest.take (rest.length - (key.behind tab line).length)

/-! ## Kinds of order -/

/-- A decimal number: whether it is negative, its digits before the point without leading zeros,
and those behind it without trailing ones. -/
structure Decimal where
  negative : Bool
  whole : Bytes
  fraction : Bytes

def Decimal.isZero (number : Decimal) : Bool := number.whole.isEmpty && number.fraction.isEmpty

def decimal (text : Bytes) : Decimal × Bytes :=
  let text := text.dropWhile isBlank
  let (negative, rest) : Bool × Bytes := match text with
    | '-' :: rest => (true, rest)
    | _ => (false, text)
  let whole := rest.takeWhile Char.isDigit
  let rest := rest.drop whole.length
  let (fraction, rest) : Bytes × Bytes := match rest with
    | '.' :: more => (more.takeWhile Char.isDigit, more.dropWhile Char.isDigit)
    | _ => ([], rest)
  (⟨negative, whole.dropWhile (· = '0'), (fraction.reverse.dropWhile (· = '0')).reverse⟩, rest)

def compareText (first second : Bytes) : Ordering :=
  if first = second then .eq else if first < second then .lt else .gt

def compareNat (first second : Nat) : Ordering :=
  if first = second then .eq else if first < second then .lt else .gt

def compareSize (first second : Decimal) : Ordering :=
  (compareNat first.whole.length second.whole.length).then
    ((compareText first.whole second.whole).then (compareText first.fraction second.fraction))

def compareDecimal (first second : Decimal) : Ordering :=
  if first.isZero && second.isZero then .eq
  else match first.negative && !first.isZero, second.negative && !second.isZero with
    | true, false => .lt
    | false, true => .gt
    | false, false => compareSize first second
    | true, true => compareSize second first

def compareInt (first second : Int) : Ordering :=
  if first = second then .eq else if first < second then .lt else .gt

def compareGeneral (first second : Bytes) : Ordering :=
  let value := fun text : Bytes =>
    let scan := Shell.Real.scan (text.dropWhile isBlank)
    if scan.found then some scan.value else none
  match value first, value second with
  | none, none => .eq
  | none, some _ => .lt
  | some _, none => .gt
  | some a, some b =>
    if a < b then .lt else if b < a then .gt else if a == b then .eq
    else if a.isNaN then if b.isNaN then .eq else .lt
    else .gt

/-! ### Versions -/

/-- The weight of a character in a version: a tilde before everything, letters before the rest. -/
def versionWeight : Option Char → Int
  | none => -1
  | some c =>
    if c.isDigit then 0 else if c.isAlpha then c.toNat else if c = '~' then -2 else c.toNat + 256

/-- Compares versions: parts that are no digits by weight, digits by value. -/
def compareParts : Nat → Bytes → Bytes → Ordering
  | 0, _, _ => .eq
  | _ + 1, [], [] => .eq
  | fuel + 1, first, second =>
    let isLetter := fun c : Option Char => c.any fun c => !c.isDigit
    if isLetter first.head? || isLetter second.head? then
      match compareInt (versionWeight first.head?) (versionWeight second.head?) with
      | .eq => compareParts fuel (first.drop 1) (second.drop 1)
      | other => other
    else
      let one := (first.takeWhile Char.isDigit).dropWhile (· = '0')
      let two := (second.takeWhile Char.isDigit).dropWhile (· = '0')
      match (compareNat one.length two.length).then (compareText one two) with
      | .eq =>
        compareParts fuel (first.dropWhile Char.isDigit) (second.dropWhile Char.isDigit)
      | other => other

/-- Whether a text is a row of file suffixes: a point and a letter each, then letters and digits. -/
def areSuffixes : Bool → Bool → Bytes → Bool
  | _, wantsLetter, [] => !wantsLetter
  | started, wantsLetter, c :: rest =>
    let isLetter := c.isAlpha || c = '~'
    if wantsLetter then isLetter && areSuffixes true false rest
    else if c = '.' then areSuffixes true true rest
    else started && (isLetter || c.isDigit) && areSuffixes true false rest

def stem (text : Bytes) : Bytes :=
  let places := List.range (text.length + 1)
  text.take ((places.find? fun n => areSuffixes false false (text.drop n)).getD text.length)

def compareVersion (first second : Bytes) : Ordering :=
  let rank := fun text : Bytes =>
    if text.isEmpty then 0 else if text = ['.'] then 1 else if text = ['.', '.'] then 2
    else if text.head? = some '.' then 3 else 4
  let compare := fun a b : Bytes => compareParts (a.length + b.length + 1) a b
  (compareNat (rank first) (rank second)).then
    ((compare (stem first) (stem second)).then (compare first second))

/-! ## Comparing lines -/

def Order.seen (order : Order) (text : Bytes) : Bytes :=
  let text := if order.has 'd' then text.filter fun c => c = ' ' || c = '\t' || c.isAlphanum
    else if order.has 'i' then text.filter Quoted.isPrintable
    else text
  if order.has 'f' then text.map Char.toUpper else text

def Order.compare (order : Order) (first second : Bytes) : Ordering :=
  let one := order.seen first
  let two := order.seen second
  let found :=
    if order.has 'n' then compareDecimal (decimal one).1 (decimal two).1
    else if order.has 'g' then compareGeneral one two
    else if order.has 'V' then compareVersion one two
    else compareText one two
  if order.has 'r' then found.swap else found

structure Style where
  keys : List Key := []
  order : Order := {}
  tab : Option Char := none
  checks : Option Bool := none
  (merges stable unique : Bool := false)
  output : Option Bytes := none
  mark : Char := '\n'

def compareKeys (tab : Option Char) (first second : Bytes) : List Key → Ordering
  | [] => .eq
  | key :: rest =>
    (key.order.compare (key.part tab first) (key.part tab second)).then
      (compareKeys tab first second rest)

def Style.compare (style : Style) (first second : Bytes) : Ordering :=
  let whole :=
    if style.order.has 'r' then compareText second first else compareText first second
  if style.keys.isEmpty then whole
  else
    let found := compareKeys style.tab first second style.keys
    if style.unique || style.stable then found else found.then whole

/-- Keys without an order of their own have that of all; without keys, an order other than
that of bytes is that of the whole line. -/
def Style.settled (style : Style) : Style :=
  let isPlain := fun order : Order => order.letters.isEmpty && !order.skipsStart && !order.skipsEnd
  let keys := style.keys.map fun key => if isPlain key.order then { key with order := style.order } else key
  let needsKey := style.order.letters.any (· ≠ 'r') || style.order.skipsStart
  { style with keys := if keys.isEmpty && needsKey then [{ order := style.order }] else keys }

def Order.conflict? (order : Order) : Option Bytes :=
  let count := fun letters : Bytes => if letters.any order.has then 1 else 0
  if 1 < count ['n'] + count ['g'] + count ['h'] + count ['M'] + count ['V', 'R', 'd', 'i'] then
    some (['d', 'f', 'g', 'h', 'i', 'M', 'n', 'R', 'V'].filter order.has)
  else none

/-! ## Options -/

inductive Flaw where
  | start (text : Bytes)
  | spec (cause : String) (text : Bytes)

def Flaw.text : Flaw → Bytes
  | .start text =>
    "invalid number at field start: invalid count at start of " ++ Quoted.operand text
  | .spec cause text =>
    ofString (cause ++ ": invalid field specification ") ++ Quoted.operand text

def readLetters (order : Order) (atStart : Bool) : Bytes → Order × Bytes
  | [] => (order, [])
  | c :: rest =>
    if c = 'b' then
      readLetters (if atStart then { order with skipsStart := true } else { order with skipsEnd := true })
        atStart rest
    else if "dfghiMnRrV".toList.contains c then
      readLetters { order with letters := c :: order.letters } atStart rest
    else (order, c :: rest)

def number (text : Bytes) : Option Nat × Bytes :=
  let digits := text.takeWhile Char.isDigit
  (if digits.isEmpty then none else some (Text.digitsValue digits), text.drop digits.length)

def readKey (text : Bytes) : Except Flaw Key := do
  let (fields, rest) ← match number text with
    | (none, _) => throw (.start text)
    | (some 0, _) => throw (.spec "field number is zero" text)
    | (some n, rest) => pure (n - 1, rest)
  let (chars, rest) ← match rest with
    | '.' :: more =>
      match number more with
      | (none, _) => throw (.spec "invalid number after '.'" text)
      | (some 0, _) => throw (.spec "character offset is zero" text)
      | (some n, rest) => pure (n - 1, rest)
    | _ => pure (0, rest)
  let start := if fields = 0 && chars = 0 then none else some (fields, chars)
  let (order, rest) := readLetters {} true rest
  match rest with
  | [] => return { start, order }
  | ',' :: more =>
    let (fields, rest) ← match number more with
      | (none, _) => throw (.spec "invalid number after ','" text)
      | (some 0, _) => throw (.spec "field number is zero" text)
      | (some n, rest) => pure (n - 1, rest)
    let (chars, rest) ← match rest with
      | '.' :: more =>
        match number more with
        | (none, _) => throw (.spec "invalid number after '.'" text)
        | (some n, rest) => pure (n, rest)
      | _ => pure (0, rest)
    let (order, rest) := readLetters order false rest
    if !rest.isEmpty then throw (.spec "stray character in field spec" text)
    return { start, stop := some (fields, chars), order }
  | _ => throw (.spec "stray character in field spec" text)

def incompatible (letters : Bytes) : Bytes :=
  "options '-" ++ letters ++ "' are incompatible"

def Style.set (style : Style) (name : String) (value : Bytes) : Work Style := do
  let ordered := fun letter : Char =>
    { style with order := { style.order with letters := letter :: style.order.letters } }
  let checked := fun tells : Bool => do
    if style.checks.any (· ≠ tells) then abort (incompatible ['c', 'C']) 2
    return { style with checks := some tells }
  let separated := fun c : Char => do
    if style.tab.any (· ≠ c) then abort "incompatible tabs" 2
    return { style with tab := some c }
  match name with
  | "b" => return { style with order := { style.order with skipsStart := true, skipsEnd := true } }
  | "k" =>
    match readKey value with
    | .ok key => return { style with keys := style.keys ++ [key] }
    | .error flaw => abort flaw.text 2
  | "t" =>
    match value with
    | [] => abort "empty tab" 2
    | [c] => separated c
    | ['\\', '0'] => separated '\x00'
    | _ => abort ("multi-character tab " ++ Quoted.operand value) 2
  | "c" => checked true
  | "C" => checked false
  | "check" =>
    let value := if value.isEmpty then ofString "diagnose-first" else value
    let meant ← choose "--check" [["quiet", "silent"], ["diagnose-first"]] value
    checked (meant ≠ "quiet")
  | "sort" =>
    match ← choose "--sort" [["general-numeric"], ["human-numeric"], ["month"], ["numeric"],
        ["random"], ["version"]] value with
    | "general-numeric" => return ordered 'g'
    | "human-numeric" => return ordered 'h'
    | "month" => return ordered 'M'
    | "numeric" => return ordered 'n'
    | "random" => return ordered 'R'
    | _ => return ordered 'V'
  | "m" => return { style with merges := true }
  | "s" => return { style with stable := true }
  | "u" => return { style with unique := true }
  | "o" => return { style with output := some value }
  | "z" => return { style with mark := '\x00' }
  | _ =>
    match name.toList with
    | [c] => return if "dfghiMnRrV".toList.contains c then ordered c else style
    | _ => return style

def manual : Manual :=
  (Manual.make "bcCdfghik:mMno:rRsS:t:T:uVz" [("ignore-leading-blanks", "b"), ("dictionary-order", "d"),
    ("ignore-case", "f"), ("general-numeric-sort", "g"), ("human-numeric-sort", "h"),
    ("ignore-nonprinting", "i"), ("key", "k"), ("merge", "m"), ("month-sort", "M"),
    ("numeric-sort", "n"), ("output", "o"), ("random-sort", "R"), ("reverse", "r"), ("stable", "s"),
    ("buffer-size", "S"), ("field-separator", "t"), ("temporary-directory", "T"), ("unique", "u"),
    ("version-sort", "V"), ("zero-terminated", "z")] 2).named
    [("check", .maybe), ("sort", .always), ("parallel", .always), ("batch-size", .always),
      ("compress-program", .always), ("random-source", .always), ("files0-from", .always),
      ("debug", .never)]

/-! ## Sorting -/

def distinct (style : Style) : List Bytes → List Bytes
  | [] => []
  | first :: rest =>
    first :: (rest.foldl (fun (kept, last) line =>
      if style.compare last line = .eq then (kept, last) else (line :: kept, line))
      (([] : List Bytes), first)).1.reverse

def mergeAll (style : Style) (files : List (List Bytes)) : List Bytes :=
  files.foldl (fun merged lines =>
    List.merge merged lines fun a b => style.compare a b ≠ .gt) []

def disorder? (style : Style) (number : Nat) :
    List Bytes → Option (Nat × Bytes)
  | first :: second :: rest =>
    let found := style.compare first second
    if found = .gt || (style.unique && found = .eq) then some (number + 1, second)
    else disorder? style (number + 1) (second :: rest)
  | _ => none

def linesIn (failure : String) (mark : Char) (name : Bytes) : Work (List Bytes) := do
  match ← openInput name with
  | .error cause =>
    abort (ofString failure ++ Quoted.nameIfNeeded name ++ ": " ++ causeText cause) 2
  | .ok fd =>
    let (text, feed) ← Feed.all { fd, block := 65536 }
    if let some cause := feed.flaw then
      let lead := if cause = .badDescriptor then "stat failed: " else "read failed: "
      abort (ofString lead ++ Quoted.nameIfNeeded name ++ ": " ++ causeText cause) 2
    closeInput fd
    return (linesOf mark text).map (unended mark)

/-- That the output could not be written is told of twice. -/
def closing : Closing :=
  { status := 2
    texts := fun cause early =>
      [(if early then "write failed" else "fflush failed") ++ ": 'standard output': " ++ cause.text,
        "write error"] }

def tool : Tool := makeClosing closing fun words => do
  let (style, names) ← manual.heed words ({} : Style) Style.set
  let style := style.settled
  for order in style.order :: style.keys.map (·.order) do
    if let some letters := order.conflict? then
      abort (incompatible letters) 2
  let names := inputs names
  match style.checks with
  | some tells =>
    if let some extra := names[1]? then
      abort ("extra operand " ++ Quoted.name extra ++ " not allowed with -" ++
        [if tells then 'c' else 'C']) 2
    if style.output.isSome then abort (incompatible [if tells then 'c' else 'C', 'o']) 2
    let name := names.headD []
    if let some (number, line) := disorder? style 1 (← linesIn "open failed: " style.mark name) then
      if tells then
        complain (Quoted.nameIfNeeded name ++ ':' :: Text.decimal number ++ ": disorder: " ++
          line) 1
      fail 1
  | none =>
    for name in names do
      if name ≠ ['-'] then
        if let .error cause := (← look).status name true then
          abort ("cannot read: " ++ Quoted.nameIfNeeded name ++ ": " ++
            causeText cause) 2
    let files ← names.mapM (linesIn "cannot read: " style.mark)
    let lines := if style.merges then mergeAll style files
      else files.flatten.mergeSort fun a b => style.compare a b ≠ .gt
    let lines := if style.unique then distinct style lines else lines
    if let some output := style.output then
      match ← ask (.openFile output .output 438) with
      | .error cause =>
        abort ("open failed: " ++ Quoted.nameIfNeeded output ++ ": " ++
          causeText cause) 2
      | .ok fd =>
        let _ ← ask (.copy fd 1)
        close fd
    for line in lines do
      out (line ++ [style.mark])

end Retrace.Tool.Sort
