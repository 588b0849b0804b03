import Retrace.Tool.Amount
import Retrace.Tool.Options
import Retrace.Tool.Quoted
import Retrace.Tool.Spawn

/-!
# Commands from input

The items of the input become words of a command, as many at a time as are allowed.
-/

namespace Retrace.Tool.Batch

open Unix

structure Item where
  text : Bytes
  last : Bool := false

inductive Flaw where
  | single
  | double

def isBlank (c : Char) : Bool := c = ' ' || c = '\t'

/-- The items of a text, where quotes and backslashes keep blanks, and what ends them too early.
`byLine` makes an item of every line that is not blank. `held` is the item that has begun, last
first; items come last first too. A blank at the end of a line joins the next line to it. -/
def itemsFrom (byLine : Bool) :
    Option Bytes → Option Char → List Item → Bytes → List Item × Option Flaw
  | _, some '\'', items, [] => (items.reverse, some .single)
  | _, some _, items, [] => (items.reverse, some .double)
  | some text, none, items, [] => (((⟨text.reverse, true⟩ : Item) :: items).reverse, none)
  | none, none, items, [] => (items.reverse, none)
  | held, some '\\', items, c :: rest => itemsFrom byLine (some (c :: held.getD [])) none items rest
  | held, some mark, items, c :: rest =>
    if c = mark then itemsFrom byLine (some (held.getD [])) none items rest
    else if c = '\n' then (items.reverse, some (if mark = '\'' then .single else .double))
    else itemsFrom byLine (some (c :: held.getD [])) (some mark) items rest
  | held, none, items, c :: rest =>
    if c = '\'' || c = '"' || c = '\\' then itemsFrom byLine (some (held.getD [])) (some c) items rest
    else if c = '\n' || (isBlank c && !byLine) then
      match held with
      | some text => itemsFrom byLine none none (⟨text.reverse, c = '\n'⟩ :: items) rest
      | none => itemsFrom byLine none none items rest
    else if isBlank c && held.isNone then itemsFrom byLine none none items rest
    else itemsFrom byLine (some (c :: held.getD [])) none items rest

structure Style where
  mark : Option Char := none
  (most mostLines : Option Nat := none)
  size : Nat := 131072
  slot : Option Bytes := none
  (skipsEmpty tells : Bool := false)
  (stop input : Option Bytes := none)
  strict : Bool := false

/-- A text with every occurrence of another in it replaced. What is still to be passed over has
been replaced. -/
def substituted (slot value : Bytes) : Nat → Bytes → Bytes
  | _, [] => []
  | passed + 1, _ :: rest => substituted slot value passed rest
  | 0, c :: rest =>
    if slot.isPrefixOf (c :: rest) then value ++ substituted slot value (slot.length - 1) rest
    else c :: substituted slot value 0 rest

def run (exec : Exec) (style : Style) (command : List Bytes) : Work Unit := do
  if style.tells then note (joined ' ' (command.map Quoted.nameIfNeeded) ++ ['\n'])
  let bench ← get
  let name := command.headD []
  let ready : Program Unit := do
    if style.input.isNone then
      if let .ok fd ← Program.ask (.openFile "/dev/null" .input 0) then
        let _ ← Program.ask (.copy fd 0)
        Program.close fd
  match ← spawn exec command bench.env ready with
  | .error text => abort (name ++ ": " ++ text) (if text = causeText .notFound then 127 else 126)
  | .ok child =>
    match ← await child with
    | .killed signal => abort (name ++ ": terminated by signal " ++ Text.decimal signal) 125
    | .exited 0 => return
    | .exited 255 => abort (name ++ ": exited with status 255; aborting") 124
    | .exited _ => fail 123

def room (words : List Bytes) : Nat := (words.map (·.length + 1)).foldl (· + ·) 0

/-- The items that go into the next command: as many as are allowed. `lines` is how many lines
they are on. -/
def Style.next (style : Style) (left : Nat) : Nat → Nat → Nat → List Item → List Bytes × List Item
  | _, _, _, [] => ([], [])
  | count, lines, used, item :: rest =>
    if style.most.any (· ≤ count) || style.mostLines.any (· ≤ lines) ||
        (left < used + item.text.length + 1 && count ≠ 0) then ([], item :: rest)
    else
      let (taken, more) := style.next left (count + 1) (lines + if item.last then 1 else 0)
        (used + item.text.length + 1) rest
      (item.text :: taken, more)

def runAll (exec : Exec) (style : Style) (command : List Bytes) : Nat → List Item → Work Unit
  | 0, _ => return
  | fuel + 1, items => do
    if items.isEmpty then return
    let left := style.size - room command
    if items.any fun item => left < item.text.length + 1 then
      abort "argument line too long" 1
    let (words, rest) := style.next left 0 0 0 items
    run exec style (command ++ words)
    runAll exec style command fuel rest

def positive (letter : String) (value : Bytes) : Work Nat := do
  match integer? value with
  | some n =>
    if n < 1 then
      misuse ("value " ++ value ++ ofString (" for -" ++ letter ++ " option should be >= 1")) 1
    return n.toNat
  | none =>
    misuse ("invalid number \"" ++ value ++ ofString ("\" for -" ++ letter ++ " option")) 1

def markOf (text : Bytes) : Work Char := do
  match text with
  | [c] => return c
  | ['\\', 'n'] => return '\n'
  | ['\\', 't'] => return '\t'
  | ['\\', '0'] => return '\x00'
  | ['\\', '\\'] => return '\\'
  | ['\\', 'r'] => return '\r'
  | _ => abort (ofString "Invalid input delimiter specification " ++ text ++
      ofString ": the delimiter must be either a single character or an escape sequence starting with \\.") 1

def Style.set (style : Style) (name : String) (value : Bytes) : Work Style := do
  let replacing := fun (slot : Bytes) =>
    { style with slot := some slot, mostLines := none, most := none, strict := true }
  match name with
  | "0" => return { style with mark := some '\x00' }
  | "d" => return { style with mark := some (← markOf value) }
  | "n" =>
    let most ← positive "n" value
    if style.mostLines.isSome then
      warn (ofString "warning: options --max-lines and --max-args/-n are mutually exclusive, ignoring previous --max-lines value")
    return { style with most := some most, mostLines := none,
                        slot := if most = 1 then style.slot else none }
  | "L" | "l" =>
    let lines ← if value.isEmpty then pure 1 else positive name value
    if style.most.isSome then
      warn (ofString "warning: options --max-args and -L are mutually exclusive, ignoring previous --max-args value")
    return { style with mostLines := some lines, most := none, slot := none }
  | "s" => return { style with size := min 131072 (← positive "s" value) }
  | "I" => return replacing value
  | "i" => return replacing (if value.isEmpty then ofString "\x7b\x7d" else value)
  | "r" => return { style with skipsEmpty := true }
  | "t" => return { style with tells := true }
  | "E" | "e" => return { style with stop := if value.isEmpty then none else some value }
  | "a" => return { style with input := some value }
  | "x" => return { style with strict := true }
  | _ => return style

def tool (exec : Exec) : Tool := make fun words => do
  let manual :=
    { (Manual.make "0a:E:e::i::I:l::L:n:prs:txP:d:" [("null", "0"), ("arg-file", "a"), ("delimiter", "d"),
      ("eof", "e"), ("replace", "i"), ("max-lines", "l"), ("max-args", "n"), ("interactive", "p"),
      ("no-run-if-empty", "r"), ("max-chars", "s"), ("verbose", "t"), ("exit", "x"), ("max-procs", "P")]
      1).named [("show-limits", .never), ("process-slot-var", .always), ("open-tty", .never)] with ordered := true }
  let (style, operands) ← manual.heed words ({} : Style) Style.set
  let command := if operands.isEmpty then [ofString "echo"] else operands
  let fd ← match style.input with
    | none => pure 0
    | some name =>
      match ← openInput name with
      | .ok fd => pure fd
      | .error cause =>
        abort (ofString "Cannot open input file " ++ Quoted.operand name ++ ofString ": " ++ causeText cause) 1
  let (text, feed) ← Feed.all { fd }
  let (items, flaw) : List Item × Option Flaw := match style.mark with
    | some mark => ((linesOf mark text).map fun line => ⟨unended mark line, true⟩, none)
    | none => itemsFrom style.slot.isSome none none [] text
  let items := match style.stop with
    | some stop => if style.mark.isNone then items.takeWhile (fun (item : Item) => item.text ≠ stop) else items
    | none => items
  match style.slot with
  | some slot =>
    for item in items do
      run exec style (command.headD [] :: (command.drop 1).map (substituted slot item.text 0))
  | none =>
    if items.isEmpty then
      if !style.skipsEmpty && flaw.isNone then run exec style command
    else runAll exec style command (items.length + 1) items
  if let some flaw := flaw then
    let kind := match flaw with
      | .single => "single"
      | .double => "double"
    abort (ofString ("unmatched " ++ kind ++
      " quote; by default quotes are special to xargs unless you use the -0 option")) 1
  if fd = 0 then if let some cause := feed.flaw then
    let why := if cause = .badDescriptor then ": " ++ cause.text else ""
    complain (ofString ("error closing file" ++ why)) 1

end Retrace.Tool.Batch
