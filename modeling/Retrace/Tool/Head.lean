import Retrace.Tool.Amount
import Retrace.Tool.Options
import Retrace.Tool.Quoted

/-!
# The first and last parts of files

So many lines or bytes from the start, or all but so many at the end; and so many
from the end, or all from a place on. Several files have headings.
-/

namespace Retrace.Tool

open Unix

structure Extract where
  count : Nat := 10
  (bytes inverted quiet headed : Bool := false)
  mark : Char := '\n'

namespace Extract

def title (name : Bytes) : Bytes :=
  if name = ['-'] then "standard input" else name

variable (extract : Extract)

def heading (several first : Bool) (name : Bytes) : Work Unit := do
  if extract.headed || (several && !extract.quiet) then
    out ((if first then [] else ['\n']) ++ "==> " ++ title name ++ " <==\n")

def each (extract : Extract) (several : Bool) (work : Bytes → Nat → Work Unit) :
    Bool → List Bytes → Work Unit
  | _, [] => return
  | first, name :: rest => do
    match ← openInput name with
    | .error cause =>
      complain ("cannot open " ++ Quoted.name name ++ " for reading: " ++
        causeText cause) 1
      each extract several work first rest
    | .ok fd =>
      heading extract several first name
      work name fd
      closeInput fd
      each extract several work false rest

def report (name : Bytes) (cause : OsError) : Work Unit :=
  complain ("error reading " ++ Quoted.name (title name) ++ ": " ++
    causeText cause) 1

/-! ## The start -/

def firstLines (mark : Char) : Nat → Feed → Work Feed
  | 0, feed => return feed
  | n + 1, feed => do
    let (line, feed) ← feed.line mark
    match line with
    | none => return feed
    | some line =>
      out line
      firstLines mark n feed

def firstBytes : Nat → Nat → Feed → Work Feed
  | 0, _, feed => return feed
  | fuel + 1, n, feed => do
    out (feed.rest.take n)
    let left := n - feed.rest.length
    if left = 0 || feed.exhausted then return { feed with rest := feed.rest.drop n }
    else firstBytes fuel left (← { feed with rest := [], block := min left 8192 }.more)

def start (name : Bytes) (fd : Nat) : Work Unit := do
  let feed : Feed := { fd, block := 8192 }
  let feed ←
    if extract.inverted then do
      let (text, feed) ← feed.all
      let kept :=
        if extract.bytes then text.take (text.length - extract.count)
        else
          let lines := linesOf extract.mark text
          (lines.take (lines.length - extract.count)).flatten
      out kept
      pure { feed with rest := text.drop kept.length }
    else if extract.bytes then
      if extract.count = 0 then pure feed
      else firstBytes Program.manySteps extract.count { feed with block := min extract.count 8192 }
    else firstLines extract.mark extract.count feed
  match feed.flaw with
  | some cause => report name cause
  | none => feed.giveBack

/-! ## The end -/

def finish (name : Bytes) (fd : Nat) : Work Unit := do
  let (text, feed) ← Feed.all { fd, block := 8192 }
  if let some cause := feed.flaw then
    if cause = .badDescriptor then
      complain ("cannot fstat 'standard input': " ++ causeText cause) 1
    else report name cause
  else if extract.bytes then
    out (text.drop (if extract.inverted then extract.count - 1 else text.length - extract.count))
  else
    let lines := linesOf extract.mark text
    let passed := if extract.inverted then extract.count - 1 else lines.length - extract.count
    out (lines.drop passed).flatten

/-! ## Words -/

def counted (bytes : Bool) (inversion : Char) (value : Bytes) :
    Work Extract := do
  let (inverted, digits) : Bool × Bytes := match value with
    | '-' :: digits => (inversion = '-', digits)
    | '+' :: digits => (inversion = '+', digits)
    | digits => (false, digits)
  match amount? digits with
  | some count => return { extract with count, bytes, inverted }
  | none =>
    abort (ofString (if bytes then "invalid number of bytes: " else "invalid number of lines: ") ++
      Quoted.operand (if value.head? = some '-' then digits else value)) 1

def set (inversion : Char) (extract : Extract) (name : String) (value : Bytes) : Work Extract :=
  match name with
  | "n" => extract.counted false inversion value
  | "c" => extract.counted true inversion value
  | "q" => return { extract with quiet := true, headed := false }
  | "v" => return { extract with headed := true, quiet := false }
  | "z" => return { extract with mark := '\x00' }
  | _ => return extract

def manual : Manual :=
  (Manual.make "c:n:qvz0123456789" [("bytes", "c"), ("lines", "n"), ("quiet", "q"), ("silent", "q"),
    ("verbose", "v"), ("zero-terminated", "z")]).named

/-- The old way to write a count: digits after the hyphen, then letters. -/
def oldLetters (extract : Extract) : Bytes → Work Extract
  | [] => return extract
  | c :: rest =>
    match c with
    | 'c' => oldLetters { extract with bytes := true } rest
    | 'b' => oldLetters { extract with bytes := true, count := extract.count * 512 } rest
    | 'k' => oldLetters { extract with bytes := true, count := extract.count * 1024 } rest
    | 'm' => oldLetters { extract with bytes := true, count := extract.count * 1048576 } rest
    | 'l' => oldLetters { extract with bytes := false } rest
    | 'q' => oldLetters { extract with quiet := true, headed := false } rest
    | 'v' => oldLetters { extract with headed := true, quiet := false } rest
    | 'z' => oldLetters { extract with mark := '\x00' } rest
    | _ => misuse ("invalid trailing option -- " ++ [c]) 1

def run (work : Bytes → Nat → Work Unit) (names : List Bytes) :
    Work Unit :=
  extract.each (1 < names.length) work true (if names.isEmpty then [['-']] else names)

/-- What is passed on at once and cannot be written is told of in another way. -/
def closing : Closing :=
  { input := some "-"
    texts := fun cause early =>
      [(if early then "error writing 'standard output': " else "write error: ") ++ cause.text] }

end Extract

def head : Tool := makeClosing Extract.closing fun words => do
  let (extract, words) : Extract × List Bytes ←
    match words with
    | ('-' :: digit :: rest) :: others =>
      if digit.isDigit then do
        let digits := (digit :: rest).takeWhile Char.isDigit
        let extract : Extract := { count := Text.digitsValue digits }
        pure (← extract.oldLetters ((digit :: rest).drop digits.length), others)
      else pure ({}, words)
    | _ => pure ({}, words)
  let (extract, names) ← Extract.manual.heed words extract fun extract name value =>
    match name.toList with
    | [c] =>
      if c.isDigit then misuse ("invalid trailing option -- " ++ [c]) 1
      else extract.set '-' name value
    | _ => extract.set '-' name value
  extract.run extract.start names

/-- The old way to write where the last part starts: what it asks for, if the words are of this
kind. -/
def oldTail? : List Bytes → Option (Extract × List Bytes)
  | (sign :: rest) :: others =>
    let fits := match others with
      | [] => true
      | [name] => !(name.head? = some '-' && 1 < name.length)
      | [separator, _] => separator = ['-', '-']
      | _ => false
    if !fits || (sign ≠ '+' && sign ≠ '-') then none
    else if sign = '-' && (rest.isEmpty || rest = ['c']) then none
    else
      let digits := rest.takeWhile Char.isDigit
      let count := if digits.isEmpty then 10 else Text.digitsValue digits
      let extract : Extract := { count, inverted := sign = '+' }
      let others := others.filter (· ≠ ['-', '-'])
      match rest.drop digits.length with
      | [] => some (extract, others)
      | ['l'] => some (extract, others)
      | ['c'] => some ({ extract with bytes := true }, others)
      | ['b'] => some ({ extract with bytes := true, count := count * 512 }, others)
      | _ => none
  | _ => none

def tail : Tool := makeClosing Extract.closing fun words => do
  match oldTail? words with
  | some (extract, names) => extract.run extract.finish names
  | none =>
    let manual :=
      (Manual.make "c:n:fFqs:vz0123456789" [("bytes", "c"), ("lines", "n"), ("quiet", "q"),
        ("silent", "q"), ("verbose", "v"), ("zero-terminated", "z"), ("sleep-interval", "s")]).named
        [("follow", .maybe), ("retry", .never), ("pid", .always)]
    let (extract, names) ← manual.heed words ({} : Extract) fun extract name value =>
      match name.toList with
      | [c] =>
        if c.isDigit then
          abort ("option used in invalid context -- " ++ [c]) 1
        else extract.set '+' name value
      | _ => extract.set '+' name value
    if extract.count = 0 && !extract.inverted then return
    extract.run extract.finish names

end Retrace.Tool
