import Retrace.Shell.Builtin.Full.Basic
import Retrace.Shell.Printing
import Retrace.Tool.Calendar

/-!
# Writing

Texts with escapes, and formats. A format is written again while arguments are left.
-/

namespace Retrace.Shell.Builtin.Full

open Unix Step

def echo : Builtin := fun words => do
  let isOption := fun word : Bytes =>
    match word with
    | '-' :: c :: more => (c :: more).all fun c => c = 'n' || c = 'e' || c = 'E'
    | _ => false
  let options := words.takeWhile isOption
  let letters := options.flatten
  let text := joined ' ' (words.drop options.length)
  let escapes := (letters.filter fun c => c = 'e' || c = 'E').getLast?.elim
    ((← get).switched "xpg_echo") (· = 'e')
  let (text, stops) := if escapes then
      let read := unescaped .echo text
      (read.text, read.stops)
    else (text, false)
  saying (if stops || letters.contains 'n' then text else text ++ ['\n'])

/-! ## Formats -/

structure Writing where
  (texts told : List Bytes := [])
  (failed stops : Bool := false)
  left : List Bytes
  now : Nat := 0

namespace Writing

variable (writing : Writing)

def text : Bytes := writing.texts.reverse.flatten

def write (text : Bytes) : Writing :=
  { writing with texts := text :: writing.texts }

def tell (text : Bytes) : Writing :=
  { writing with told := text :: writing.told }

def take : Option Bytes × Writing :=
  (writing.left.head?, { writing with left := writing.left.drop 1 })

/-- Notes what is wrong with an argument of which `rest` was left when a number was read. -/
def check (argument rest : Bytes) (inRange : Bool) : Writing :=
  if !rest.isEmpty then
    { writing.tell (argument ++ ": invalid number") with failed := true }
  else if !inRange then
    writing.tell ("warning: " ++ argument ++ ": Numerical result out of range")
  else writing

def takeSigned : Int × Writing :=
  let (argument, writing) := writing.take
  let argument := argument.getD []
  match Printed.quotedCode? argument with
  | some code => (code, writing)
  | none =>
    let scan := Integer.scan 0 argument
    let rest := if scan.found then scan.rest else argument
    ((Integer.clamped scan.value).toInt, writing.check argument rest (Integer.fits scan.value))

def takeUnsigned : Nat × Writing :=
  let (argument, writing) := writing.take
  let argument := argument.getD []
  match Printed.quotedCode? argument with
  | some code => (code, writing)
  | none =>
    let scan := Integer.scan 0 argument
    let rest := if scan.found then scan.rest else argument
    let inRange := decide (scan.value.natAbs < UInt64.size)
    let value := if inRange then (UInt64.ofInt scan.value).toNat else UInt64.size - 1
    (value, writing.check argument rest inRange)

def takeReal : Float × Writing :=
  let (argument, writing) := writing.take
  let argument := argument.getD []
  match Printed.quotedCode? argument with
  | some code => (Float.ofNat code, writing)
  | none =>
    let scan := Real.scan argument
    let rest := if scan.found then scan.rest else argument
    (scan.value, writing.check argument rest !scan.outOfRange)

def takeSize (text : Bytes) : Option Int × Bytes × Writing :=
  match text with
  | '*' :: rest =>
    let (value, writing) := writing.takeSigned
    (some value, rest, writing)
  | _ =>
    let digits := text.takeWhile Char.isDigit
    (if digits.isEmpty then none else some (Text.digitsValue digits),
      text.drop digits.length, writing)

def takeTime (format : Bytes) : Bytes × Writing :=
  let (argument, writing) := writing.take
  let format := if format.isEmpty then "%X".toList else format
  match argument with
  | none => (Tool.Calendar.format (writing.now * 1000000) (String.ofList format), writing)
  | some argument =>
    let scan := Integer.scan 0 argument
    let seconds := if scan.value < 0 then writing.now else scan.value.toNat
    (Tool.Calendar.format (seconds * 1000000) (String.ofList format),
      writing.check argument scan.rest (Integer.fits scan.value))

def direct (directive : Directive) : Writing :=
  let cut := fun text : Bytes =>
    match directive.precision with
    | some size => text.take size
    | none => text
  match directive.kind with
  | 's' =>
    let (argument, writing) := writing.take
    writing.write (directive.pad (cut (argument.getD [])))
  | 'c' =>
    let (argument, writing) := writing.take
    writing.write (directive.pad [(argument.getD []).headD '\x00'])
  | 'q' =>
    let (argument, writing) := writing.take
    writing.write (directive.pad (cut (Quoting.backslashed (argument.getD []))))
  | 'Q' =>
    let (argument, writing) := writing.take
    writing.write (directive.pad (Quoting.backslashed (cut (argument.getD []))))
  | 'b' =>
    let (argument, writing) := writing.take
    let read := unescaped .argument (argument.getD [])
    { writing.write (directive.pad (cut read.text)) with stops := read.stops }
  | 'n' => { writing.take.2 with left := writing.left.drop 1 }
  | kind =>
    if kind = 'd' || kind = 'i' then
      let (value, writing) := writing.takeSigned
      writing.write (directive.signed value)
    else if ['o', 'u', 'x', 'X'].contains kind then
      let (value, writing) := writing.takeUnsigned
      writing.write (directive.unsigned value)
    else if ['a', 'A', 'e', 'E', 'f', 'F', 'g', 'G'].contains kind then
      let (value, writing) := writing.takeReal
      writing.write (directive.real value)
    else
      { writing.tell ('\x60' :: kind :: "': invalid format character") with
        failed := true, stops := true }

def timeFormat? : Bytes → Option (Bytes × Bytes)
  | '(' :: rest =>
    let format := rest.takeWhile (· ≠ ')')
    match rest.drop format.length with
    | ')' :: 'T' :: after => some (format, after)
    | _ => none
  | _ => none

def directed (text : Bytes) : Writing × Bytes :=
  let isFlag := fun c : Char => ['#', '\'', '-', '+', ' ', '0'].contains c
  let flags := text.takeWhile isFlag
  let (width, rest, writing) := writing.takeSize (text.drop flags.length)
  let width := width.getD 0
  let (precision, rest, writing) : Option Int × Bytes × Writing :=
    match rest with
    | '.' :: more =>
      let (size, rest, writing) := writing.takeSize more
      (some (size.getD 0), rest, writing)
    | _ => (none, rest, writing)
  let precision := precision.bind fun size => if size < 0 then none else some size.toNat
  let left := flags.contains '-' || width < 0
  let rest := rest.dropWhile fun c => ['h', 'j', 'l', 'L', 't', 'z'].contains c
  match timeFormat? rest, rest with
  | some (format, after), _ =>
    let (text, writing) := writing.takeTime format
    let directive : Directive := { flags, kind := 's', precision, width := width.natAbs, left }
    (writing.write (directive.pad text), after)
  | none, [] =>
    ({ writing.tell ('\x60' :: '%' :: text ++ "': missing format character") with
      failed := true, stops := true }, [])
  | none, kind :: rest =>
    (writing.direct { flags, kind, precision, width := width.natAbs, left }, rest)

def once : Nat → Bytes → Writing → Writing
  | 0, _, writing => writing
  | _ + 1, [], writing => writing
  | fuel + 1, '\\' :: rest, writing =>
    match Escaped.read .format rest with
    | (.text chars, rest) => once fuel rest (writing.write chars)
    | (.stop, _) => { writing with stops := true }
    | (.flawed chars complaint, rest) =>
      once fuel rest ((writing.write chars).tell (ofString complaint))
  | fuel + 1, '%' :: '%' :: rest, writing => once fuel rest (writing.write ['%'])
  | fuel + 1, '%' :: rest, writing =>
    let (writing, rest) := writing.directed rest
    if writing.stops then writing else once fuel rest writing
  | fuel + 1, c :: rest, writing => once fuel rest (writing.write [c])

def again (format : Bytes) : Nat → Writing → Writing
  | 0, writing => writing
  | fuel + 1, writing =>
    let next := once (format.length + 1) format writing
    if next.stops || next.left.isEmpty || next.left.length = writing.left.length then next
    else again format fuel next

end Writing

def complainEach : List Bytes → Step Unit
  | [] => return
  | text :: rest => do
    complain text
    complainEach rest

def storeNamed (word text : Bytes) : Expand Unit := do
  match spot? word with
  | some (name, .whole) =>
    if isName name then storeText name none false text else refuse (notIdentifier word)
  | some (name, .element index) =>
    let name := (← get).resolve name
    storeText name (some (← keyOf name index)) false text
  | _ => refuse (notIdentifier word)

def formatUsage : String := "printf [-v var] format [arguments]"

def printf : Builtin :=
  withOptions "v:" formatUsage fun options => do
    match options.operands with
    | [] => usage formatUsage
    | format :: arguments =>
      let target := options.last? 'v'
      if target.any fun word => (spot? word).all fun (name, _) => !isName name then
        failing (notIdentifier (target.getD [])) 2
      else
        let now := (← look).now / 1000000
        let writing := Writing.again format (arguments.length + 1) { left := arguments, now }
        complainEach writing.told.reverse
        match target with
        | none =>
          say writing.text
          answer !writing.failed
        | some word =>
          attempting do
            storeNamed word writing.text
            Expand.of (answer !writing.failed)

end Retrace.Shell.Builtin.Full
