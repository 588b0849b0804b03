import Retrace.Tool.Amount
import Retrace.Tool.Options
import Retrace.Tool.Quoted

/-!
# Dumps

Bytes are written as numbers or characters, so many to a line, behind their place
in the input. Lines that repeat the one before are left out.
-/

namespace Retrace.Tool.Dump

open Unix Text

inductive Kind where
  | named
  | char
  | signed
  | unsigned
  | octal
  | hex
  deriving DecidableEq, Repr

structure Form where
  kind : Kind
  size : Nat
  trails : Bool := false

def Form.width (form : Form) : Nat :=
  let bits := form.size * 8
  match form.kind with
  | .named => 3
  | .char => 3
  | .octal => (bits + 2) / 3
  | .hex => form.size * 2
  | .unsigned => (decimal (Nat.pow 2 bits - 1)).length
  | .signed => (decimal (Nat.pow 2 (bits - 1))).length + 1

def names : List String :=
  ["nul", "soh", "stx", "etx", "eot", "enq", "ack", "bel", "bs", "ht", "nl", "vt", "ff", "cr", "so", "si",
    "dle", "dc1", "dc2", "dc3", "dc4", "nak", "syn", "etb", "can", "em", "sub", "esc", "fs", "gs", "rs",
    "us", "sp"]

def zeroPadded (width : Nat) (digits : Bytes) : Bytes :=
  List.replicate (width - digits.length) '0' ++ digits

def valueOf (bytes : Bytes) : Nat := bytes.foldr (fun c value => value * 256 + c.toNat) 0

def charText (c : Char) : Bytes :=
  if c = '\x00' then ['\\', '0']
  else if (Quoted.letter? c).isSome then Quoted.escaped c
  else if Quoted.isPrintable c then [c]
  else Quoted.octal c.toNat

def Form.text (form : Form) (bytes : Bytes) : Bytes :=
  let value := valueOf bytes
  match form.kind with
  | .named =>
    let low := value % 128
    if low = 127 then "del"
    else match names[low]? with
      | some name => ofString name
      | none => [Char.ofNat low]
  | .char => charText (bytes.headD '\x00')
  | .octal => zeroPadded form.width (Nat.toDigits 8 value)
  | .hex => zeroPadded form.width (Nat.toDigits 16 value)
  | .unsigned => decimal value
  | .signed =>
    let whole := Nat.pow 2 (form.size * 8)
    if 2 * value < whole then decimal value else '-' :: decimal (whole - value)

def grouped (size : Nat) : Nat → Bytes → List Bytes
  | 0, _ => []
  | count + 1, bytes =>
    if bytes.isEmpty then []
    else
      let group := bytes.take size
      (group ++ List.replicate (size - group.length) '\x00') :: grouped size count (bytes.drop size)

def roomLeft (room fields left : Nat) : Nat := room * left / fields

/-- A line of bytes in a form. `room` is the space that fields share beyond their widths. -/
def Form.line (form : Form) (perLine room : Nat) (bytes : Bytes) : Bytes :=
  let fields := perLine / form.size
  let texts := (grouped form.size fields bytes).zipIdx.map fun (group, i) =>
    let space := roomLeft room fields (fields - i) - roomLeft room fields (fields - i - 1)
    padLeft (space + form.width) (form.text group)
  let blanks := (perLine - bytes.length) / form.size
  let trail := if form.trails then
      List.replicate (blanks * form.width + roomLeft room fields blanks) ' ' ++ "  >" ++
        bytes.map (fun c => if Quoted.isPrintable c then c else '.') ++ ['<']
    else []
  texts.flatten ++ trail ++ ['\n']

inductive Radix where
  | octal
  | decimal
  | hex
  | none

def Radix.text (radix : Radix) (place : Nat) : Bytes :=
  match radix with
  | .octal => zeroPadded 7 (Nat.toDigits 8 place)
  | .decimal => zeroPadded 7 (Text.decimal place)
  | .hex => zeroPadded 6 (Nat.toDigits 16 place)
  | .none => []

structure Style where
  forms : List Form := []
  radix : Radix := .octal
  limit : Option Nat := none
  skip : Nat := 0
  width : Option Nat := none
  repeats : Bool := false
  modern : Bool := false

/-! ## Options -/

/-- The size that letters or digits after a type stand for, and what follows them. -/
def sizeOf? (text : Bytes) : Option (Option Nat × Bytes) :=
  match text with
  | 'C' :: rest => some (some 1, rest)
  | 'S' :: rest => some (some 2, rest)
  | 'I' :: rest => some (some 4, rest)
  | 'L' :: rest => some (some 8, rest)
  | _ =>
    let digits := text.takeWhile Char.isDigit
    if digits.isEmpty then some (some 4, text)
    else
      let size := digitsValue digits
      if [1, 2, 4, 8].contains size then some (some size, text.drop digits.length)
      else none

def formsOf (whole : Bytes) : Nat → Bytes → Work (List Form)
  | 0, _ => return []
  | fuel + 1, text => do
    let ending := fun (kind : Kind) (size : Nat) (rest : Bytes) => do
      match rest with
      | 'z' :: rest => return { kind, size, trails := true : Form } :: (← formsOf whole fuel rest)
      | rest => return { kind, size : Form } :: (← formsOf whole fuel rest)
    let sized := fun (kind : Kind) (rest : Bytes) => do
      match sizeOf? rest with
      | some (size, rest) => ending kind (size.getD 4) rest
      | none =>
        let digits := rest.takeWhile Char.isDigit
        abort ("invalid type string " ++ Quoted.operand whole ++
          ";\nthis system doesn't provide a " ++ decimal (digitsValue digits) ++
          "-byte integral type") 1
    match text with
    | [] => return []
    | 'a' :: rest => ending .named 1 rest
    | 'c' :: rest => ending .char 1 rest
    | 'd' :: rest => sized .signed rest
    | 'u' :: rest => sized .unsigned rest
    | 'o' :: rest => sized .octal rest
    | 'x' :: rest => sized .hex rest
    | c :: _ =>
      abort ("invalid character '" ++ c :: "' in type string " ++
        Quoted.operand whole) 1

def Style.set (style : Style) (name : String) (value : Bytes) : Work Style := do
  let add := fun (kind : Kind) (size : Nat) =>
    (return { style with forms := style.forms ++ [{ kind, size }] } : Work Style)
  let count := fun (option : String) => do
    match amount? value with
    | some n => pure n
    | none => abort (ofString ("invalid " ++ option ++ " argument ") ++ Quoted.operand value) 1
  let modern := { style with modern := true }
  match name with
  | "A" =>
    match value with
    | 'o' :: _ => return { modern with radix := .octal }
    | 'd' :: _ => return { modern with radix := .decimal }
    | 'x' :: _ => return { modern with radix := .hex }
    | 'n' :: _ => return { modern with radix := .none }
    | c :: _ =>
      abort ("invalid output address radix '" ++ c ::
        "'; it must be one character from [doxn]") 1
    | [] => return modern
  | "j" => return { modern with skip := ← count "-j" }
  | "N" => return { modern with limit := some (← count "-N") }
  | "t" => return { modern with forms := style.forms ++ (← formsOf value (value.length + 1) value) }
  | "v" => return { modern with repeats := true }
  | "w" =>
    let width ← if value.isEmpty then pure 32 else count "-w"
    return { modern with width := some width }
  | "a" => add .named 1
  | "b" => add .octal 1
  | "c" => add .char 1
  | "D" => add .unsigned 4
  | "d" => add .unsigned 2
  | "h" | "x" => add .hex 2
  | "H" | "X" => add .hex 4
  | "i" => add .signed 4
  | "I" | "l" | "L" => add .signed 8
  | "O" => add .octal 4
  | "B" | "o" => add .octal 2
  | "s" => add .signed 2
  | _ => return style

/-- A place in the input as an operand: octal unless there is a point behind it. -/
def place? (text : Bytes) : Option Nat := do
  let text := match text with
    | '+' :: rest => rest
    | _ => text
  let (text, unit) := if text.getLast? = some 'b' then (text.dropLast, 512) else (text, 1)
  let (text, base) := if text.getLast? = some '.' then (text.dropLast, 10) else (text, 8)
  if text.isEmpty || !text.all (fun c => c.isDigit && c.toNat - '0'.toNat < base) then none
  else some (text.foldl (fun value c => value * base + (c.toNat - '0'.toNat)) 0 * unit)

def filesOf (style : Style) (operands : List Bytes) : List Bytes × Option Nat :=
  if style.modern then (operands, none)
  else match operands with
    | [only] =>
      if only.head? = some '+' then
        match place? only with
        | some place => ([], some place)
        | none => (operands, none)
      else (operands, none)
    | [name, second] =>
      if second.head? = some '+' || (second.head?.map Char.isDigit).getD false then
        match place? second with
        | some place => ([name], some place)
        | none => (operands, none)
      else (operands, none)
    | _ => (operands, none)

/-! ## Reading -/

structure Reader where
  names : List Bytes
  opened : Bool := false
  feed : Option (Bytes × Feed) := none

/-- Reads so much, or what is left; `held` is what has been read, last first. -/
def Reader.take : Nat → Nat → List Bytes → Reader → Work (Bytes × Reader)
  | 0, _, held, reader => return (held.reverse.flatten, reader)
  | fuel + 1, count, held, reader => do
    if count = 0 && (reader.opened || reader.names.isEmpty) then
      return (held.reverse.flatten, reader)
    match reader.feed, reader.names with
    | none, [] => return (held.reverse.flatten, reader)
    | none, name :: names =>
      match ← openInput name with
      | .ok fd => Reader.take fuel count held { names, opened := true, feed := some (name, { fd }) }
      | .error cause =>
        report name cause
        Reader.take fuel count held { reader with names, feed := none }
    | some (name, feed), _ =>
      let (text, feed) ← { feed with block := count }.take count
      if text.length = count then
        return ((text :: held).reverse.flatten, { reader with feed := some (name, feed) })
      else
        if let some cause := feed.flaw then
          report (if name = ['-'] then "standard input" else name) cause
        closeInput feed.fd
        Reader.take fuel (count - text.length) (text :: held) { reader with feed := none }

/-- Writes what is read, line by line. `left` is how much of it may still be, and `last` the line
before with whether its repetition was told. -/
def dump (style : Style) (perLine : Nat) (rooms : List (Form × Nat)) :
    Nat → Nat → Option Nat → Option (Bytes × Bool) → Reader → Work Unit
  | 0, _, _, _, _ => return
  | fuel + 1, place, left, last, reader => do
    let count := match left with
      | some left => min left perLine
      | none => perLine
    let (bytes, reader) ← reader.take (reader.names.length * 2 + 4) count []
    let whole := bytes.length = perLine
    let isRepeated := !style.repeats && whole && last.any (·.1 = bytes)
    if isRepeated then
      if last.any (!·.2) then out ['*', '\n']
    else if !bytes.isEmpty then
      for ((form, room), i) in rooms.zipIdx do
        let start := style.radix.text place
        out (if i = 0 then start else List.replicate start.length ' ')
        out (form.line perLine room bytes)
    if whole then
      dump style perLine rooms fuel (place + perLine) (left.map (· - perLine))
        (some (bytes, isRepeated)) reader
    else
      match style.radix with
      | .none => return
      | radix => if reader.opened then out (radix.text (place + bytes.length) ++ ['\n'])

def tool : Tool := makeClosing (.naming "standard input") fun words => do
  let manual := (Manual.make "A:aBbcDdeFfHhIij:LlN:OoS:st:vw::Xx" [("skip-bytes", "j"),
    ("address-radix", "A"), ("read-bytes", "N"), ("format", "t"), ("output-duplicates", "v"),
    ("width", "w")]).named [("endian", .always), ("traditional", .never)]
  let (style, operands) ← manual.heed words ({} : Style) Style.set
  let (names, start) := filesOf style operands
  let style := { style with skip := start.getD style.skip }
  let forms := if style.forms.isEmpty then [{ kind := .octal, size := 2 : Form }] else style.forms
  let unit := forms.foldl (fun size form => max size form.size) 1
  let perLine ← match style.width with
    | none => pure 16
    | some width =>
      if width ≠ 0 && width % unit = 0 then pure width
      else
        warn ("warning: invalid width " ++ decimal width ++ "; using " ++
          decimal unit ++ " instead")
        pure unit
  let widest := (forms.map fun form => (form.width + 1) * (perLine / form.size)).foldl max 0
  let rooms := forms.map fun form => (form, widest - form.width * (perLine / form.size))
  let reader : Reader := { names := inputs names }
  let (skipped, reader) ← reader.take (names.length * 2 + 4) style.skip []
  if skipped.length < style.skip && reader.opened then
    abort "cannot skip past end of combined input" 1
  dump style perLine rooms Program.manySteps style.skip style.limit none reader

end Retrace.Tool.Dump
