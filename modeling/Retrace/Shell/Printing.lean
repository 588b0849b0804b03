import Retrace.Unix.Bytes
import Retrace.Shell.Real

/-!
# Printing

What `echo` and `printf` write: escapes that begin with a backslash, and formats
whose directives take the arguments in turn.
-/

namespace Retrace.Shell

open Unix

def isOctal (c : Char) : Bool := '0' ≤ c && c ≤ '7'

def octalByte (digits : Bytes) : Char :=
  Char.ofNat (digits.foldl (fun total c => 8 * total + Text.digitValue c) 0 % 256)

def controlEscapes : List (Char × Nat) :=
  [('a', 7), ('b', 8), ('e', 27), ('f', 12), ('n', 10), ('r', 13), ('t', 9), ('v', 11), ('\\', 92)]

def escape (text : Bytes) : Char × Bytes :=
  match text with
  | [] => ('\\', [])
  | c :: rest =>
    if isOctal c then
      let digits := (text.take 3).takeWhile isOctal
      (octalByte digits, text.drop digits.length)
    else match controlEscapes.lookup c with
      | some code => (Char.ofNat code, rest)
      | none => ('\\', text)

/-- Carries out the escapes of a text, `read` being what it came to so far, last first. Tells
whether one of them ends all output. -/
def unescapeFrom : Nat → Bytes → Bytes → Bytes × Bool
  | 0, read, _ => (read.reverse, false)
  | _ + 1, read, [] => (read.reverse, false)
  | _ + 1, read, '\\' :: 'c' :: _ => (read.reverse, true)
  | fuel + 1, read, '\\' :: rest =>
    let rest := match rest with
      | '0' :: d :: more => if isOctal d then d :: more else rest
      | _ => rest
    let (c, rest) := escape rest
    unescapeFrom fuel (c :: read) rest
  | fuel + 1, read, c :: rest => unescapeFrom fuel (c :: read) rest

def unescape (text : Bytes) : Bytes × Bool := unescapeFrom (text.length + 1) [] text

def echo (arguments : List Bytes) : Bytes :=
  let (line, arguments) : Bool × List Bytes :=
    match arguments with
    | ['-', 'n'] :: rest => (false, rest)
    | _ => (true, arguments)
  let (text, stops) := row arguments
  if line && !stops then text ++ ['\n'] else text
where
  row : List Bytes → Bytes × Bool
    | [] => ([], false)
    | [last] => unescape last
    | first :: rest =>
      let (text, stops) := unescape first
      if stops then (text, true)
      else
        let (more, stops) := row rest
        (text ++ ' ' :: more, stops)

structure Directive where
  flags : Bytes
  width : Nat
  left : Bool
  precision : Option Nat
  kind : Char

namespace Directive

variable (directive : Directive)

def has (flag : Char) : Bool := directive.flags.contains flag

def pad (text : Bytes) : Bytes :=
  let gap := directive.width - text.length
  if directive.left then text ++ List.replicate gap ' ' else List.replicate gap ' ' ++ text

def number (lead digits : Bytes) (zeros : Bool) : Bytes :=
  let fill :=
    if zeros && directive.has '0' && !directive.left then
      directive.width - lead.length - digits.length
    else 0
  directive.pad (lead ++ List.replicate fill '0' ++ digits)

def sign (negative : Bool) : Bytes :=
  if negative then ['-'] else if directive.has '+' then ['+'] else if directive.has ' ' then [' '] else []

/-- The digits of an integer, as many as the precision asks for. A zero has none if it
asks for none. -/
def digits (base value : Nat) : Bytes :=
  let plain := if value = 0 && directive.precision = some 0 then [] else Nat.toDigits base value
  List.replicate (directive.precision.getD 0 - plain.length) '0' ++ plain

def signed (value : Int) : Bytes :=
  directive.number (directive.sign (value < 0)) (directive.digits 10 value.natAbs)
    directive.precision.isNone

def unsigned (value : Nat) : Bytes :=
  let zeros := directive.precision.isNone
  let marked := directive.has '#'
  match directive.kind with
  | 'o' =>
    let digits := directive.digits 8 value
    let digits := if marked && digits.head? ≠ some '0' then '0' :: digits else digits
    directive.number [] digits zeros
  | 'x' =>
    directive.number (if marked && value ≠ 0 then ['0', 'x'] else []) (directive.digits 16 value) zeros
  | 'X' =>
    directive.number (if marked && value ≠ 0 then ['0', 'X'] else [])
      ((directive.digits 16 value).map Char.toUpper) zeros
  | _ => directive.number [] (directive.digits 10 value) zeros

def real (value : Float) : Bytes :=
  let upper := directive.kind.isUpper
  let always := directive.has '#'
  let places := directive.precision.getD 6
  let named := fun (negative : Bool) (name : String) =>
    let name := name.toList
    directive.pad (directive.sign negative ++ if upper then name.map Char.toUpper else name)
  match Real.ofFloat value with
  | .infinite negative => named negative "inf"
  | .undefined negative => named negative "nan"
  | .finite parts =>
    let lead := directive.sign parts.negative
    match directive.kind.toLower with
    | 'f' => directive.number lead (parts.fixed places always) true
    | 'e' => directive.number lead (parts.exponential places upper always) true
    | 'g' => directive.number lead (parts.general places upper always) true
    | _ =>
      let text := parts.binary directive.precision upper always
      directive.number (lead ++ text.take 2) (text.drop 2) true

end Directive

structure Printed where
  (texts complaints : List Bytes := [])
  flaw : Option Bytes := none
  stops : Bool := false
  left : List Bytes

namespace Printed

variable (printed : Printed)

def text : Bytes := printed.texts.reverse.flatten

def write (text : Bytes) : Printed :=
  { printed with texts := text :: printed.texts }

def take : Bytes × Printed :=
  (printed.left.headD [], { printed with left := printed.left.drop 1 })

/-- Notes what is wrong with an argument of which `rest` was left when a number was read. -/
def check (argument rest : Bytes) (found inRange : Bool) : Printed :=
  let complain := fun why : String =>
    { printed with complaints := (argument ++ ofString (": " ++ why)) :: printed.complaints }
  if !argument.isEmpty && !found then complain "expected numeric value"
  else if !rest.isEmpty then complain "not completely converted"
  else if !inRange then complain "Numerical result out of range"
  else printed

def quotedCode? : Bytes → Option Nat
  | '\x22' :: rest => some ((rest.head?.map Char.toNat).getD 0)
  | '\'' :: rest => some ((rest.head?.map Char.toNat).getD 0)
  | _ => none

def takeSigned : Int × Printed :=
  let (argument, printed) := printed.take
  match quotedCode? argument with
  | some code => (code, printed)
  | none =>
    let scan := Integer.scan 0 argument
    ((Integer.clamped scan.value).toInt,
      printed.check argument scan.rest scan.found (Integer.fits scan.value))

def takeUnsigned : Nat × Printed :=
  let (argument, printed) := printed.take
  match quotedCode? argument with
  | some code => (code, printed)
  | none =>
    let scan := Integer.scan 0 argument
    let inRange := decide (scan.value.natAbs < UInt64.size)
    let value := if inRange then (UInt64.ofInt scan.value).toNat else UInt64.size - 1
    (value, printed.check argument scan.rest scan.found inRange)

def takeReal : Float × Printed :=
  let (argument, printed) := printed.take
  match quotedCode? argument with
  | some code => (Float.ofNat code, printed)
  | none =>
    let scan := Real.scan argument
    (scan.value, printed.check argument scan.rest scan.found (!scan.outOfRange))

def direct (directive : Directive) (written : Bytes) : Printed :=
  let cut := fun text : Bytes =>
    match directive.precision with
    | some size => text.take size
    | none => text
  match directive.kind with
  | 's' =>
    let (argument, printed) := printed.take
    printed.write (directive.pad (cut argument))
  | 'c' =>
    let (argument, printed) := printed.take
    printed.write (directive.pad [argument.headD '\x00'])
  | 'b' =>
    let (argument, printed) := printed.take
    let (text, stops) := unescape argument
    { printed.write (directive.pad (cut text)) with stops }
  | kind =>
    if kind = 'd' || kind = 'i' then
      let (value, printed) := printed.takeSigned
      printed.write (directive.signed value)
    else if ['o', 'u', 'x', 'X'].contains kind then
      let (value, printed) := printed.takeUnsigned
      printed.write (directive.unsigned value)
    else if ['a', 'A', 'e', 'E', 'f', 'F', 'g', 'G'].contains kind then
      let (value, printed) := printed.takeReal
      printed.write (directive.real value)
    else { printed with flaw := some (written ++ ": invalid directive"), stops := true }

def takeSize (text : Bytes) : Option Int × Bytes × Printed :=
  match text with
  | '*' :: rest =>
    let (value, printed) := printed.takeSigned
    (some value, rest, printed)
  | _ =>
    let digits := text.takeWhile Char.isDigit
    (if digits.isEmpty then none else some (Text.digitsValue digits),
      text.dropWhile Char.isDigit, printed)

def directed (text : Bytes) : Printed × Bytes :=
  let isFlag := fun c : Char => ['#', '-', '+', ' ', '0'].contains c
  let flags := text.takeWhile isFlag
  let (width, rest, printed) := printed.takeSize (text.dropWhile isFlag)
  let width := width.getD 0
  let (precision, rest, printed) : Option Int × Bytes × Printed :=
    match rest with
    | '.' :: more =>
      let (size, rest, printed) := printed.takeSize more
      (some (size.getD 0), rest, printed)
    | _ => (none, rest, printed)
  let precision := precision.bind fun size => if size < 0 then none else some size.toNat
  match rest with
  | [] => ({ printed with flaw := some "missing format character", stops := true }, [])
  | kind :: rest =>
    let directive : Directive :=
      { flags, kind, precision, width := width.natAbs, left := flags.contains '-' || width < 0 }
    let written := '%' :: text.take (text.length - rest.length)
    (printed.direct directive written, rest)

def once : Nat → Bytes → Printed → Printed
  | 0, _, printed => printed
  | _ + 1, [], printed => printed
  | fuel + 1, '\\' :: rest, printed =>
    let (c, rest) := escape rest
    once fuel rest (printed.write [c])
  | fuel + 1, '%' :: '%' :: rest, printed => once fuel rest (printed.write ['%'])
  | fuel + 1, '%' :: rest, printed =>
    let (printed, rest) := printed.directed rest
    if printed.stops then printed else once fuel rest printed
  | fuel + 1, c :: rest, printed => once fuel rest (printed.write [c])

def again (format : Bytes) : Nat → Printed → Printed
  | 0, printed => printed
  | fuel + 1, printed =>
    let next := once (format.length + 1) format printed
    if next.stops || next.left.isEmpty || next.left.length = printed.left.length then next
    else again format fuel next

end Printed

def printf (format : Bytes) (arguments : List Bytes) : Printed :=
  Printed.again format (arguments.length + 1) { left := arguments }

end Retrace.Shell
