import Retrace.Shell.Printing
import Retrace.Tool.Quoted

/-!
# Printing as programs

What the programs `echo` and `printf` write.
-/

namespace Retrace.Tool.Printing

open Unix

def isHex (c : Char) : Bool := c.isDigit || ('a' ≤ c && c ≤ 'f') || ('A' ≤ c && c ≤ 'F')

def hexValue (digits : Bytes) : Nat :=
  digits.foldl (fun value c => value * 16 + Text.digitValue c) 0

inductive Escape where
  | text (text rest : Bytes)
  | stop
  | flaw

/-- Reads an escape after its backslash. `zero` tells whether octal digits may follow a zero that
does not count. -/
def escape (zero : Bool) (text : Bytes) : Escape :=
  match text with
  | [] => .text ['\\'] []
  | 'c' :: _ => .stop
  | '"' :: rest => .text ['"'] rest
  | 'x' :: rest =>
    let digits := (rest.take 2).takeWhile isHex
    if digits.isEmpty then .flaw else .text [Char.ofNat (hexValue digits)] (rest.drop digits.length)
  | c :: rest =>
    if Shell.isOctal c then
      let (start, most) := if zero && c = '0' then (rest, 3) else (text, 3)
      let digits := (start.take most).takeWhile Shell.isOctal
      .text [Shell.octalByte digits] (start.drop digits.length)
    else match Shell.controlEscapes.lookup c with
      | some code => .text [Char.ofNat code] rest
      | none => .text ['\\', c] rest

/-- A text with its escapes carried out, and whether one of them ends all output. `lenient` lets an
escape without its number stand. -/
def unescaped (lenient : Bool) : Nat → Bytes → Work (Bytes × Bool)
  | 0, _ => return ([], false)
  | _, [] => return ([], false)
  | fuel + 1, '\\' :: rest => do
    match escape true rest with
    | .stop => return ([], true)
    | .text text rest =>
      let (more, stops) ← unescaped lenient fuel rest
      return (text ++ more, stops)
    | .flaw =>
      if !lenient then abort (ofString "missing hexadecimal number in escape") 1
      let (more, stops) ← unescaped lenient fuel rest
      return ('\\' :: more, stops)
  | fuel + 1, c :: rest => do
    let (more, stops) ← unescaped lenient fuel rest
    return (c :: more, stops)

/-! ## Words -/

def isOption : Bytes → Bool
  | '-' :: c :: rest => (c :: rest).all fun c => c = 'n' || c = 'e' || c = 'E'
  | _ => false

def echo : Tool := make fun words => do
  if words = [ofString "--help"] || words = [ofString "--version"] then exit 0
  let options := words.takeWhile isOption
  let letters := options.flatten
  let escapes := (letters.filter fun c => c = 'e' || c = 'E').getLast? = some 'e'
  let text := joined ' ' (words.drop options.length)
  let (text, stops) ← if escapes then unescaped true (text.length + 1) text
    else pure (text, false)
  out text
  if !stops && !letters.contains 'n' then out ['\n']

/-! ## Formats -/

def check (argument rest : Bytes) (found inRange : Bool) : Work Unit := do
  if argument.isEmpty then return
  else if !found then complain (Quoted.operand argument ++ ofString ": expected a numeric value") 1
  else if !rest.isEmpty then
    complain (Quoted.operand argument ++ ofString ": value not completely converted") 1
  else if !inRange then
    complain (Quoted.operand argument ++ ofString ": Numerical result out of range") 1

def quotedCode? (argument : Bytes) : Work (Option Nat) := do
  match argument with
  | quote :: c :: rest =>
    if quote = '\'' || quote = '"' then
      if !rest.isEmpty then
        warn (ofString "warning: " ++ rest ++
          ": character(s) following character constant have been ignored")
      return some c.toNat
    else return none
  | _ => return none

def signedOf (argument : Bytes) : Work Int := do
  if let some code ← quotedCode? argument then return (code : Int)
  let scan := Shell.Integer.scan 0 argument
  check argument scan.rest scan.found (Shell.Integer.fits scan.value)
  return (Shell.Integer.clamped scan.value).toInt

def unsignedOf (argument : Bytes) : Work Nat := do
  if let some code ← quotedCode? argument then return code
  let scan := Shell.Integer.scan 0 argument
  let inRange := decide (scan.value.natAbs < UInt64.size)
  check argument scan.rest scan.found inRange
  return if inRange then (UInt64.ofInt scan.value).toNat else UInt64.size - 1

def realOf (argument : Bytes) : Work Float := do
  if let some code ← quotedCode? argument then return Float.ofNat code
  let scan := Shell.Real.scan argument
  check argument scan.rest scan.found (!scan.outOfRange)
  return scan.value

structure Left where
  arguments : List Bytes
  asked : Bool := false

abbrev Format := StateT Left Work

def next : Format Bytes := do
  let left ← get
  set ({ arguments := left.arguments.drop 1, asked := true } : Left)
  return left.arguments.headD []

def size (text : Bytes) : Format (Option Int × Bytes) := do
  match text with
  | '*' :: rest => return (some (← signedOf (← next)), rest)
  | _ =>
    let digits := text.takeWhile Char.isDigit
    return (if digits.isEmpty then none else some (Text.digitsValue digits : Nat), text.drop digits.length)

/-- The letters that the size of a number is told by, which make no difference. -/
def isSizeLetter (c : Char) : Bool := "hlLjzt".toList.contains c

def direct (text : Bytes) : Format (Bytes × Bool) := do
  let isFlag := fun c : Char => "#-+ 0'I".toList.contains c
  let flags := text.takeWhile isFlag
  let (width, rest) ← size (text.drop flags.length)
  let (precision, rest) : Option Int × Bytes ← match rest with
    | '.' :: more => do
      let (size, rest) ← size more
      pure (some (size.getD 0), rest)
    | _ => pure (none, rest)
  let precision := precision.bind fun size => if size < 0 then none else some size.toNat
  let rest := rest.dropWhile isSizeLetter
  let kind := rest.headD '\x00'
  let isKnown := "bcdiouxXaAeEfFgGqs".toList.contains kind
  let isRight := match kind with
    | 'b' | 'q' => flags.isEmpty && width.isNone && precision.isNone || kind = 'b'
    | _ => true
  if !isKnown || !isRight then
    let shown := text.take (text.length - rest.length + 1)
    StateT.lift (abort ('%' :: shown ++ ": invalid conversion specification") 1)
  let width := width.getD 0
  let directive : Shell.Directive :=
    { flags, kind, precision, width := width.natAbs, left := flags.contains '-' || width < 0 }
  let argument ← next
  let cut := fun text : Bytes =>
    match precision with
    | some size => text.take size
    | none => text
  let rest := rest.drop 1
  match kind with
  | 's' =>
    out (directive.pad (cut argument))
    return (rest, false)
  | 'c' =>
    out (directive.pad (argument.take 1))
    return (rest, false)
  | 'q' =>
    out (if argument.isEmpty then ['\'', '\''] else Quoted.nameIfNeeded argument)
    return (rest, false)
  | 'b' =>
    let (text, stops) ← unescaped false (argument.length + 1) argument
    out (directive.pad (cut text))
    return (rest, stops)
  | kind =>
    if kind = 'd' || kind = 'i' then out (directive.signed (← signedOf argument))
    else if ['o', 'u', 'x', 'X'].contains kind then out (directive.unsigned (← unsignedOf argument))
    else out (directive.real (← realOf argument))
    return (rest, false)

def once : Nat → Bytes → Format Bool
  | 0, _ => return false
  | _, [] => return false
  | fuel + 1, '\\' :: rest => do
    match escape false rest with
    | .stop => return true
    | .flaw => StateT.lift (abort "missing hexadecimal number in escape" 1)
    | .text text rest =>
      out text
      once fuel rest
  | fuel + 1, '%' :: '%' :: rest => do
    out ['%']
    once fuel rest
  | fuel + 1, '%' :: rest => do
    let (rest, stops) ← direct rest
    if stops then return true else once fuel rest
  | fuel + 1, c :: rest => do
    out [c]
    once fuel rest

def again (format : Bytes) : Nat → Format Unit
  | 0 => return
  | fuel + 1 => do
    let before := (← get).arguments.length
    if ← once (format.length + 1) format then return
    let left := (← get).arguments
    if left.isEmpty then return
    if left.length = before then
      StateT.lift (warn (ofString "warning: ignoring excess arguments, starting with " ++
        Quoted.operand (left.headD [])))
    else again format fuel

def printf : Tool := make fun words => do
  if words = [ofString "--help"] || words = [ofString "--version"] then exit 0
  let words := match words with
    | ['-', '-'] :: rest => rest
    | words => words
  match words with
  | [] => misuse (ofString "missing operand") 1
  | format :: arguments =>
    let _ ← (again format (arguments.length + 2)).run { arguments }

end Retrace.Tool.Printing
