import Retrace.Shell.Integer

/-!
# Escapes

What a backslash and the characters behind it stand for, where the richer shell
carries escapes out: between quotes of their own, and in what its builtins write.
-/

namespace Retrace.Shell

inductive EscapePlace where
  | quotes
  | echo
  | format
  | argument
  deriving DecidableEq, Repr

inductive Escaped where
  | text (chars : List Char)
  | stop
  | flawed (chars : List Char) (complaint : String)

namespace Escaped

def letters : List (Char × Nat) :=
  [('a', 7), ('b', 8), ('e', 27), ('E', 27), ('f', 12), ('n', 10), ('r', 13), ('t', 9), ('v', 11),
    ('\\', 92)]

def isHex (c : Char) : Bool := (Integer.digit? 16 c).isSome

def valueOf (base : Nat) (digits : List Char) : Nat := (Integer.digits base 0 digits).1

def byte (value : Nat) : List Char := [Char.ofNat (value % 256)]

def hexDigits (count value : Nat) : List Char :=
  let digits := (Nat.toDigits 16 value).map Char.toUpper
  List.replicate (count - digits.length) '0' ++ digits

def character (value : Nat) : List Char :=
  if value < 128 then [Char.ofNat value]
  else if value < 65536 then '\\' :: 'u' :: hexDigits 4 value
  else '\\' :: 'U' :: hexDigits 8 value

/-- Octal digits: how many may follow depends on the first of them. -/
def octal (place : EscapePlace) (text : List Char) : Escaped × List Char :=
  let isOctal := fun c : Char => '0' ≤ c && c ≤ '7'
  let first := text.head?
  if place = .echo && first ≠ some '0' then (.text ('\\' :: text.take 1), text.drop 1)
  else
    let size := if first = some '0' && (place = .echo || place = .argument) then 4 else 3
    let digits := (text.take size).takeWhile isOctal
    (.text (byte (valueOf 8 digits)), text.drop digits.length)

def hex (place : EscapePlace) (text : List Char) : Escaped × List Char :=
  match place, text with
  | .quotes, '\x7b' :: rest =>
    let digits := rest.takeWhile isHex
    let after := rest.drop digits.length
    (.text (byte (valueOf 16 digits)), if after.head? = some '\x7d' then after.drop 1 else after)
  | _, _ =>
    let digits := (text.take 2).takeWhile isHex
    if !digits.isEmpty then (.text (byte (valueOf 16 digits)), text.drop digits.length)
    else if place = .format || place = .argument then
      (.flawed ['\\', 'x'] "missing hex digit for \\x", text)
    else (.text ['\\', 'x'], text)

def numbered (place : EscapePlace) (letter : Char) (size : Nat) (text : List Char) :
    Escaped × List Char :=
  let digits := (text.take size).takeWhile isHex
  if !digits.isEmpty then (.text (character (valueOf 16 digits)), text.drop digits.length)
  else if place = .format || place = .argument then
    (.flawed ['\\', letter] ("missing unicode digit for \\" ++ String.singleton letter), text)
  else (.text ['\\', letter], text)

def controlOf (c : Char) : Char :=
  if c = '?' then '\x7f' else Char.ofNat (c.toUpper.toNat &&& 31)

def read (place : EscapePlace) (text : List Char) : Escaped × List Char :=
  match text with
  | [] => (.text ['\\'], [])
  | c :: rest =>
    if '0' ≤ c && c ≤ '7' then octal place text
    else if c = 'x' then hex place rest
    else if c = 'u' then numbered place c 4 rest
    else if c = 'U' then numbered place c 8 rest
    else if c = 'c' && (place = .echo || place = .argument) then (.stop, rest)
    else if c = 'c' && place = .quotes then
      match rest with
      | [] => (.text ['\\', 'c'], [])
      | '\\' :: '\\' :: more => (.text [controlOf '\\'], more)
      | d :: more => (.text [controlOf d], more)
    else if ['\'', '\x22', '?'].contains c then
      (.text (if place = .echo then ['\\', c] else [c]), rest)
    else match letters.lookup c with
      | some code => (.text [Char.ofNat code], rest)
      | none => (.text ['\\', c], rest)

end Escaped

structure Unescaped where
  text : List Char := []
  stops : Bool := false
  complaints : List String := []

/-- Carries out the escapes of a text. What it came to so far comes last first, and so do the
complaints. -/
def unescapeAll (place : EscapePlace) : Nat → List (List Char) → List String → List Char → Unescaped
  | 0, read, told, _ => ⟨read.reverse.flatten, false, told.reverse⟩
  | _ + 1, read, told, [] => ⟨read.reverse.flatten, false, told.reverse⟩
  | fuel + 1, read, told, c :: rest =>
    if c ≠ '\\' then unescapeAll place fuel ([c] :: read) told rest
    else match Escaped.read place rest with
      | (.text chars, rest) => unescapeAll place fuel (chars :: read) told rest
      | (.stop, _) => ⟨read.reverse.flatten, true, told.reverse⟩
      | (.flawed chars complaint, rest) =>
        unescapeAll place fuel (chars :: read) (complaint :: told) rest

def unescaped (place : EscapePlace) (text : List Char) : Unescaped :=
  unescapeAll place (text.length + 1) [] [] text

def quotedEscapes (text : List Char) : List Char :=
  (unescaped .quotes text).text.takeWhile (· ≠ '\x00')

end Retrace.Shell
