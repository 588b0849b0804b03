import Retrace.Shell.Builtin.Directory
import Retrace.Shell.Builtin.Full.Leaving

/-!
# Directories

The current directory, and a stack of directories to go back to.
-/

namespace Retrace.Shell.Builtin.Full

open Unix Step Text

def refusalOf (view : View) (path : Bytes) : OsError :=
  match view.status path true with
  | .ok _ => .notDirectory
  | .error cause => cause

def moveTo (physical : Bool) (path : Bytes) : Step Bool := do
  let view ← look
  if ← Builtin.enter physical path then return true
  complain (path ++ ofString (": " ++ (refusalOf view path).text))
  return false

def cd : Builtin :=
  withOptions "LPe@" "cd [-L|[-P [-e]] [-@]] [dir]" fun options => do
    let session ← get
    let physical := ((options.given.map (·.1)).filter fun c => c = 'L' || c = 'P').getLast?.elim
      (session.has "physical") (· = 'P')
    let target : Except Bytes (Bytes × Bool) :=
      match options.operands with
      | [] =>
        match session.value? "HOME".toList with
        | some home => .ok (home, false)
        | none => .error "HOME not set"
      | ['-'] :: [] =>
        match session.value? "OLDPWD".toList with
        | some path => .ok (path, true)
        | none => .error "OLDPWD not set"
      | [path] => .ok (path, false)
      | _ => .error tooMany
    match target with
    | .error message => failed message
    | .ok (path, tells) =>
      let view ← look
      let searched := if path.isEmpty then [] else candidates session path
      let (place, told) : Bytes × Bool :=
        (searched.find? fun (place, _) => view.isDir place).getD (path, false)
      let place := if place.isEmpty then ['.'] else place
      if ← moveTo physical place then
        if tells || told then say ((← get).here ++ ['\n'])
        answer true
      else answer false

def pwd : Builtin :=
  withOptions "LP" "pwd [-LP]" fun options => do
    let physical := (options.given.map (·.1)).getLast?.elim ((← get).has "physical") (· = 'P')
    let path ← if physical then do pure (← look).here else do pure (← get).here
    saying (path ++ ['\n'])

/-! ## The stack -/

def shortened (session : Session) (path : Bytes) : Bytes :=
  match session.value? "HOME".toList with
  | some (c :: home) =>
    let home := c :: home
    if path = home then ['~']
    else if home.isPrefixOf path && (path.drop home.length).head? = some '/' && home ≠ ['/'] then
      '~' :: path.drop home.length
    else path
  | _ => path

def stackText (session : Session) : Bytes :=
  joined ' ' ((session.here :: session.stack).map (shortened session)) ++ ['\n']

def place? (size : Nat) : Bytes → Option Nat
  | '+' :: digits =>
    if !digits.isEmpty && digits.all Char.isDigit && digitsValue digits < size then
      some (digitsValue digits)
    else none
  | '-' :: digits =>
    if !digits.isEmpty && digits.all Char.isDigit && digitsValue digits < size then
      some (size - 1 - digitsValue digits)
    else none
  | _ => none

def isPlace (word : Bytes) : Bool :=
  match word with
  | sign :: digits => (sign = '+' || sign = '-') && !digits.isEmpty && digits.all Char.isDigit
  | [] => false

def outOfRange (word : Bytes) : Bytes :=
  word ++ ": directory stack index out of range"

def dirs : Builtin := fun words => do
  let session ← get
  let all := session.here :: session.stack
  let letters := (words.filter fun word => !isPlace word).flatMap (·.drop 1)
  let shown := fun path => if letters.contains 'l' then path else shortened session path
  match letters.find? (!"clpv".toList.contains ·), words.find? isPlace with
  | some letter, _ => badOption ['-', letter] "dirs [-clpv] [+N] [-N]"
  | none, some word =>
    match place? all.length word with
    | some place => saying (shown ((all[place]?).getD []) ++ ['\n'])
    | none => failed (outOfRange word)
  | none, none =>
    if letters.contains 'c' then
      set { session with stack := [] }
      answer true
    else if letters.contains 'v' then
      saying (all.mapIdx fun n path =>
        let number := decimal n
        List.replicate (2 - number.length) ' ' ++ number ++ ' ' :: ' ' :: shown path ++ ['\n']).flatten
    else if letters.contains 'p' then saying (all.flatMap fun path => shown path ++ ['\n'])
    else saying (joined ' ' (all.map shown) ++ ['\n'])

def goWith (path : Bytes) (stack : List Bytes) : Step Flow := do
  if ← moveTo false path then
    modify fun session => { session with stack }
    saying (stackText (← get))
  else answer false

def pushd : Builtin := fun words => do
  let session ← get
  let all := session.here :: session.stack
  let stays := words.contains ['-', 'n']
  match words.filter (· ≠ ['-', 'n']) with
  | [] =>
    match session.stack with
    | [] => failed "no other directory"
    | path :: rest => goWith path (session.here :: rest)
  | [word] =>
    if isPlace word then
      match place? all.length word with
      | none => failed (if session.stack.isEmpty then "directory stack empty" else outOfRange word)
      | some place =>
        let turned := all.drop place ++ all.take place
        goWith (turned.headD []) (turned.drop 1)
    else if stays then
      set { session with stack := word :: session.stack }
      saying (stackText (← get))
    else goWith word (session.here :: session.stack)
  | _ => failed tooMany

def popd : Builtin := fun words => do
  let session ← get
  let all := session.here :: session.stack
  match words.filter (· ≠ ['-', 'n']) with
  | [] =>
    match session.stack with
    | [] => failed "directory stack empty"
    | path :: rest =>
      if words.isEmpty then goWith path rest
      else
        set { session with stack := rest }
        saying (stackText (← get))
  | word :: _ =>
    if !isPlace word then
      complain (word ++ ": invalid argument")
      usage "popd [-n] [+N | -N]"
    else if session.stack.isEmpty then failed "directory stack empty"
    else match place? all.length word with
      | none => failed (outOfRange word)
      | some 0 => goWith (session.stack.headD []) (session.stack.drop 1)
      | some (place + 1) =>
        set { session with stack := session.stack.take place ++ session.stack.drop (place + 1) }
        saying (stackText (← get))

end Retrace.Shell.Builtin.Full
