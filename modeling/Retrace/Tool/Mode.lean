import Retrace.Tool.Amount
import Retrace.Tool.Options
import Retrace.Tool.Quoted

/-!
# Permissions

A change of permissions is written in octal, or as clauses that say who is given or
loses what.
-/

namespace Retrace.Tool.Mode

open Unix

inductive Gift where
  | bits (bits : Nat)
  /-- Running, if it is a directory or someone may run it already. -/
  | search (bits : Nat)
  | copy (shift : Nat)

/-- A sign, whose bits are meant, and what they are given. None of them named means all that the
mask does not hide. -/
structure Clause where
  who : Option Nat
  sign : Char
  gift : Gift

inductive Change where
  | exactly (mode mentioned : Nat)
  | clauses (clauses : List Clause)

def allBits : Nat := 4095

def lendingBits : Nat := 3072

def runningBits : Nat := 73

def without (mode bits : Nat) : Nat := mode &&& (allBits ^^^ (bits &&& allBits))

def whoBits (letters : Bytes) : Nat :=
  letters.foldl (fun bits c => bits ||| match c with
    | 'u' => 2496
    | 'g' => 1080
    | 'o' => 519
    | _ => allBits) 0

def letterBits (letters : Bytes) : Nat :=
  letters.foldl (fun bits c => bits ||| match c with
    | 'r' => 292
    | 'w' => 146
    | 'x' => runningBits
    | 's' => lendingBits
    | 't' => 512
    | _ => 0) 0

def actions (who : Option Nat) : Nat → Bytes → Option (List Clause)
  | 0, _ => none
  | _ + 1, [] => some []
  | fuel + 1, sign :: rest =>
    if sign ≠ '+' && sign ≠ '-' && sign ≠ '=' then none
    else
      let letters := rest.takeWhile ("rwxXst".toList.contains ·)
      let (gift, after) : Gift × Bytes := match rest with
        | 'u' :: more => (.copy 6, more)
        | 'g' :: more => (.copy 3, more)
        | 'o' :: more => (.copy 0, more)
        | _ =>
          let bits := letterBits letters
          (if letters.contains 'X' then .search bits else .bits bits, rest.drop letters.length)
      (actions who fuel after).map (⟨who, sign, gift⟩ :: ·)

def clause (text : Bytes) : Option (List Clause) :=
  let who := text.takeWhile ("ugoa".toList.contains ·)
  let rest := text.drop who.length
  if rest.isEmpty then none
  else actions (if who.isEmpty then none else some (whoBits who)) (rest.length + 1) rest

/-- Reads a change of permissions. Fewer than five digits do not speak of the bits above the
permissions unless they set them. -/
def read? (text : Bytes) : Option Change :=
  if !text.isEmpty && text.all fun c => '0' ≤ c && c ≤ '7' then
    let mode := text.foldl (fun n c => n * 8 + (c.toNat - 48)) 0
    if mode ≤ allBits then some (.exactly mode (if text.length < 5 then mode ||| 511 else allBits))
    else none
  else ((cutAt ',' text).mapM clause).map fun clauses => .clauses clauses.flatten

def spread (bits : Nat) : Nat := bits * runningBits

def Clause.mentioned (clause : Clause) : Nat :=
  let bits := match clause.gift with
    | .bits bits => bits
    | .search bits => bits
    | .copy shift => 7 <<< shift
  bits &&& clause.who.getD allBits

/-- The bits that a directory keeps because they are not spoken of. -/
def kept (isDir : Bool) (mentioned : Nat) : Nat := if isDir then without lendingBits mentioned else 0

def Clause.apply (clause : Clause) (mask : Nat) (isDir : Bool) (mode : Nat) : Nat :=
  let bits := match clause.gift with
    | .bits bits => bits
    | .search bits => if isDir || mode &&& runningBits ≠ 0 then bits ||| runningBits else bits
    | .copy shift => spread ((mode >>> shift) &&& 7)
  let kept := kept isDir clause.mentioned
  let bits := match clause.who with
    | some who => bits &&& who
    | none => without bits mask
  let bits := without bits kept
  match clause.sign with
  | '+' => mode ||| bits
  | '-' => without mode bits
  | _ => (mode &&& (without allBits (clause.who.getD allBits) ||| kept)) ||| bits

def Change.apply (change : Change) (mask : Nat) (isDir : Bool) (mode : Nat) : Nat :=
  match change with
  | .exactly wanted mentioned =>
    let kept := kept isDir mentioned
    (mode &&& kept) ||| without wanted kept
  | .clauses all => all.foldl (fun mode clause => clause.apply mask isDir mode) mode

/-- Permissions as nine letters. A bit above them changes the letter for running. -/
def letters (mode : Nat) : Bytes :=
  let triple := fun (shift lending : Nat) (both alone : Char) =>
    let has := fun bit : Nat => mode &&& (bit <<< shift) ≠ 0
    let runs := if mode &&& lending ≠ 0 then if has 1 then both else alone
      else if has 1 then 'x' else '-'
    [if has 4 then 'r' else '-', if has 2 then 'w' else '-', runs]
  triple 6 2048 's' 'S' ++ triple 3 1024 's' 'S' ++ triple 0 512 't' 'T'

def octal (width mode : Nat) : Bytes :=
  let digits := Nat.toDigits 8 mode
  List.replicate (width - digits.length) '0' ++ digits

/-! ## The tool -/

structure Style where
  (changes verbose silent recursive : Bool := false)
  mode : Option Bytes := none

def tell (style : Style) (name : Bytes) (before after : Nat) : Work Unit := do
  let shown := fun mode => octal 4 mode ++ " (" ++ letters mode ++ ")"
  if before ≠ after then
    if style.changes || style.verbose then
      out ("mode of " ++ Quoted.name name ++ " changed from " ++ shown before ++
        " to " ++ shown after ++ ['\n'])
  else if style.verbose then
    out ("mode of " ++ Quoted.name name ++ " retained as " ++ shown after ++ ['\n'])

/-- Changes the permissions of a file, and of all below it if that is wanted. -/
def alter (style : Style) (change : Change) : Nat → Bool → Bytes → Work Unit
  | 0, _, _ => return
  | depth + 1, top, name => do
    let view ← look
    match view.status name true with
    | .error cause =>
      if top then
        if !style.silent then
          if view.pathExists name false then
            warn ("cannot operate on dangling symlink " ++ Quoted.name name)
          else
            warn ("cannot access " ++ Quoted.name name ++ ": " ++ causeText cause)
        if style.verbose then
          out (Quoted.name name ++ " could not be accessed\n")
        fail 1
    | .ok (inode, held) =>
      let isDir := view.volume.isDir inode
      let after := change.apply view.mask isDir held.mode
      let _ ← ask (.change fun view => .ok (view.volume.setMode inode after))
      tell style name held.mode after
      if style.recursive && isDir then
        for (entry, child) in view.volume.entries inode do
          let isLink := match (view.volume.get? child).map Inode.body with
            | some (.link _) => true
            | _ => false
          if !isLink then alter style change depth false (Exec.under name entry)

def isMode (word : Bytes) : Bool :=
  match word with
  | '-' :: c :: rest => (c :: rest).all ("rwxXstugoa,+=-01234567".toList.contains ·)
  | _ => false

def chmod : Tool := make fun words => do
  let manual := (Manual.make "Rcfv" [("recursive", "R"), ("changes", "c"), ("verbose", "v"),
    ("quiet", "f"), ("silent", "f")]).named
    [("preserve-root", .never), ("no-preserve-root", .never), ("reference", .always)]
  let modes := (words.takeWhile (· ≠ ['-', '-'])).filter isMode
  let rest := words.filter fun word => !(isMode word && modes.contains word)
  let (style, operands) ← manual.heed rest ({} : Style) fun style name value =>
    match name with
    | "R" => return { style with recursive := true }
    | "c" => return { style with changes := true }
    | "v" => return { style with verbose := true }
    | "f" => return { style with silent := true }
    | "reference" => do
      match (← look).status value true with
      | .ok (_, held) => return { style with mode := some (octal 1 held.mode) }
      | .error cause =>
        abort ("failed to get attributes of " ++ Quoted.name value ++ ": " ++
          causeText cause) 1
    | _ => return style
  let given := if modes.isEmpty then style.mode else some (joined ',' modes)
  let (text, names) ← match given, operands with
    | some mode, names => pure (mode, names)
    | none, mode :: names => pure (mode, names)
    | none, [] => misuse "missing operand" 1
  if names.isEmpty then
    if given.isSome && style.mode.isNone && !modes.isEmpty then misuse "missing operand" 1
    else misuse ("missing operand after " ++ Quoted.operand text) 1
  match read? text with
  | none => misuse ("invalid mode: " ++ Quoted.operand text) 1
  | some change =>
    for name in names do
      alter style change 1000 true name

end Retrace.Tool.Mode
