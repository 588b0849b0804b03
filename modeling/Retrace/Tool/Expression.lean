import Retrace.Regex.Posix
import Retrace.Tool.Amount
import Retrace.Tool.Quoted

/-!
# Values of expressions

Every sign and every value of an expression is a word of its own. Values are
texts; one that is a number counts as one.
-/

namespace Retrace.Tool.Expression

open Unix Regex Text

structure Scan where
  rest : List Bytes
  last : Bytes := []

/-- A value is worked out from words; what is wrong with them ends the tool. -/
abbrev Reading := StateT Scan Work

def invalid {α : Type} (text : Bytes) : Reading α := StateT.lift (abort text 2)

def takes (word : String) : Reading Bool := do
  let scan ← get
  match scan.rest with
  | next :: rest =>
    if next = word.toList then
      set ({ rest, last := next } : Scan)
      return true
    else return false
  | [] => return false

def takesOne : List String → Reading (Option String)
  | [] => return none
  | word :: rest => do if ← takes word then return some word else takesOne rest

def takeAny : Reading Bytes := do
  let scan ← get
  match scan.rest with
  | next :: rest =>
    set ({ rest, last := next } : Scan)
    return next
  | [] => invalid ("syntax error: missing argument after " ++ Quoted.operand scan.last)

def isNull (value : Bytes) : Bool :=
  let digits := match value with
    | '-' :: rest => rest
    | _ => value
  value.isEmpty || (!digits.isEmpty && digits.all (· = '0'))

def number? : Bytes → Option Int
  | '-' :: digits => (natural? digits).map fun n => -(n : Int)
  | digits => (natural? digits).map fun n => (n : Int)

def ofInt (number : Int) : Bytes :=
  if number < 0 then '-' :: decimal number.natAbs else decimal number.natAbs

def matched (text pattern : Bytes) : Reading Bytes := do
  match Posix.read {} pattern with
  | .error flaw => invalid (ofString flaw.text)
  | .ok (expression, groups) =>
    let chars := text.toArray
    match expression.matchAt? chars 0, groups with
    | some found, 0 => return decimal found.stop
    | some found, _ => return (found.group? chars 1).getD []
    | none, 0 => return ['0']
    | none, _ => return []

def place (text some : Bytes) : Nat :=
  match text.findIdx? some.contains with
  | .some index => index + 1
  | none => 0

def part (text : Bytes) (start count : Int) : Bytes :=
  if start ≤ 0 || count ≤ 0 then [] else (text.drop (start.toNat - 1)).take count.toNat

def calculate (sign : String) (left right : Bytes) : Reading Bytes := do
  match number? left, number? right with
  | some a, some b =>
    match sign with
    | "+" => return ofInt (a + b)
    | "-" => return ofInt (a - b)
    | "*" => return ofInt (a * b)
    | _ =>
      if b = 0 then invalid "division by zero"
      return ofInt (if sign = "/" then a.tdiv b else a.tmod b)
  | _, _ => invalid "non-integer argument"

def compareAs (sign : String) (less equal : Bool) : Bool :=
  match sign with
  | "<" => less
  | "<=" => less || equal
  | "!=" => !equal
  | ">=" => !less
  | ">" => !less && !equal
  | _ => equal

def compare (sign : String) (left right : Bytes) : Bool :=
  match number? left, number? right with
  | some a, some b => compareAs sign (decide (a < b)) (decide (a = b))
  | _, _ => compareAs sign (decide (left < right)) (decide (left = right))

def chain (signs : List String) (operand : Bytes → Reading Bytes)
    (join : String → Bytes → Bytes → Reading Bytes) :
    Nat → Bytes → Reading Bytes
  | 0, left => return left
  | fuel + 1, left => do
    match ← takesOne signs with
    | none => return left
    | some sign => chain signs operand join fuel (← join sign left (← operand left))

/-- How tightly signs bind, the loosest first; the last level has no signs between values. -/
inductive Level where
  | either
  | both
  | order
  | sum
  | product
  | pattern
  | single
  | atom

def value : Nat → Level → Bool → Reading Bytes
  | 0, _, _ => return []
  | fuel + 1, level, wanted => do
    let rounds := (← get).rest.length + 1
    match level with
    | .either =>
      let left ← value fuel .both wanted
      chain ["|"] (fun left => value fuel .both (wanted && isNull left))
        (fun _ left right => return if !isNull left then left else if isNull right then ['0'] else right)
        rounds left
    | .both =>
      let left ← value fuel .order wanted
      chain ["&"] (fun left => value fuel .order (wanted && !isNull left))
        (fun _ left right => return if isNull left || isNull right then ['0'] else left) rounds left
    | .order =>
      let left ← value fuel .sum wanted
      chain ["<=", "<", "==", "=", "!=", ">=", ">"] (fun _ => value fuel .sum wanted)
        (fun sign left right => return if wanted && compare sign left right then ['1'] else ['0'])
        rounds left
    | .sum =>
      let left ← value fuel .product wanted
      chain ["+", "-"] (fun _ => value fuel .product wanted)
        (fun sign left right => if wanted then calculate sign left right else return left) rounds left
    | .product =>
      let left ← value fuel .pattern wanted
      chain ["*", "/", "%"] (fun _ => value fuel .pattern wanted)
        (fun sign left right => if wanted then calculate sign left right else return left) rounds left
    | .pattern =>
      let left ← value fuel .single wanted
      chain [":"] (fun _ => value fuel .single wanted)
        (fun _ left right => if wanted then matched left right else return left) rounds left
    | .single =>
      match ← takesOne ["+", "length", "match", "index", "substr"] with
      | some "+" => takeAny
      | some "length" => return decimal (← value fuel .single wanted).length
      | some "match" =>
        let left ← value fuel .single wanted
        let right ← value fuel .single wanted
        if wanted then matched left right else return left
      | some "index" =>
        let left ← value fuel .single wanted
        let right ← value fuel .single wanted
        return decimal (place left right)
      | some _ =>
        let text ← value fuel .single wanted
        let start ← value fuel .single wanted
        let count ← value fuel .single wanted
        match number? start, number? count with
        | some start, some count => return part text start count
        | _, _ => return []
      | none => value fuel .atom wanted
    | .atom =>
      if ← takes "(" then
        let inner ← value fuel .either wanted
        let scan ← get
        if ← takes ")" then return inner
        match scan.rest with
        | [] => invalid ("syntax error: expecting ')' after " ++ Quoted.operand scan.last)
        | next :: _ =>
          invalid ("syntax error: expecting ')' instead of " ++ Quoted.operand next)
      else if ← takes ")" then invalid "syntax error: unexpected ')'"
      else takeAny

def tool : Tool := makeClosing (.failing 3) fun words => do
  let words := match words with
    | ['-', '-'] :: rest => rest
    | words => words
  if words.isEmpty then misuse (ofString "missing operand") 2
  if words = [ofString "--help"] || words = [ofString "--version"] then exit 0
  let (result, scan) ← (value (words.length * 9 + 9) .either true).run { rest := words }
  if let next :: _ := scan.rest then
    abort (ofString "syntax error: unexpected argument " ++ Quoted.operand next) 2
  out (result ++ ['\n'])
  if isNull result then fail 1

end Retrace.Tool.Expression
