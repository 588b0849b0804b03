import Retrace.Tool.Sort

/-!
# Small tools

Tools that say one thing, over and over or after a while, or that say something
about the machine and its user.
-/

namespace Retrace.Tool.Answers

open Unix

def again (text : Bytes) : Nat → Work Unit
  | 0 => return
  | fuel + 1 => do
    put text
    match (← get).broken with
    | some cause =>
      set { ← get with broken := none }
      abort ("standard output: " ++ causeText cause) 1
    | none => again text fuel

def yes : Tool := make fun words => do
  let words := match words with
    | ['-', '-'] :: rest => rest
    | words => words
  let line := (if words.isEmpty then ['y'] else joined ' ' words) ++ ['\n']
  let count := max 1 (8192 / line.length)
  again (List.replicate count line).flatten Program.manySteps

def interval? (text : Bytes) : Option Nat := do
  let (digits, unit) : Bytes × Nat := match text.getLast? with
    | some 's' => (text.dropLast, 1)
    | some 'm' => (text.dropLast, 60)
    | some 'h' => (text.dropLast, 3600)
    | some 'd' => (text.dropLast, 86400)
    | _ => (text, 1)
  if digits = "infinity" || digits = "inf" then return Program.manySteps * 1000000
  let scan := Shell.Real.scan digits
  if !scan.found || !scan.rest.isEmpty || scan.value < 0 then none
  else match Shell.Real.ofFloat (scan.value * Float.ofNat unit) with
    | .finite parts => some (min (parts.scaled 6) (Program.manySteps * 1000000))
    | _ => some (Program.manySteps * 1000000)

def sleep : Tool := make fun words => do
  let manual := ({} : Manual).named
  let (_, operands) ← manual.options words
  if operands.isEmpty then misuse "missing operand" 1
  let flawed := operands.filter fun word => (interval? word).isNone
  for word in flawed do
    warn ("invalid time interval " ++ Quoted.operand word)
  if !flawed.isEmpty then
    note ("Try '" ++ (← get).name ++ " --help' for more information.\n")
    exit 1
  ask (.sleep (min ((operands.filterMap interval?).foldl (· + ·) 0) (Program.manySteps * 1000000)))

def uname : Tool := make fun words => do
  let manual := (Manual.make "asnrvmpio" [("all", "a"), ("kernel-name", "s"), ("nodename", "n"),
    ("kernel-release", "r"), ("kernel-version", "v"), ("machine", "m"), ("processor", "p"),
    ("hardware-platform", "i"), ("operating-system", "o")]).named
  let (options, operands) ← manual.options words
  if let some extra := operands.head? then misuse ("extra operand " ++ Quoted.operand extra) 1
  let all := options.any (·.1 = "a")
  let wanted := fun name => options.any (·.1 = name)
  let parts := [("s", "Linux"), ("n", "localhost"), ("r", "6.1.0"), ("v", "#1 SMP"), ("m", "x86_64"),
    ("p", "unknown"), ("i", "unknown"), ("o", "GNU/Linux")]
  let shown := parts.filter fun (letter, text) =>
    wanted letter || (all && text ≠ "unknown") || (options.isEmpty && letter = "s")
  out (joined ' ' (shown.map fun (_, text) => ofString text) ++ ['\n'])

def saying (text : String) : Tool := make fun words => do
  let manual := ({} : Manual).named
  let (_, operands) ← manual.options words
  if let some extra := operands.head? then misuse ("extra operand " ++ Quoted.operand extra) 1
  out (ofString text ++ ['\n'])

def silent : Tool := fun _ _ => return .exited 0

def printenv : Tool := makeClosing (.failing 2) fun words => do
  let manual := { (Manual.make "0" [("null", "0")] 2).named with ordered := true }
  let (options, names) ← manual.options words
  let env := (← get).env
  let ending := if options.any (·.1 = "0") then ['\x00'] else ['\n']
  if names.isEmpty then
    for (name, value) in env do
      out (name ++ '=' :: value ++ ending)
  else
    for name in names do
      match env.lookup name with
      | some value => out (value ++ ending)
      | none => fail 1

end Retrace.Tool.Answers
