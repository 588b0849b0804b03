import Retrace.Regex.Posix
import Retrace.Shell.Pattern
import Retrace.Tool.Removal

/-!
# Queries about files

What is asked about a file, and what is done with it: tests and actions that are
joined by signs. Words that make no query end the tool.
-/

namespace Retrace.Tool.Find

open Unix Regex

structure Count where
  order : Ordering
  number : Nat

def Count.fits (count : Count) (n : Nat) : Bool := compare n count.number = count.order

inductive Asked where
  | exactly
  | all
  | any

structure Run where
  words : List Bytes
  inside : Bool
  asks : Bool := false

inductive Test where
  | name (pattern : List Shell.Glob) (folds : Bool)
  | path (pattern : List Shell.Glob) (folds : Bool)
  | regex (expression : Posix)
  | kind (letters : Bytes) (through : Bool)
  | size (count : Count) (unit : Nat)
  | empty
  | newer (time : Nat)
  | age (count : Count) (unit : Nat)
  | mode (bits : Nat) (asked : Asked)
  | links (count : Count)
  | number (count : Count)
  | same (inode : Nat)
  | target (pattern : List Shell.Glob) (folds : Bool)
  | executable
  | constant (answer : Bool)
  | print (mark : Char)
  | printTo (fd : Nat) (mark : Char)
  | format (text : Bytes)
  | list
  | run (run : Run)
  | collect (id : Nat)
  | delete
  | prune
  | quit

inductive Query where
  | test (test : Test)
  | not (query : Query)
  | both (first second : Query)
  | either (first second : Query)
  | sequence (first second : Query)

inductive Token where
  | opening
  | closing
  | not (word : Bytes)
  | both (word : Bytes)
  | either (word : Bytes)
  | comma
  | test (word : Bytes) (test : Test)

def Token.word : Token → Bytes
  | .opening => ['(']
  | .closing => [')']
  | .not word => word
  | .both word => word
  | .either word => word
  | .comma => [',']
  | .test word _ => word

/-! ## Reading tests -/

structure Plan where
  (follows followsTop : Bool := false)
  least : Nat := 0
  most : Option Nat := none
  (childrenFirst extended acts : Bool := false)
  commands : List Run := []
  tokens : List Token := []

def flawed {α : Type} (text : Bytes) : Work α := abort text 1

def shown (word : Bytes) : Bytes := '\x60' :: word ++ ['\'']

def countOf? (text : Bytes) : Option Count :=
  match text with
  | '+' :: digits => (natural? digits).map fun n => ⟨.gt, n⟩
  | '-' :: digits => (natural? digits).map fun n => ⟨.lt, n⟩
  | digits => (natural? digits).map fun n => ⟨.eq, n⟩

def countOf (word text : Bytes) : Work Count := do
  match countOf? text with
  | some count => return count
  | none =>
    flawed ("invalid argument " ++ shown text ++ " to " ++ shown word)

def sizeOf (text : Bytes) : Work Test := do
  let units : List (Char × Nat) :=
    [('b', 512), ('c', 1), ('w', 2), ('k', 1024), ('M', 1048576), ('G', 1073741824)]
  let last := text.getLastD ' '
  let (digits, unit) ← match units.lookup last with
    | some unit => pure (text.dropLast, unit)
    | none => if last.isDigit then pure (text, 512) else flawed ("invalid -size type " ++ shown [last])
  match countOf? digits with
  | some count => return .size count unit
  | none => flawed ("Invalid argument " ++ shown text ++ " to -size")

def kindsOf (word text : Bytes) : Work Bytes := do
  let kinds := cutAt ',' text
  for kind in kinds do
    match kind with
    | [c] =>
      if !"fdlpcbsD".toList.contains c then
        flawed ("Unknown argument to " ++ word ++ ": " ++ [c])
    | [] =>
      flawed ("Last file type in list argument to " ++ word ++ " is missing, i.e., list is ending on: ','")
    | _ => flawed ("Must separate multiple arguments to " ++ word ++ " using: ','")
  return kinds.flatten

/-- The expression that a text stands for where a repetition is marked by signs without a
backslash. -/
def plainRepeats : Bytes → Bytes
  | '\\' :: c :: rest => '\\' :: c :: plainRepeats rest
  | c :: rest => if c = '+' || c = '?' then '\\' :: c :: plainRepeats rest else c :: plainRepeats rest
  | [] => []

def regexOf (extended folds : Bool) (text : Bytes) : Work Test := do
  let read := if extended then Posix.read { extended := true } text
    else Posix.read { lenient := true } (plainRepeats text)
  match read with
  | .ok (expression, _) => return .regex (if folds then expression.folded else expression)
  | .error flaw => flawed ("failed to compile regular expression " ++ Quoted.operand text ++
      ofString (": " ++ flaw.text))

def modeOf (mask : Nat) (text : Bytes) : Work Test := do
  let (asked, rest) : Asked × Bytes := match text with
    | '-' :: rest => (.all, rest)
    | '/' :: rest => (.any, rest)
    | rest => (.exactly, rest)
  match Mode.read? rest with
  | some change => return .mode (change.apply mask false 0) asked
  | none => flawed ("invalid mode " ++ Quoted.operand text)

def commandOf (words : List Bytes) : Option (List Bytes × Bool × List Bytes) :=
  let ends := words.zipIdx.findIdx? fun (word, i) =>
    word = [';'] || (word = ['+'] && i ≠ 0 && words[i - 1]? = some "\x7b\x7d")
  ends.map fun place =>
    if words[place]? = some [';'] then (words.take place, false, words.drop (place + 1))
    else (words.take (place - 1), true, words.drop (place + 1))

def Plan.add (plan : Plan) (word : Bytes) (test : Test) : Plan :=
  { plan with tokens := .test word test :: plan.tokens }

def Plan.act (plan : Plan) (word : Bytes) (test : Test) : Plan :=
  { plan.add word test with acts := true }

def Plan.command (plan : Plan) (word : Bytes) (rest : List Bytes) (inside asks : Bool) :
    Work (Plan × List Bytes) := do
  match commandOf rest with
  | some (words, collects, rest) =>
    if words.isEmpty then flawed ("missing argument to " ++ shown word)
    if collects then
      if words.any (·.contains '\x7b') && words.any (· = "\x7b\x7d") then
        flawed ("Only one instance of \x7b\x7d is supported with " ++ word ++ " ... +")
      let plan := { plan with commands := plan.commands ++ [({ words := words, inside := inside } : Run)] }
      return (plan.act word (.collect (plan.commands.length - 1)), rest)
    else return (plan.act word (.run { words, inside, asks }), rest)
  | none => flawed ("missing argument to " ++ shown word)

def plainTest? (word : String) : Option Test :=
  match word with
  | "-empty" => some .empty
  | "-true" => some (.constant true)
  | "-false" => some (.constant false)
  | "-readable" => some (.constant true)
  | "-writable" => some (.constant true)
  | "-executable" => some .executable
  | "-nouser" => some (.constant false)
  | "-nogroup" => some (.constant false)
  | "-prune" => some .prune
  | _ => none

def plainAction? (word : String) : Option Test :=
  match word with
  | "-print" => some (.print '\n')
  | "-print0" => some (.print '\x00')
  | "-ls" => some .list
  | "-quit" => some .quit
  | _ => none

def idle : List String :=
  ["-xdev", "-mount", "-noleaf", "-warn", "-nowarn", "-daystart", "-ignore_readdir_race",
    "-noignore_readdir_race"]

def outputOf (name : Bytes) : Work Nat := do
  match ← ask (.openFile name .output 438) with
  | .ok fd => return fd
  | .error cause => flawed (Quoted.name name ++ ": " ++ causeText cause)

def Plan.valued (plan : Plan) (word value : Bytes) : Work (Option Plan) := do
  let view ← look
  let add := fun (test : Test) => some (plan.add word test)
  let glob := Shell.Glob.ofText value
  let folded := Shell.Glob.ofText (value.map Char.toLower)
  let statusOf := do
    match view.status value (plan.follows || plan.followsTop) with
    | .ok found => pure found
    | .error cause => flawed (Quoted.name value ++ ": " ++ causeText cause)
  let depth := do
    match natural? value with
    | some n => pure n
    | none =>
      flawed (ofString "Expected a positive decimal integer argument to " ++ word ++ ofString ", but got " ++
        Quoted.operand value)
  match String.ofList word with
  | "-name" => return add (.name glob false)
  | "-iname" => return add (.name folded true)
  | "-path" | "-wholename" => return add (.path glob false)
  | "-ipath" | "-iwholename" => return add (.path folded true)
  | "-lname" => return add (.target glob false)
  | "-ilname" => return add (.target folded true)
  | "-regex" => return add (← regexOf plan.extended false value)
  | "-iregex" => return add (← regexOf plan.extended true value)
  | "-regextype" =>
    return some { plan with extended := (ofString "extended").isSuffixOf value || (ofString "egrep").isSuffixOf value }
  | "-type" => return add (.kind (← kindsOf word value) false)
  | "-xtype" => return add (.kind (← kindsOf word value) true)
  | "-size" => return add (← sizeOf value)
  | "-newer" | "-anewer" | "-cnewer" => return add (.newer (← statusOf).2.changed)
  | "-mtime" | "-atime" | "-ctime" => return add (.age (← countOf word value) 86400000000)
  | "-mmin" | "-amin" | "-cmin" => return add (.age (← countOf word value) 60000000)
  | "-perm" => return add (← modeOf view.mask value)
  | "-links" => return add (.links (← countOf word value))
  | "-inum" => return add (.number (← countOf word value))
  | "-uid" | "-gid" => return add (.constant ((← countOf word value).fits 0))
  | "-user" =>
    if value = ofString "root" || value = ['0'] then return add (.constant true)
    else if (natural? value).isSome then return add (.constant false)
    else flawed (Quoted.operand value ++ " is not the name of a known user")
  | "-group" =>
    if value = "root" || value = ['0'] then return add (.constant true)
    else if (natural? value).isSome then return add (.constant false)
    else flawed (Quoted.operand value ++ " is not the name of an existing group")
  | "-samefile" => return add (.same (← statusOf).1)
  | "-maxdepth" => return some { plan with most := some (← depth) }
  | "-mindepth" => return some { plan with least := ← depth }
  | "-printf" => return some (plan.act word (.format value))
  | "-fprint" => return some (plan.act word (.printTo (← outputOf value) '\n'))
  | "-fprint0" => return some (plan.act word (.printTo (← outputOf value) '\x00'))
  | _ => return none

def takesValue : List String :=
  ["-name", "-iname", "-path", "-wholename", "-ipath", "-iwholename", "-lname", "-ilname", "-regex",
    "-iregex", "-regextype", "-type", "-xtype", "-size", "-newer", "-anewer", "-cnewer", "-mtime",
    "-atime", "-ctime", "-mmin", "-amin", "-cmin", "-perm", "-links", "-inum", "-uid", "-gid", "-user",
    "-group", "-samefile", "-maxdepth", "-mindepth", "-printf", "-fprint", "-fprint0"]

def takesPattern : List String :=
  ["-name", "-iname", "-path", "-wholename", "-ipath", "-iwholename", "-lname", "-ilname", "-regex",
    "-iregex"]

def Plan.read : Nat → List Bytes → Plan → Work Plan
  | 0, _, plan => return plan
  | _, [], plan => return plan
  | fuel + 1, word :: rest, plan => do
    let name := String.ofList word
    let push := fun (token : Token) =>
      Plan.read fuel rest { plan with tokens := token :: plan.tokens }
    if name = "(" then push .opening
    else if name = ")" then push .closing
    else if name = "," then push .comma
    else if name = "!" || name = "-not" then push (.not word)
    else if name = "-a" || name = "-and" then push (.both word)
    else if name = "-o" || name = "-or" then push (.either word)
    else if let some test := plainTest? name then Plan.read fuel rest (plan.add word test)
    else if let some test := plainAction? name then Plan.read fuel rest (plan.act word test)
    else if name = "-delete" then
      Plan.read fuel rest { plan.act word .delete with childrenFirst := true }
    else if name = "-depth" || name = "-d" then Plan.read fuel rest { plan with childrenFirst := true }
    else if name = "-follow" then Plan.read fuel rest { plan with follows := true }
    else if idle.contains name then Plan.read fuel rest plan
    else if ["-exec", "-execdir", "-ok", "-okdir"].contains name then
      let inside := name = "-execdir" || name = "-okdir"
      let asks := name = "-ok" || name = "-okdir"
      let (plan, rest) ← plan.command word rest inside asks
      Plan.read fuel rest plan
    else if takesValue.contains name then
      match rest with
      | [] => flawed ("missing argument to " ++ shown word)
      | value :: rest =>
        match ← plan.valued word value with
        | some plan => Plan.read fuel rest plan
        | none => Plan.read fuel rest plan
    else if word.head? = some '-' && word.length ≠ 1 then
      flawed ("unknown predicate " ++ shown word)
    else
      warn ("paths must precede expression: " ++ shown word)
      if let some (.test last _) := plan.tokens.head? then
        if takesPattern.contains (String.ofList last) && (← look).pathExists word false then
          warn ("possible unquoted pattern after predicate " ++ shown last ++ ['?'])
      exit 1

/-! ## Joining tests -/

abbrev Reading := StateT (List Token) Work

def misread {α : Type} (text : Bytes) : Reading α := StateT.lift (flawed text)

def unfollowed {α : Type} (word : Bytes) (next : Option Token) : Reading α := do
  match next with
  | some .closing =>
    misread ("expected an expression between " ++ Quoted.operand word ++ " and ')'")
  | _ => misread ("expected an expression after " ++ Quoted.operand word)

/-- Reads what a sign may stand before, given the sign or the bracket before it. -/
def single (query : Reading Query) : Nat → Option Token → Reading Query
  | 0, _ => return .test (.constant true)
  | fuel + 1, before => do
    match ← get with
    | [] =>
      match before with
      | some token => unfollowed token.word none
      | none => return .test (.constant true)
    | token :: rest =>
      let unexpected : Reading Query := do
        match before, token with
        | some .opening, .closing =>
          misread "invalid expression; empty parentheses are not allowed."
        | some sign, _ => unfollowed sign.word (some token)
        | none, .closing => misread "invalid expression; you have too many ')'"
        | none, _ =>
          misread ("invalid expression; you have used a binary operator " ++
            Quoted.operand token.word ++ " with nothing before it.")
      match token with
      | .test _ test =>
        set rest
        return .test test
      | .not _ =>
        set rest
        return .not (← single query fuel (some token))
      | .opening =>
        set rest
        if let .closing :: _ := rest then
          misread "invalid expression; empty parentheses are not allowed."
        if rest.isEmpty then
          misread "invalid expression; I was expecting to find a ')' somewhere but did not see one."
        let inner ← query
        match ← get with
        | .closing :: rest =>
          set rest
          return inner
        | _ =>
          misread "invalid expression; I was expecting to find a ')' somewhere but did not see one."
      | _ => unexpected

def allOf (query : Reading Query) : Nat → Query → Reading Query
  | 0, first => return first
  | fuel + 1, first => do
    let tokens ← get
    match tokens with
    | .both word :: rest =>
      set rest
      let second ← single query (tokens.length + 1) (some (.both word))
      allOf query fuel (.both first second)
    | .test .. :: _ | .not _ :: _ | .opening :: _ =>
      let second ← single query (tokens.length + 1) none
      allOf query fuel (.both first second)
    | _ => return first

def anyOf (query : Reading Query) : Nat → Query → Reading Query
  | 0, first => return first
  | fuel + 1, first => do
    let tokens ← get
    match tokens with
    | .either word :: rest =>
      set rest
      let second ← single query (tokens.length + 1) (some (.either word))
      anyOf query fuel (.either first (← allOf query tokens.length second))
    | _ => return first

def oneByOne (query : Reading Query) : Nat → Query → Reading Query
  | 0, first => return first
  | fuel + 1, first => do
    let tokens ← get
    match tokens with
    | .comma :: rest =>
      set rest
      let second ← single query (tokens.length + 1) (some .comma)
      let second ← allOf query tokens.length second
      oneByOne query fuel (.sequence first (← anyOf query tokens.length second))
    | _ => return first

def queryWithin : Nat → Reading Query
  | 0 => return .test (.constant true)
  | depth + 1 => do
    let count := (← get).length + 1
    let first ← single (queryWithin depth) count none
    let first ← allOf (queryWithin depth) count first
    let first ← anyOf (queryWithin depth) count first
    oneByOne (queryWithin depth) count first

def Plan.query (plan : Plan) : Work Query := do
  let tokens := plan.tokens.reverse
  if tokens.isEmpty then return .test (.constant true)
  let (query, rest) ← (queryWithin (tokens.length + 1)).run tokens
  match rest with
  | [] => return query
  | _ => flawed "invalid expression; you have too many ')'"

end Retrace.Tool.Find
