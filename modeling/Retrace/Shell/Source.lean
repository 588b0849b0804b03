import Retrace.Shell.Syntax

/-!
# Reading scripts

What can be wrong with a script, the text that is still to be read, and the steps
all readers are made of. A backslash in front of a line end joins two lines, so
most steps look past it.
-/

namespace Retrace.Shell

inductive Flaw.Cause where
  | openQuote
  | openBackquote
  | openBraces
  | openSum
  | badLoopVariable
  | badFunctionName
  | unexpected (token : String) (expected : Option String)
  | unfinished
  /-- The script ends inside something that a mark would close. -/
  | unclosed
  | unmatched (mark : Char)
  | noSum
  | badTest (told : List Bytes)
  | openTest
  | badCount (text : Bytes)
  deriving DecidableEq, Repr

structure Flaw where
  cause : Flaw.Cause
  line : Nat
  left : Nat
  /-- How much of it was left when the last token began. -/
  begun : Nat := 0
  (isInRow isInside : Bool := false)
  notices : List (Nat × Bytes) := []
  deriving DecidableEq, Repr

def Flaw.Cause.message : Flaw.Cause → String
  | .openQuote => "Unterminated quoted string"
  | .openBackquote => "EOF in backquote substitution"
  | .openBraces => "Missing '\x7d'"
  | .openSum => "Missing '))'"
  | .badLoopVariable => "Bad for loop variable"
  | .badFunctionName => "Bad function name"
  | .unfinished => "end of file"
  | .unclosed => "end of file"
  | .unmatched mark => "Missing '" ++ String.singleton mark ++ "'"
  | .noSum => "Missing '))'"
  | .badTest told => String.ofList told.flatten
  | .openTest => "end of file"
  | .badCount text => String.ofList text
  | .unexpected token none => token ++ " unexpected"
  | .unexpected token (some expected) => token ++ " unexpected (expecting " ++ expected ++ ")"

def Flaw.message (flaw : Flaw) : String := "Syntax error: " ++ flaw.cause.message

structure Alias where
  name : Bytes
  text : Bytes
  deriving DecidableEq, Repr

inductive Token where
  | endOfFile
  | newline
  | sign (text : String)
  | keyword (text : String)
  | word (pieces : Word)
  | setting (held : Setting) (written : Bytes)
  /-- A redirection without what follows it; for a text given below, whether its tabs go. -/
  | redirect (fd : Option Descriptor) (way : Way) (standard : Nat) (dropTabs : Bool)

namespace Token

def name : Token → String
  | .endOfFile => "end of file"
  | .newline => "newline"
  | .sign text => "\"" ++ text ++ "\""
  | .keyword text => "\"" ++ text ++ "\""
  | .word _ => "word"
  | .setting .. => "word"
  | .redirect .. => "redirection"

def isSign (text : String) : Token → Bool
  | .sign held => held = text
  | _ => false

def isKeyword (text : String) : Token → Bool
  | .keyword held => held = text
  | _ => false

def endsList : Token → Bool
  | .endOfFile => true
  | .sign text => [")", ";;", ";&", ";;&"].contains text
  | .keyword text =>
    ["do", "done", "elif", "else", "esac", "fi", "then", "\x7d"].contains text
  | _ => false

end Token

structure Below where
  id : Nat
  delimiter : Bytes
  dropTabs : Bool
  plain : Bool
  line : Nat

structure Source where
  rest : Bytes
  dialect : Dialect := .dash
  groups : Bool := false
  begun : Nat := 0
  more : Bool := false
  line : Nat := 1
  held : Option Token := none
  aliases : List Alias := []
  /-- Aliases whose text is being read, with what is left of the script after it. -/
  active : List (Alias × Nat) := []
  reading : Option Below := none
  stopped : Bool := false
  awaited : List Below := []
  texts : List (Nat × Word) := []
  fresh : Nat := 0
  notices : List (Nat × Bytes) := []

abbrev Reader := StateT Source (Except Flaw)

namespace Reader

def fail {α : Type} (cause : Flaw.Cause) : Reader α :=
  fun source =>
    .error
      { cause, line := source.line, left := source.rest.length, begun := source.begun
        notices := source.notices }

def ahead : Reader Bytes := do
  let source ← get
  if source.stopped then return []
  if source.rest.isEmpty && source.more then fail .unfinished
  return source.rest

def unjoined : Bytes → Bytes
  | '\\' :: '\n' :: rest => unjoined rest
  | text => text

def joinedLines : Bytes → Nat
  | '\\' :: '\n' :: rest => joinedLines rest + 1
  | _ => 0

def unjoin : Reader Unit := do
  let source ← get
  if source.stopped then return
  match source.rest with
  | '\\' :: '\n' :: _ =>
    let rest := unjoined source.rest
    set { source with rest, line := source.line + joinedLines source.rest }
    if rest = ['\\'] && source.more then fail .unfinished
  | ['\\'] => if source.more then fail .unfinished
  | _ => return

def next : Reader (Option Char) := do
  unjoin
  return (← ahead).head?

/-- At the start of a line of a text from below: passes the tabs in front of it, and the whole
line if it ends the text. -/
def startLine : Reader Unit := do
  let source ← get
  match source.reading with
  | none => return
  | some text =>
    let rest := if text.dropTabs then source.rest.dropWhile (· = '\t') else source.rest
    let line := rest.takeWhile (· ≠ '\n')
    let after := rest.drop line.length
    if after.isEmpty && source.more then fail .unfinished
    if line = text.delimiter then
      let passed := if after.isEmpty then 0 else 1
      set { source with rest := after.drop 1, line := source.line + passed, stopped := true }
    else set { source with rest }

def pass : Reader Unit := do
  let source ← get
  match source.rest with
  | '\n' :: rest =>
    set { source with rest, line := source.line + 1 }
    if source.reading.isSome then startLine
  | _ :: rest => set { source with rest }
  | [] => return

def skip : Reader Unit := modify fun source => { source with rest := source.rest.drop 1 }

def passes (c : Char) : Reader Bool := do
  if (← next) = some c then
    pass
    return true
  return false

def passWhile (kind : Char → Bool) : Nat → Reader Bytes
  | 0 => return []
  | fuel + 1 => do
    match ← next with
    | some c =>
      if kind c then
        pass
        return c :: (← passWhile kind fuel)
      else return []
    | none => return []

/-- Reads what a mark closes. If the script ends before that, it is the mark that is missing, and
the line where it became due counts. -/
def closedBy (mark : Char) (body : Reader α) : Reader α := fun source =>
  match body source with
  | .error flaw =>
    if flaw.cause = .unclosed then .error { flaw with cause := .unmatched mark, line := source.line }
    else .error flaw
  | read => read

def closedAtEnd (mark : Char) (body : Reader α) : Reader α := fun source =>
  match body source with
  | .error flaw =>
    let isEnd := match flaw.cause with
      | .unclosed => true
      | .unexpected "end of file" _ => true
      | _ => false
    if isEnd then
      let line := if source.rest.getLast? = some '\n' then flaw.line else flaw.line + 1
      .error { flaw with cause := .unmatched mark, line }
    else .error flaw
  | read => read

def inRow (body : Reader α) : Reader α := fun source =>
  match body source with
  | .error flaw => .error { flaw with isInRow := true }
  | read => read

def inside (body : Reader α) : Reader α := fun source =>
  match body source with
  | .error flaw =>
    match flaw.cause with
    | .unfinished | .unclosed | .unmatched _ => .error flaw
    | _ => .error { flaw with isInside := true }
  | read => read

def since (before : Source) : Reader Bytes := do
  return before.rest.take (before.rest.length - (← get).rest.length)

end Reader
end Retrace.Shell
