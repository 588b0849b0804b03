import Retrace.Shell.Token

/-!
# Reading statements

The forms of a script. A script is read one line of statements at a time, so what
stands before a flaw still runs, and an alias takes effect on the lines below.
-/

namespace Retrace.Shell

inductive ListKind where
  | line
  | block
  | optional
  deriving DecidableEq, Repr

structure Nested where
  list : ListKind → Reader Statement
  fuel : Nat

def specialNames : List String :=
  [".", ":", "break", "continue", "eval", "exec", "exit", "export", "local", "readonly", "return",
    "set", "shift", "times", "trap", "unset"]

namespace Nested

def token (nested : Nested) (wanted : Wanted) : Reader Token :=
  Reader.token (nested.list .optional) nested.fuel wanted nested.fuel

def endLine (nested : Nested) : Reader Unit := Reader.endLine (nested.list .optional) nested.fuel

def refuse {α : Type} (token : Token) (expected : Option String) : Reader α :=
  Reader.fail (.unexpected token.name expected)

variable (nested : Nested)

def expectKeyword (text : String) (wanted : Wanted) : Reader Unit := do
  let token ← nested.token wanted
  if !token.isKeyword text then refuse token (some ("\"" ++ text ++ "\""))

def redirect (nested : Nested) (fd : Option Descriptor) (way : Way) (standard : Nat)
    (dropTabs : Bool) : Reader Redirect :=
  Reader.redirect (nested.list .optional) nested.fuel fd way standard dropTabs

def redirects (nested : Nested) : Nat → Reader (List Redirect)
  | 0 => return []
  | fuel + 1 => do
    match ← nested.token .command with
    | .redirect fd way standard dropTabs =>
      let first ← nested.redirect fd way standard dropTabs
      return first :: (← nested.redirects fuel)
    | other =>
      Reader.giveBack other
      return []

def choice (nested : Nested) : Nat → Reader Statement
  | 0 => return .nothing
  | fuel + 1 => do
    let condition ← nested.list .block
    nested.expectKeyword "then" {}
    let yes ← nested.list .block
    let token ← nested.token {}
    if token.isKeyword "elif" then return .choice condition yes (← nested.choice fuel)
    else if token.isKeyword "else" then return .choice condition yes (← nested.list .block)
    else
      Reader.giveBack token
      return .choice condition yes .nothing

def loop (nested : Nested) (untilTrue : Bool) : Reader Statement := do
  let condition ← nested.list .block
  nested.expectKeyword "do" {}
  return .loop untilTrue condition (← nested.list .block)

def words (nested : Nested) : Nat → List Word → Reader (List Word × Token)
  | 0, read => return (read.reverse, .endOfFile)
  | fuel + 1, read => do
    match ← nested.token {} with
    | .word word => nested.words fuel (word :: read)
    | other => return (read.reverse, other)

def allParams : Word := [.mark, .param true ['@'] .plain [], .mark]

def allParamsFull : Word :=
  [.written "\"$@\"".toList, .quotation [.reference true false ['@'] .none .plain []]]

def dialect : Reader Dialect := return (← get).dialect

def loopBody (wanted : Wanted) : Reader Statement := do
  let token ← nested.token wanted
  let body (close : String) : Reader Statement := do
    let body ← nested.list .block
    nested.expectKeyword close {}
    return body
  if token.isKeyword "do" then body "done"
  else if token.isKeyword "\x7b" && (← dialect) = .bash then body "\x7d"
  else refuse token (some "\"do\"")

def eachHead : Reader (Bytes × List Word) := do
  let plain ← dialect
  let name ← match ← nested.token {} with
    | .word word =>
      match plain, Word.plain? word with
      | .dash, some name => if isName name then pure name else Reader.fail .badLoopVariable
      | .dash, none => Reader.fail .badLoopVariable
      | .bash, some name => pure name
      | .bash, none => pure word.source
    | other => if plain = .dash then Reader.fail .badLoopVariable else Reader.refuseWord other
  let token ← nested.token .commandBelow
  if token.isKeyword "in" then
    let (words, ended) ← nested.words nested.fuel []
    match ended with
    | .newline => return (name, words)
    | .sign ";" => return (name, words)
    | other => refuse other none
  else
    if !token.isSign ";" then Reader.giveBack token
    return (name, [if plain = .dash then allParams else allParamsFull])

def each (nested : Nested) (line : Nat) : Reader Statement := do
  let (name, words) ← nested.eachHead
  return .each line name words (← nested.loopBody .commandBelow)

/-! ## Sums in place of commands -/

/-- Reads a sum between two pairs of parentheses, the first one of which has been passed. Passes
nothing more if there is none. -/
def sum? : Reader (Option Word) := do
  let before ← get
  match before.rest with
  | '(' :: _ =>
    let read : Reader Word := do
      Reader.pass
      let inside ← get
      let body ← Reader.full (nested.list .optional) nested.fuel (.sum 0) []
      let written ← Reader.since inside
      return .written (written.take (written.length - 2)) :: body
    match read.run before with
    | .ok (body, after) =>
      set after
      return some body
    | .error flaw =>
      if flaw.cause = .unfinished then throw flaw
      else if flaw.cause = .unclosed then
        throw { flaw with cause := .unmatched ')', line := before.line }
      else return none
  | _ => return none

/-- Cuts a word at its unquoted semicolons. The running part comes last first. -/
def cutSum : Nat → List Piece → Word → List Word
  | 0, run, _ => [.ofReversed run]
  | _ + 1, run, [] => [.ofReversed run]
  | fuel + 1, run, .text quoted chars :: rest =>
    match chars.dropWhile (· ≠ ';') with
    | [] => cutSum fuel (.text quoted chars :: run) rest
    | _ :: more =>
      .ofReversed (.text quoted (chars.takeWhile (· ≠ ';')) :: run) ::
        cutSum fuel [] (.text quoted more :: rest)
  | fuel + 1, run, piece :: rest => cutSum fuel (piece :: run) rest

def count? (line : Nat) : Reader (Option Statement) := do
  Reader.skipBlanks nested.fuel
  let before ← get
  if !(['(', '('].isPrefixOf before.rest) then return none
  Reader.pass
  match ← nested.sum? with
  | none =>
    set before
    return none
  | some body =>
    match cutSum (body.source.length + body.length + 2) [] (body.drop 1) with
    | [start, condition, step] =>
      let token ← nested.token .command
      if !token.isSign ";" then Reader.giveBack token
      return some (.count line start condition step (← nested.loopBody .commandBelow))
    | _ => Reader.fail (.badCount body.source)

def patternOf : Token → Word
  | .word word => word
  | .keyword text => [.text false text.toList]
  | _ => []

def patterns (nested : Nested) : Nat → Token → Reader (List Word)
  | 0, _ => return []
  | fuel + 1, token => do
    let pattern ← match patternOf token, ← dialect with
      | [], .bash => match token with
        | .endOfFile => refuse token none
        | _ => Reader.refuseWord token
      | pattern, _ => pure pattern
    let after ← nested.token {}
    if after.isSign "|" then
      let following ← nested.token {}
      return pattern :: (← nested.patterns fuel following)
    else if after.isSign ")" then return [pattern]
    else if (← dialect) = .bash then Reader.refuseWord after
    else refuse after (some "\")\"")

def armEnd? : Token → Option ArmEnd
  | .sign ";;" => some .leaves
  | .sign ";&" => some .fallsThrough
  | .sign ";;&" => some .looksOn
  | _ => none

def arms (nested : Nested) : Nat → Reader (List (List Word × Statement × ArmEnd))
  | 0 => return []
  | fuel + 1 => do
    let wanted : Wanted := { lines := true, keywords := true }
    let token ← nested.token wanted
    if token.isKeyword "esac" then return []
    let first ← if token.isSign "(" then nested.token {} else pure token
    let patterns ← nested.patterns nested.fuel first
    let body ← nested.list .optional
    let ended ← nested.token wanted
    if ended.isKeyword "esac" then return [(patterns, body, .leaves)]
    else match armEnd? ended with
      | some kind => return (patterns, body, kind) :: (← nested.arms fuel)
      | none => refuse ended (some "\";;\"")

def select (nested : Nested) (line : Nat) : Reader Statement := do
  match ← nested.token {} with
  | .word word =>
    let source ← get
    let line := if source.dialect = .bash then source.line else line
    nested.expectKeyword "in" .commandBelow
    return .select line word (← nested.arms nested.fuel)
  | other => if (← dialect) = .bash then Reader.refuseWord other else refuse other (some "word")

/-! ## Conditions between double brackets -/

def unaryTests : List String :=
  ["-a", "-b", "-c", "-d", "-e", "-f", "-g", "-h", "-k", "-n", "-o", "-p", "-r", "-s", "-t", "-u",
    "-v", "-w", "-x", "-z", "-G", "-L", "-N", "-O", "-R", "-S"]

def binaryTests : List String :=
  ["=", "==", "!=", "=~", "<", ">", "-eq", "-ne", "-lt", "-le", "-gt", "-ge", "-nt", "-ot", "-ef"]

def tokenText (token : Token) : Reader Bytes := do
  match token with
  | .endOfFile => return "newline".toList
  | .newline => return "newline".toList
  | _ =>
    let source ← get
    return (source.rest.take 0) ++ (match token with
      | .word word => word.source
      | .setting _ written => written
      | .sign text => text.toList
      | .keyword text => text.toList
      | .redirect _ .input _ _ => ['<']
      | .redirect _ .output _ _ => ['>']
      | _ => [])

def testWord? : Token → Option Word
  | .word word => some word
  | _ => none

def plainText? (token : Token) : Option String :=
  match token with
  | .word word => (Word.plain? word).map String.ofList
  | .redirect none .input _ _ => some "<"
  | .redirect none .output _ _ => some ">"
  | _ => none

def isTestEnd (token : Token) : Bool :=
  plainText? token = some "]]" || token.isSign "&&" || token.isSign "||" || token.isSign ")"

def badTest {α : Type} (told : List String) : Reader α :=
  Reader.fail (.badTest (told.map String.toList))

def testOperand (kind : String) (token : Token) : Reader Word := do
  match token with
  | .word word =>
    if Word.plain? word ≠ some [']', ']'] then return word
  | _ => pure ()
  let text ← tokenText token
  if token.isSign ";" then pure () else
    let _ ← nested.token {}
  badTest ["unexpected argument \x60" ++ String.ofList text ++ "' to conditional " ++ kind ++ " operator"]

def testRight (operator : String) : Reader Word := do
  let before := (← get).groups
  if ["=", "==", "!="].contains operator then
    modify fun source => { source with groups := true }
  let token ← if operator = "=~" then
      Reader.lex (nested.list .optional) nested.fuel (.expression 0) false
    else nested.token {}
  modify fun source => { source with groups := before }
  nested.testOperand "binary" token

def insideParens (body : Reader Test) : Reader Test := fun source =>
  match body source with
  | .error flaw =>
    match flaw.cause with
    | .badTest told => .error { flaw with cause := .badTest (told ++ ["expected \x60)'".toList]) }
    | _ => .error flaw
  | read => read

mutual

/-- A condition whose parts are joined by `||`, of fewer than `fuel` tokens. -/
def testEither (nested : Nested) : Nat → Reader Test
  | 0 => badTest []
  | fuel + 1 => do
    let first ← nested.testBoth fuel
    let token ← nested.token { lines := true }
    if token.isSign "||" then return .either first (← nested.testEither fuel)
    Reader.giveBack token
    return first

def testBoth (nested : Nested) : Nat → Reader Test
  | 0 => badTest []
  | fuel + 1 => do
    let first ← nested.testTerm fuel
    let token ← nested.token { lines := true }
    if token.isSign "&&" then return .both first (← nested.testBoth fuel)
    Reader.giveBack token
    return first

def testTerm (nested : Nested) : Nat → Reader Test
  | 0 => badTest []
  | fuel + 1 => do
    let token ← nested.token { lines := true }
    let text := plainText? token
    if token.isSign "(" then
      let inside ← insideParens (nested.testEither fuel)
      let close ← nested.token { lines := true }
      if !close.isSign ")" then
        let text := String.ofList (← tokenText close)
        badTest ["unexpected token \x60" ++ text ++ "', expected \x60)'"]
      return .group inside
    else if text = some "!" then return .not (← nested.testTerm fuel)
    else if text.any unaryTests.contains then
      return .unary (text.getD "").toList (← nested.testOperand "unary" (← nested.token {}))
    else if text = some "]]" then badTest []
    else match testWord? token with
      | none =>
        let text := String.ofList (← tokenText token)
        badTest ["unexpected token \x60" ++ text ++ "' in conditional command"]
      | some left =>
        let after ← nested.token {}
        match plainText? after with
        | some operator =>
          if binaryTests.contains operator then
            return .binary operator.toList left (← nested.testRight operator)
          else if operator = "]]" then
            Reader.giveBack after
            return .unary ['-', 'n'] left
          else badTest ["conditional binary operator expected"]
        | none =>
          if isTestEnd after then
            Reader.giveBack after
            return .unary ['-', 'n'] left
          else match after with
            | .word _ => badTest ["conditional binary operator expected"]
            | _ =>
              let text := String.ofList (← tokenText after)
              badTest ["unexpected token \x60" ++ text ++ "', conditional binary operator expected"]

end

def test (nested : Nested) (line : Nat) : Reader Statement := do
  let body ← nested.testEither nested.fuel
  let close ← nested.token { lines := true }
  if plainText? close ≠ some "]]" then
    let wrong := "syntax error in conditional expression"
    match close with
    | .endOfFile => Reader.fail .openTest
    | .word _ => badTest [wrong]
    | _ => badTest [wrong ++ ": unexpected token \x60" ++ String.ofList (← tokenText close) ++ "'"]
  return .test line body

/-! ## Simple commands -/

structure Simple where
  settings : List Setting := []
  words : List Word := []
  redirects : List Redirect := []
  /-- The line in which its second part ends, which is where the richer shell says it is. -/
  line : Option Nat := none

def Simple.size (read : Simple) : Nat :=
  read.settings.length + read.words.length + read.redirects.length

def declarationNames : List String := ["declare", "typeset", "local", "export", "readonly", "alias"]

def Simple.declares (read : Simple) : Bool :=
  match read.words.getLast? with
  | some word => (Word.plain? word).any fun text => declarationNames.contains (String.ofList text)
  | none => true

def simple (nested : Nested) : Nat → Simple → Reader (Simple × Option Bytes)
  | 0, read => return (read, none)
  | fuel + 1, read => do
    let before := (← get).line
    let token ← nested.token { aliases := read.words.isEmpty, settings := read.declares }
    let now := (← get).line
    let after := match token with
      | .newline => before
      | _ => now
    let read := if read.size = 1 && read.line.isNone then { read with line := some after } else read
    match token with
    | .word word =>
      match if read.words.isEmpty then Word.setting? word else none with
      | some setting => nested.simple fuel { read with settings := setting :: read.settings }
      | none => nested.simple fuel { read with words := word :: read.words }
    | .setting held written =>
      if read.words.isEmpty then nested.simple fuel { read with settings := held :: read.settings }
      else
        let word : Word := [.written written, .setting held]
        nested.simple fuel { read with words := word :: read.words }
    | .redirect fd way standard dropTabs =>
      let redirect ← nested.redirect fd way standard dropTabs
      nested.simple fuel { read with redirects := redirect :: read.redirects }
    | other =>
      match other.isSign "(", read with
      | true, ⟨[], [name], [], _⟩ =>
        let close ← nested.token {}
        if !close.isSign ")" then
          if (← dialect) = .bash then Reader.refuseWord close else refuse close (some "\")\"")
        match ← dialect, Word.plain? name with
        | .dash, some text =>
          if isName text && !specialNames.contains (String.ofList text) then
            return (read, some text)
          else Reader.fail .badFunctionName
        | .dash, none => Reader.fail .badFunctionName
        | .bash, some text => return (read, some text)
        | .bash, none => return (read, some name.source)
      | _, _ =>
        Reader.giveBack other
        return (read, none)

def line : Reader Nat := return (← get).line

def closed (nested : Nested) (line : Nat) (close : Token) (body : Statement) :
    Reader Statement := do
  let token ← nested.token {}
  if token.name ≠ close.name then refuse token (some close.name)
  finished nested line body
where
  finished (nested : Nested) (line : Nat) (body : Statement) : Reader Statement := do
    match body, ← nested.redirects nested.fuel with
    | _, [] => return body
    | .subshell line body _, redirects => return .subshell line body redirects
    | _, redirects => return .redirected line body redirects

/-- Refuses what is no form of its own, where the richer shell expects the body of a function. -/
def demandForm (nested : Nested) : Reader Unit := do
  if (← dialect) = .bash then
    let token ← nested.token .commandBelow
    match token with
    | .word _ => refuse token none
    | .setting .. => refuse token none
    | .redirect .. => refuse token none
    | _ => Reader.giveBack token

def functionName (nested : Nested) : Reader Bytes := do
  match ← nested.token {} with
  | .word word =>
    let token ← nested.token .command
    if token.isSign "(" then
      let close ← nested.token {}
      if !close.isSign ")" then refuse close none
    else Reader.giveBack token
    return (Word.plain? word).getD word.source
  | other => Reader.refuseWord other

def command (nested : Nested) : Nat → Wanted → Reader Statement
  | 0, _ => return .nothing
  | fuel + 1, wanted => do
    let start ← line
    match ← nested.token wanted with
    | .keyword "if" => nested.closed start (.keyword "fi") (← nested.choice nested.fuel)
    | .keyword "while" => nested.closed start (.keyword "done") (← nested.loop false)
    | .keyword "until" => nested.closed start (.keyword "done") (← nested.loop true)
    | .keyword "for" =>
      let counting ← if (← dialect) = .bash then nested.count? start else pure none
      match counting with
      | some loop => closed.finished nested start loop
      | none => closed.finished nested start (← nested.each start)
    | .keyword "case" => closed.finished nested start (← nested.select start)
    | .keyword "[[" => closed.finished nested start (← nested.test start)
    | .keyword "function" =>
      let name ← nested.functionName
      nested.demandForm
      return .define (← line) name (← nested.command fuel .commandBelow)
    | .keyword "\x7b" =>
      let body ← nested.list .block
      nested.closed start (.keyword "\x7d") (if (← dialect) = .bash then .group body else body)
    | .sign "(" =>
      let sum ← if (← dialect) = .bash then nested.sum? else pure none
      match sum with
      | some body => closed.finished nested start (.reckon start body)
      | none => nested.closed start (.sign ")") (.subshell start (← nested.list .block) [])
    | .word word => simpleFrom fuel (.word word)
    | .setting held written => simpleFrom fuel (.setting held written)
    | .redirect fd way standard dropTabs => simpleFrom fuel (.redirect fd way standard dropTabs)
    | other => refuse other none
where
  simpleFrom (fuel : Nat) (token : Token) : Reader Statement := do
    Reader.giveBack token
    let start ← line
    match ← nested.simple nested.fuel {} with
    | (_, some name) =>
      let defined ← line
      nested.demandForm
      return .define defined name (← nested.command fuel .commandBelow)
    | (read, none) =>
      let start := if (← dialect) = .bash then read.line.getD start else start
      return .simple start read.settings.reverse read.words.reverse read.redirects.reverse

def withMessages (line : Nat) (part : Statement) : Statement :=
  let merge := Redirect.mk (.number 2) .copy [.text false ['1']]
  match part with
  | .simple line settings words redirects => .simple line settings words (redirects ++ [merge])
  | .subshell line body redirects => .subshell line body (redirects ++ [merge])
  | .redirected line body redirects => .redirected line body (redirects ++ [merge])
  | _ => .redirected line part [merge]

def parts (nested : Nested) : Nat → Wanted → Reader (List Statement)
  | 0, _ => return []
  | fuel + 1, wanted => do
    let start ← line
    let part ← nested.command nested.fuel wanted
    let token ← nested.token {}
    if token.isSign "|" then return part :: (← nested.parts fuel .commandBelow)
    else if token.isSign "|&" then
      return withMessages start part :: (← nested.parts fuel .commandBelow)
    else
      Reader.giveBack token
      return [part]

/-- What stands in front of a pipeline: whether its success counts as failure, and whether it is
timed, in the portable manner or not. -/
def lead (nested : Nested) : Nat → Wanted → Reader (Bool × Option Bool × Bool)
  | 0, _ => return (false, none, false)
  | fuel + 1, wanted => do
    let token ← nested.token wanted
    if token.isKeyword "!" then
      if (← dialect) = .dash then return (true, none, true)
      let (negated, timed, _) ← nested.lead fuel .command
      return (!negated, timed, true)
    else if token.isKeyword "time" then
      let option ← nested.token .command
      let isPlain := plainText? option = some "-p"
      if !isPlain then Reader.giveBack option
      let (negated, timed, _) ← nested.lead fuel .command
      return (negated, some (timed.getD false || isPlain), true)
    else
      Reader.giveBack token
      return (false, none, false)

def pipeline (nested : Nested) (wanted : Wanted) : Reader Statement := do
  let (negated, timed, passed) ← nested.lead nested.fuel wanted
  let isEmpty ← if timed.isSome || (negated && (← dialect) = .bash) then do
      let token ← nested.token .command
      Reader.giveBack token
      pure (match token with
        | .newline => true
        | .endOfFile => true
        | .sign ";" => true
        | _ => false)
    else pure false
  let body ← if isEmpty then pure .nothing else do
    let parts ← nested.parts nested.fuel (if passed then .command else {})
    pure (match parts with
      | [part] => part
      | _ => .pipeline parts)
  let body := match timed with
    | some plain => .timed plain body
    | none => body
  return if negated then .negated body else body

def chain (nested : Nested) : Nat → Statement → Reader Statement
  | 0, first => return first
  | fuel + 1, first => do
    let token ← nested.token {}
    if token.isSign "&&" then nested.chain fuel (.both first (← nested.pipeline .commandBelow))
    else if token.isSign "||" then nested.chain fuel (.either first (← nested.pipeline .commandBelow))
    else
      Reader.giveBack token
      return first

def row (nested : Nested) (kind : ListKind) : Nat → Bool → Statement → Reader Statement
  | 0, _, done => return done
  | fuel + 1, mayEnd, done => do
    let token ← nested.token { Wanted.command with lines := kind ≠ .line }
    match token with
    | .newline =>
      nested.endLine
      return done
    | .endOfFile =>
      nested.endLine
      Reader.giveBack token
      return done
    | _ =>
      Reader.giveBack token
      if mayEnd && token.endsList then return done
      let start ← line
      let first ← nested.chain nested.fuel (← nested.pipeline {})
      let mayEnd := kind ≠ .line
      match ← nested.token {} with
      | .sign "&" => nested.row kind fuel mayEnd (done.then (.background start first))
      | .sign ";" => nested.row kind fuel mayEnd (done.then first)
      | .newline =>
        Reader.giveBack .newline
        nested.row kind fuel mayEnd (done.then first)
      | .endOfFile =>
        nested.endLine
        Reader.giveBack .endOfFile
        return done.then first
      | other =>
        if kind = .line then refuse other none
        Reader.giveBack other
        return done.then first

/-- Reads a list in a script of fewer than `fuel` characters, nested at most `depth` deep. -/
def listWithin (fuel : Nat) : Nat → ListKind → Reader Statement
  | 0, _ => return .nothing
  | depth + 1, kind =>
    ({ list := listWithin fuel depth, fuel } : Nested).row kind fuel (kind = .optional) .nothing

end Nested

/-- Reads the next line of statements, with its end and the texts below it. A flaw leaves the
rest unread. -/
def Source.line? (source : Source) : Except Flaw (Statement × Source) := do
  let size := (source.aliases.map (·.text.length)).foldl (· + ·) 0
  let fuel := (source.rest.length + 2) * (size + 1)
  let (statement, after) ← (Nested.listWithin fuel fuel .line).run source
  if after.texts.isEmpty then return (statement, after)
  return (statement.fill after.texts, { after with texts := [] })

def Source.atEnd (source : Source) : Bool :=
  match source.held with
  | some .endOfFile => true
  | _ => false

end Retrace.Shell
