import Retrace.Shell.Word.Full

/-!
# Reading tokens

Words, operators and line ends. What is reserved and what is an alias depends on
the place, so a reader says what it wants. A text that a command is given from below
is read where the line of the command ends.
-/

namespace Retrace.Shell

open Text

structure Wanted where
  (lines keywords aliases : Bool := false)
  /-- Words that set a variable are told apart by the richer shell. -/
  settings : Bool := false

def Wanted.command : Wanted := { keywords := true, aliases := true, settings := true }

def Wanted.commandBelow : Wanted := { Wanted.command with lines := true }

def keywords : List String :=
  ["!", "case", "do", "done", "elif", "else", "esac", "fi", "for", "if", "in", "then", "until",
    "while", "\x7b", "\x7d"]

def furtherKeywords : List String := ["[[", "function", "time"]

def isKeyword (dialect : Dialect) (text : String) : Bool :=
  keywords.contains text || (dialect = .bash && furtherKeywords.contains text)

namespace Reader

def giveBack (token : Token) : Reader Unit :=
  modify fun source => { source with held := some token }

def skipBlanks : Nat → Reader Unit
  | 0 => return
  | fuel + 1 => do
    match ← next with
    | some c =>
      if c = ' ' || c = '\t' then
        pass
        skipBlanks fuel
      else if c = '#' then
        modify fun source => { source with rest := source.rest.dropWhile (· ≠ '\n') }
        skipBlanks fuel
    | none => return

def signOf (c : Char) (more : String) : Reader Token := do
  pass
  if ← passes c then return .sign more
  return .sign (String.singleton c)

def redirection (fd : Option Descriptor) : Reader Token := do
  let c ← next
  pass
  if c = some '>' then
    if ← passes '>' then return .redirect fd .append 1 false
    else if ← passes '|' then return .redirect fd .clobber 1 false
    else if ← passes '&' then return .redirect fd .copy 1 false
    else return .redirect fd .output 1 false
  else
    if ← passes '<' then return .redirect fd .here 0 (← passes '-')
    else if ← passes '&' then return .redirect fd .copy 0 false
    else if ← passes '>' then return .redirect fd .readWrite 0 false
    else return .redirect fd .input 0 false

variable (list : Reader Statement)

def lexShared (fuel : Nat) (context : Context) : Reader Token := do
  match ← next with
  | none => return .endOfFile
  | some '\n' => pass; return .newline
  | some '&' => signOf '&' "&&"
  | some '|' => signOf '|' "||"
  | some ';' => signOf ';' ";;"
  | some '(' => pass; return .sign "("
  | some ')' => pass; return .sign ")"
  | some _ =>
    let word ← pieces list fuel context []
    let bracket := (← next).any fun c => c = '<' || c = '>'
    match Word.plain? word, bracket with
    | some [], true => redirection none
    | some [c], true =>
      if c.isDigit then redirection (some (.number (digitValue c))) else return .word word
    | _, _ => return .word word

/-! ## Tokens of the richer shell -/

/-- What a word that sets a variable begins with, up to its value: the name, the index, and
whether it adds. Nothing is passed if the word does not set one. -/
def settingStart (pieces : Pieces) (fuel : Nat) : Reader (Option (Bytes × Index × Bool)) := do
  let before ← get
  if !(← next).any isNameStart then return none
  let name ← passWhile isNameChar fuel
  let index ← referenceIndex pieces name
  if ← passes '=' then return some (name, index, false)
  match ← ahead with
  | '+' :: '=' :: _ =>
    pass
    pass
    return some (name, index, true)
  | _ =>
    set before
    return none

def rowElement (pieces : Pieces) : Reader Word := do
  let before ← get
  let plain : Reader Word := do
    set before
    let word ← pieces .word
    return .written (← since before) :: word
  if (← next) ≠ some '[' then plain
  else
    pass
    let inside ← get
    let body ← closedBy ']' (pieces (.index 0))
    let index := Index.place (← since inside).dropLast body
    let valued (adds : Bool) : Reader Word := do
      let value ← pieces .word
      return [.written (← since before), .setting (.mk [] index adds value)]
    if ← passes '=' then valued false
    else match ← ahead with
      | '+' :: '=' :: _ =>
        pass
        pass
        valued true
      | _ => plain

def rowElements (pieces : Pieces) : Nat → List Word → Reader (List Word)
  | 0, read => return read.reverse
  | fuel + 1, read => do
    skipBlanks fuel
    match ← next with
    | none => fail .unclosed
    | some c =>
      if c = '\n' then
        pass
        rowElements pieces fuel read
      else if c = ')' then
        pass
        return read.reverse
      else
        modify fun source => { source with begun := source.rest.length }
        if endsWord c && c ≠ '<' && c ≠ '>' then
          pass
          fail (.unexpected "word" none)
        let element ← rowElement pieces
        rowElements pieces fuel (element :: read)

def settingValue (pieces : Pieces) (fuel : Nat) : Reader Word := do
  if (← next) = some '(' then
    pass
    return [.row (← inRow (closedBy ')' (rowElements pieces fuel [])))]
  else
    let before ← get
    let word ← pieces .word
    return .written (← since before) :: word

def fullRedirection (fd : Option Descriptor) : Reader Token := do
  match ← ahead with
  | '<' :: '<' :: '<' :: _ =>
    pass
    pass
    pass
    return .redirect fd .text 0 false
  | _ => redirection fd

/-- What a word in front of an angle bracket says about the descriptor, if it is about one. -/
def descriptor? (text : Bytes) : Option Descriptor :=
  if !text.isEmpty && text.all Char.isDigit then some (.number (digitsValue text))
  else match text with
    | '\x7b' :: rest =>
      if rest.getLast? = some '\x7d' && isName rest.dropLast then some (.named rest.dropLast) else none
    | _ => none

def fullSign? (text : Bytes) : Option String :=
  [";;&", ";;", ";&", ";", "&&", "&", "||", "|&", "|", "(", ")"].find? fun sign =>
    sign.toList.isPrefixOf text

def passAll : Nat → Reader Unit
  | 0 => return
  | count + 1 => do
    pass
    passAll count

def lexFull (fuel : Nat) (context : Context) (settings : Bool) :
    Reader Token := do
  let pieces : Pieces := fun context => full list fuel context []
  unjoin
  match ← ahead with
  | [] => return .endOfFile
  | '\n' :: _ => pass; return .newline
  | '&' :: '>' :: '>' :: _ =>
    passAll 3
    return .redirect none .appendBoth 1 false
  | '&' :: '>' :: _ =>
    passAll 2
    return .redirect none .outputBoth 1 false
  | c :: after =>
    let sign := match context with
      | .expression _ => if c = '(' || c = '|' then none else fullSign? (c :: after)
      | _ => fullSign? (c :: after)
    match sign with
    | some sign =>
      passAll sign.length
      return .sign sign
    | none =>
      let isBracket := fun c : Char => c = '<' || c = '>'
      if isBracket c && after.head? ≠ some '(' then fullRedirection none
      else
        let before ← get
        let start ← if settings then settingStart pieces fuel else pure none
        match start with
        | some (name, index, adds) =>
          let value ← settingValue pieces fuel
          return .setting (.mk name index adds value) (← since before)
        | none =>
          let word ← pieces context
          let isNext := (← next).any isBracket
          match if isNext then (Word.plain? word).bind descriptor? else none with
          | some fd => fullRedirection (some fd)
          | none => return .word (.written (← since before) :: word)

def lex (fuel : Nat) (context : Context) (settings : Bool) :
    Reader Token := do
  skipBlanks fuel
  modify fun source => { source with begun := source.rest.length }
  match (← get).dialect with
  | .dash => lexShared list fuel context
  | .bash => lexFull list fuel context settings

/-- Whether the text of an alias that ends with a blank has just been read to its end, from a
place with so much of the script left. -/
def afterBlankAlias (before : Nat) : Reader Bool := do
  let source ← get
  let left := source.rest.length
  return source.active.any fun (used, after) =>
    after < before && left ≤ after && used.text.getLast?.any fun c => c = ' ' || c = '\t'

def alias? (text : Bytes) : Reader (Option Alias) := do
  let source ← get
  match source.aliases.find? (·.name = text) with
  | none => return none
  | some found =>
    let left := source.rest.length
    let inUse := source.active.any fun (used, after) => used.name = text && after ≤ left
    return if inUse then none else some found

def useAlias (found : Alias) : Reader Unit :=
  modify fun source =>
    let left := source.rest.length
    { source with
      rest := found.text ++ source.rest
      active := (found, left) :: source.active.filter fun (_, after) => after ≤ left }

def plainText : Nat → Bytes → Reader Bytes
  | 0, read => return read.reverse
  | fuel + 1, read => do
    match ← ahead with
    | [] => return read.reverse
    | c :: _ =>
      pass
      plainText fuel (c :: read)

def endedEarly (text : Below) : Bytes :=
  "warning: here-document at line ".toList ++ decimal text.line ++
    " delimited by end-of-file (wanted \x60".toList ++ text.delimiter ++ ['\'', ')']

def textBelow (fuel : Nat) (text : Below) : Reader Word := do
  if !text.plain then unjoin
  modify fun source => { source with reading := some text, stopped := false }
  startLine
  let word ← if text.plain then do pure [.text true (← plainText fuel [])]
    else match (← get).dialect with
      | .dash => pieces list fuel .here []
      | .bash => full list fuel .here []
  let isEarly := !(← get).stopped && (← get).dialect = .bash
  modify fun source =>
    let notices := if isEarly then source.notices ++ [(source.line, endedEarly text)]
      else source.notices
    { source with reading := none, stopped := false, notices }
  return .mark :: if isEarly then Word.withLineEnd word else word

def textsBelow (list : Reader Statement) (fuel : Nat) : List Below → Reader Unit
  | [] => return
  | text :: rest => do
    let word ← textBelow list fuel text
    modify fun source => { source with texts := (text.id, word) :: source.texts }
    textsBelow list fuel rest

def endLine (fuel : Nat) : Reader Unit := do
  let awaited := (← get).awaited.reverse
  modify fun source => { source with awaited := [] }
  textsBelow list fuel awaited

def awaitText (delimiter : Word) (dropTabs : Bool) : Reader Word := do
  let source ← get
  let text : Below :=
    { id := source.fresh, delimiter := delimiter.chars, dropTabs, plain := delimiter.isQuoted
      line := source.line }
  set { source with awaited := text :: source.awaited, fresh := source.fresh + 1 }
  return [.given text.id]

def token (list : Reader Statement) (length : Nat) (wanted : Wanted) : Nat → Reader Token
  | 0 => return .endOfFile
  | fuel + 1 => do
    let source ← get
    let eligible ← do
      match source.held with
      | some _ => pure wanted.aliases
      | none =>
        if source.active.isEmpty then pure wanted.aliases
        else
          let before := source.rest.length
          skipBlanks length
          pure (wanted.aliases || (← afterBlankAlias before))
    let found ← match source.held with
      | some held => do
        modify fun source => { source with held := none }
        pure held
      | none => lex list length .word wanted.settings
    match found with
    | .newline =>
      if wanted.lines then
        endLine list length
        token list length wanted fuel
      else return found
    | .word word =>
      match Word.plain? word with
      | none => return found
      | some text =>
        let name := String.ofList text
        if wanted.keywords && isKeyword source.dialect name then return .keyword name
        else if eligible then
          match ← alias? text with
          | some found =>
            useAlias found
            token list length wanted fuel
          | none => return found
        else return found
    | _ => return found

/-- Refuses a token where a word is expected. To the richer shell the end of a script is the end of
a line. -/
def refuseWord {α : Type} (token : Token) : Reader α := do
  match token, (← get).dialect with
  | .endOfFile, .bash => fail (.unexpected Token.newline.name none)
  | _, _ => fail (.unexpected token.name none)

def redirect (fuel : Nat) (fd : Option Descriptor) (way : Way)
    (standard : Nat) (dropTabs : Bool) : Reader Redirect := do
  let target ← if way = .here then lex list fuel .delimiter false else token list fuel {} fuel
  match target with
  | .word word =>
    let word ← if way = .here then awaitText word dropTabs else pure word
    return .mk (fd.getD (.number standard)) way word
  | other => refuseWord other

end Reader
end Retrace.Shell
