import Retrace.Shell.Real
import Retrace.Unix.Bytes

/-!
# Tokens of scripts

A script in tokens, each with the line it is on. A bracket without its partner is a
flaw where that shows: at the end of a line or before a closing brace.
-/

namespace Retrace.Tool.Awk

open Unix

inductive Token where
  | number (value : Float)
  | text (value : Bytes)
  | regex (source : Bytes)
  | name (text : Bytes)
  | function (text : Bytes)
  | keyword (text : String)
  | builtin (text : String)
  | sign (text : String)
  | newline
  | finish
  | flaw (message : Bytes)

namespace Token

def shown : Token → Bytes → Bytes
  | .newline, _ => "end of line"
  | .finish, _ => "end of file"
  | _, written => written

def isOperand : Token → Bool
  | .number _ => true
  | .text _ => true
  | .name _ => true
  | .builtin _ => true
  | .sign ")" => true
  | .sign "]" => true
  | .sign "$" => false
  | .sign "++" => true
  | .sign "--" => true
  | _ => false

end Token

structure Lexeme where
  token : Token
  line : Nat
  written : Bytes := []

def keywords : List String :=
  ["BEGIN", "END", "function", "func", "if", "else", "while", "for", "do", "break", "continue", "next",
    "nextfile", "exit", "return", "delete", "in", "getline", "print", "printf"]

def builtins : List String :=
  ["length", "substr", "index", "split", "sub", "gsub", "match", "sprintf", "sin", "cos", "atan2", "exp",
    "log", "sqrt", "int", "rand", "srand", "tolower", "toupper", "system", "close", "fflush", "systime",
    "strftime", "mktime"]

def signs : List String :=
  ["**=", "**", "+=", "-=", "*=", "/=", "%=", "^=", "==", "<=", ">=", "!=", "&&", "||", "++", "--", ">>",
    "!~", "\x7b", "\x7d", "(", ")", "[", "]", ";", ",", "+", "-", "*", "/", "%", "^", "!", "<", ">", "|",
    "?", ":", "~", "$", "="]

def isNameStart (c : Char) : Bool := c.isAlpha || c = '_'
def isNameChar (c : Char) : Bool := c.isAlphanum || c = '_'

def isOctalDigit (c : Char) : Bool := '0' ≤ c && c ≤ '7'

def hexDigit? (c : Char) : Option Nat :=
  if c.isDigit then some (c.toNat - 48)
  else if 'a' ≤ c && c ≤ 'f' then some (c.toNat - 87)
  else if 'A' ≤ c && c ≤ 'F' then some (c.toNat - 55)
  else none

/-- What an escape stands for, and what follows it. The backslash has been read; one that means
nothing stays. -/
def escapeAt (text : Bytes) : Bytes × Bytes :=
  match text with
  | [] => (['\\'], [])
  | c :: rest =>
    match c with
    | '"' => (['"'], rest)
    | '\\' => (['\\'], rest)
    | 'n' => (['\n'], rest)
    | 't' => (['\t'], rest)
    | 'r' => (['\r'], rest)
    | 'f' => (['\x0c'], rest)
    | 'v' => (['\x0b'], rest)
    | 'a' => (['\x07'], rest)
    | 'b' => (['\x08'], rest)
    | _ =>
      if isOctalDigit c then
        let digits := (text.take 3).takeWhile isOctalDigit
        ([Char.ofNat (digits.foldl (fun n d => n * 8 + (d.toNat - 48)) 0 % 256)], text.drop digits.length)
      else if c = 'x' then
        let digits := (rest.take 2).takeWhile fun d => (hexDigit? d).isSome
        if digits.isEmpty then (['\\', 'x'], rest)
        else ([Char.ofNat (digits.foldl (fun n d => n * 16 + (hexDigit? d).getD 0) 0)], rest.drop digits.length)
      else (['\\', c], rest)

def unescaped : Nat → Bytes → Bytes
  | 0, _ => []
  | _, [] => []
  | fuel + 1, '\\' :: rest =>
    let (meant, rest) := escapeAt rest
    meant ++ unescaped fuel rest
  | fuel + 1, c :: rest => c :: unescaped fuel rest

/-- The text up to a quote that no backslash stands before, as it is written, and what follows. -/
def upToQuote (mark : Char) : Bytes → Option (Bytes × Bytes)
  | [] => none
  | '\n' :: _ => none
  | '\\' :: '\n' :: rest => upToQuote mark rest
  | '\\' :: c :: rest => (upToQuote mark rest).map fun (text, after) => ('\\' :: c :: text, after)
  | c :: rest =>
    if c = mark then some ([], rest) else (upToQuote mark rest).map fun (text, after) => (c :: text, after)

/-- The same for an expression, where a slash between square brackets is plain. -/
def upToSlash : Bool → Bytes → Option (Bytes × Bytes)
  | _, [] => none
  | _, '\n' :: _ => none
  | inside, '\\' :: c :: rest =>
    (upToSlash inside rest).map fun (text, after) =>
      (if c = '/' then c :: text else '\\' :: c :: text, after)
  | inside, c :: rest =>
    if c = '/' && !inside then some ([], rest)
    else
      let inside := if c = '[' then true else if c = ']' then false else inside
      (upToSlash inside rest).map fun (text, after) => (c :: text, after)

structure Lexer where
  line : Nat := 1
  (parens braces : Nat := 0)
  functions : List Bytes := []
  previous : Token := .newline

namespace Lexer

/-- What is skipped before a token: blanks, comments, and ends of lines that a backslash stands
before. -/
def skip : Nat → Nat → Bytes → Nat × Bytes
  | 0, line, text => (line, text)
  | fuel + 1, line, text =>
    match text with
    | ' ' :: rest => skip fuel line rest
    | '\t' :: rest => skip fuel line rest
    | '\r' :: rest => skip fuel line rest
    | '\x0c' :: rest => skip fuel line rest
    | '\\' :: '\n' :: rest => skip fuel (line + 1) rest
    | '#' :: rest => skip fuel line (rest.dropWhile (· ≠ '\n'))
    | _ => (line, text)

def skipLines : Nat → Nat → Bytes → Nat × Bytes
  | 0, line, text => (line, text)
  | fuel + 1, line, text =>
    let (line, text) := skip (text.length + 1) line text
    match text with
    | '\n' :: rest => skipLines fuel (line + 1) rest
    | _ => (line, text)

def joinsLines : Token → Bool
  | .newline => true
  | .sign text => ["\x7b", "\x7d", "&&", "||", ",", ";"].contains text
  | .keyword text => text = "do" || text = "else"
  | _ => false

def token (lexer : Lexer) (text : Bytes) : Token × Bytes × Bytes :=
  match text with
  | [] =>
    if lexer.braces ≠ 0 then (.flaw "missing \x7d near end of file", [], [])
    else (.finish, [], [])
  | '\n' :: rest =>
    if lexer.parens ≠ 0 then (.flaw "missing ) near end of line", [], rest)
    else (.newline, ['\n'], rest)
  | '"' :: rest =>
    match upToQuote '"' rest with
    | some (raw, after) => (.text (unescaped (raw.length + 1) raw), '"' :: raw ++ ['"'], after)
    | none =>
      let shown := (rest.takeWhile (· ≠ '\n')).take 10
      (.flaw ("runaway string constant \"" ++ shown ++ " ..."), [], [])
  | c :: rest =>
    if c = '/' && !lexer.previous.isOperand then
      match upToSlash false rest with
      | some (source, after) => (.regex source, '/' :: source ++ ['/'], after)
      | none =>
        let shown := (rest.takeWhile (· ≠ '\n')).take 10
        (.flaw ("runaway regular expression /" ++ shown ++ " ..."), [], [])
    else if c.isDigit || (c = '.' && (rest.head?).any Char.isDigit) then
      match Shell.Real.scanDecimal text with
      | some (value, after) => (.number value, text.take (text.length - after.length), after)
      | none => (.flaw ("syntax error in decimal constant " ++ [c]), [c], rest)
    else if isNameStart c then
      let name := text.takeWhile isNameChar
      let after := text.drop name.length
      let word := String.ofList name
      if keywords.contains word then (.keyword (if word = "func" then "function" else word), name, after)
      else if builtins.contains word then (.builtin word, name, after)
      else if after.head? = some '(' || lexer.functions.contains name then (.function name, name, after)
      else (.name name, name, after)
    else
      match signs.find? fun sign => sign.toList.isPrefixOf text with
      | none =>
        (.flaw ("unexpected character '" ++ [c, '\'']), [c], rest)
      | some sign =>
        let after := text.drop sign.length
        if sign = ")" && lexer.parens = 0 then (.flaw "extra ')'", [c], after)
        else if sign = "\x7d" && lexer.braces = 0 then (.flaw "extra '\x7d'", [c], after)
        else if sign = "\x7d" && lexer.parens ≠ 0 then (.flaw "missing ) near \x7d", [c], after)
        else
          let plain := if sign = "**" then "^" else if sign = "**=" then "^=" else sign
          (.sign plain, sign.toList, after)

def after (lexer : Lexer) (token : Token) : Lexer :=
  let lexer := match lexer.previous, token with
    | .keyword "function", .function name => { lexer with functions := name :: lexer.functions }
    | .keyword "function", .name name => { lexer with functions := name :: lexer.functions }
    | _, _ => lexer
  let lexer := match token with
    | .sign "(" => { lexer with parens := lexer.parens + 1 }
    | .sign ")" => { lexer with parens := lexer.parens - 1 }
    | .sign "\x7b" => { lexer with braces := lexer.braces + 1 }
    | .sign "\x7d" => { lexer with braces := lexer.braces - 1 }
    | .newline => { lexer with line := lexer.line + 1 }
    | _ => lexer
  { lexer with previous := token }

end Lexer

def lexemesFrom : Nat → Lexer → Bytes → List Lexeme
  | 0, _, _ => []
  | fuel + 1, lexer, text =>
    let (line, text) := Lexer.skip (text.length + 1) lexer.line text
    let lexer := { lexer with line }
    let (token, written, rest) := lexer.token text
    let lexeme : Lexeme := { token, line, written }
    match token with
    | .finish => [lexeme]
    | .flaw _ => [lexeme]
    | _ =>
      let lexer := lexer.after token
      if Lexer.joinsLines token then
        let (line, rest) := Lexer.skipLines (rest.length + 1) lexer.line rest
        let (line, rest) := match token, rest with
          | .sign "\x7d", ';' :: more => Lexer.skipLines (more.length + 1) line more
          | _, _ => (line, rest)
        lexeme :: lexemesFrom fuel { lexer with line } rest
      else lexeme :: lexemesFrom fuel lexer rest

def lexemes (text : Bytes) : List Lexeme :=
  lexemesFrom (text.length + 3) {} (text ++ ['\n'])

end Retrace.Tool.Awk
