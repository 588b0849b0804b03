import Retrace.Shell.Syntax
import Retrace.Text.Numeral

/-!
# Statements as text

How the richer shell shows a statement: inside a function every statement has a row of its
own, and elsewhere they stand one after the other. Words are shown as they were written.
-/

namespace Retrace.Shell

open Unix

namespace Word

def shown (word : Word) : Bytes :=
  match word with
  | .written chars :: _ => chars
  | _ => word.chars

end Word

def Setting.shown : Setting → Bytes
  | .mk name index adds value =>
    let text := match value with
      | [.row elements] => '(' :: joined ' ' (elements.map Word.shown) ++ [')']
      | _ => Word.shown value
    name ++ index.shown ++ (if adds then ['+', '='] else ['=']) ++ text

def Descriptor.shown (standard : Option Nat) : Descriptor → Bytes
  | .number fd => if standard = some fd then [] else Text.decimal fd
  | .named name => '\x7b' :: name ++ ['\x7d']

def Redirect.shown : Redirect → Bytes
  | .mk fd way target =>
    let text := Word.shown target
    let sign := fun (standard : Option Nat) (sign : String) =>
      fd.shown standard ++ ofString sign ++ text
    match way with
    | .input => sign (some 0) "< "
    | .output => sign (some 1) "> "
    | .clobber => sign (some 1) ">| "
    | .append => sign (some 1) ">> "
    | .readWrite => sign none "<> "
    | .copy => sign none (if fd = .number 0 then "<&" else ">&")
    | .here => sign (some 0) "<<"
    | .text => sign (some 0) "<<< "
    | .outputBoth => "&> " ++ text
    | .appendBoth => "&>> " ++ text

def Test.shown : Test → Bytes
  | .unary operator word => operator ++ ' ' :: Word.shown word
  | .binary operator left right => Word.shown left ++ ' ' :: operator ++ ' ' :: Word.shown right
  | .not body => '!' :: ' ' :: body.shown
  | .both first second => first.shown ++ " && " ++ second.shown
  | .either first second => first.shown ++ " || " ++ second.shown
  | .group body => "( " ++ body.shown ++ " )"

structure Layout where
  rows : Bool := false
  margin : Nat := 0
  /-- How many blanks more the rows inside a form begin with. -/
  step : Nat := 4

namespace Layout

def inside (layout : Layout) : Layout := { layout with margin := layout.margin + layout.step }

def pad (layout : Layout) : Bytes := List.replicate layout.margin ' '

def row (layout : Layout) (text : String) : Bytes := '\n' :: layout.pad ++ ofString text

end Layout

def ended (text : Bytes) : Bytes :=
  match text.getLast? with
  | some '&' => text
  | some '\n' => text
  | _ => text ++ [';']

def shownCommand (settings : List Setting) (words : List Word) (redirects : List Redirect) :
    Bytes :=
  joined ' ' (settings.map Setting.shown ++ words.map Word.shown ++ redirects.map Redirect.shown)

def shownRedirects (redirects : List Redirect) : Bytes :=
  redirects.flatMap fun redirect => ' ' :: redirect.shown

def Statement.isBackground : Statement → Bool
  | .background .. => true
  | .sequence _ second => second.isBackground
  | _ => false

def Statement.isBraced : Statement → Bool
  | .group _ => true
  | .redirected _ body _ => body.isBraced
  | _ => false

def braced (layout : Layout) (isBraced : Bool) (here inside : Bytes) : Bytes :=
  if isBraced then here
  else '\x7b' :: ' ' :: layout.inside.row "" ++ inside ++ layout.row "\x7d"

mutual

def Statement.shown (layout : Layout) : Statement → Bytes
  | .nothing => []
  | .simple _ settings words redirects => shownCommand settings words redirects
  | .negated body => '!' :: ' ' :: body.shown layout
  | .pipeline parts => shownParts layout parts
  | .both first second => first.shown layout ++ " && " ++ second.shown layout
  | .either first second => first.shown layout ++ " || " ++ second.shown layout
  | .sequence first second =>
    let isRow := layout.rows && !first.isBackground
    ended (first.shown layout) ++ (if isRow then layout.row "" else [' ']) ++ second.shown layout
  | .background _ body => body.shown layout ++ [' ', '&']
  | .subshell _ body redirects =>
    '(' :: ' ' :: body.shown layout ++ [' ', ')'] ++ shownRedirects redirects
  | .redirected _ body redirects => body.shown layout ++ shownRedirects redirects
  | .choice condition yes no =>
    "if " ++ ended (condition.shown layout) ++ " then\n" ++ layout.inside.pad ++
      ended (yes.shown layout.inside) ++
      (if no.isNothing then []
      else layout.row "else\n" ++ layout.inside.pad ++ ended (no.shown layout.inside)) ++
      layout.row "fi"
  | .loop untilTrue condition body =>
    ofString (if untilTrue then "until " else "while ") ++ ended (condition.shown layout) ++
      " do\n" ++ layout.inside.pad ++ ended (body.shown layout.inside) ++ layout.row "done"
  | .each _ name words body =>
    "for " ++ name ++ " in " ++ joined ' ' (words.map Word.shown) ++ [';'] ++
      layout.row "do\n" ++ layout.inside.pad ++ ended (body.shown layout.inside) ++ layout.row "done"
  | .select _ word arms =>
    "case " ++ Word.shown word ++ " in " ++ shownArms layout.inside arms ++
      layout.row "esac"
  | .define _ name body =>
    "function " ++ name ++ " () " ++ layout.row "" ++
      braced layout body.isBraced (body.shown layout) (body.shown layout.inside)
  | .group body =>
    if layout.rows then
      '\x7b' :: ' ' :: layout.inside.row "" ++ body.shown layout.inside ++ layout.row "\x7d"
    else '\x7b' :: ' ' :: ended (body.shown layout) ++ [' ', '\x7d']
  | .test _ body => "[[ " ++ body.shown ++ " ]]"
  | .reckon _ body => "((" ++ Word.shown body ++ "))"
  | .count _ start condition next body =>
    "for ((" ++ Word.shown start ++ "; " ++ Word.shown condition ++
      "; " ++ Word.shown next ++ "))" ++ layout.row "do\n" ++ layout.inside.pad ++
      ended (body.shown layout.inside) ++ layout.row "done"
  | .timed plain body =>
    ofString (if plain then "time -p " else "time ") ++ body.shown layout

def shownParts (layout : Layout) : List Statement → Bytes
  | [] => []
  | part :: rest =>
    part.shown layout ++ (if rest.isEmpty then [] else " | ") ++ shownParts layout rest

def shownArms (layout : Layout) : List (List (List Piece) × Statement × ArmEnd) → Bytes
  | [] => []
  | (patterns, body, ending) :: rest =>
    let sign := match ending with
      | .leaves => ";;"
      | .fallsThrough => ";&"
      | .looksOn => ";;&"
    layout.row "" ++ (ofString " | ").intercalate (patterns.map Word.shown) ++ ofString ")\n" ++
      layout.inside.pad ++ body.shown layout.inside ++ layout.row sign ++ shownArms layout rest

end

def shownFunction (name : Bytes) (body : Statement) : Bytes :=
  let layout : Layout := { rows := true }
  name ++ " () \n" ++
    braced layout body.isBraced (body.shown layout) (body.shown layout.inside)

def exportedFunction (body : Statement) : Bytes :=
  let inside : Layout := { rows := true, margin := 1, step := 0 }
  let text := match body with
    | .group body => body.shown inside
    | _ => body.shown inside
  "() \x7b  " ++ text ++ "\n\x7d"

end Retrace.Shell
