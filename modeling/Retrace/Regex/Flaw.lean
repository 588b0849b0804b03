import Retrace.Text.Lines

/-!
# What can be wrong with a regular expression

Causes with their wording, and the report that shows where in the expression the
flaw is: the stretch is underlined, and an expression of several lines is shown
with line numbers between two rules.
-/

namespace Retrace.Regex

/-- A stretch of the expression: the number of its first character and of the
character after its last. -/
structure Span where
  start : Nat
  stop : Nat
  deriving DecidableEq, Repr

def Span.char (start : Nat) : Span := ⟨start, start + 1⟩

def Span.place (start : Nat) : Span := ⟨start, start⟩

inductive Flaw.Cause where
  | classEscapeInvalid
  | classRangeInvalid
  | classRangeLiteral
  | classUnclosed
  | decimalEmpty
  | decimalInvalid
  | hexEmpty
  | hexInvalid
  | hexDigitInvalid
  | escapeCut
  | escapeUnrecognized
  | flagNegationDangling
  | flagDuplicate (first : Span)
  | flagNegationRepeated (first : Span)
  | flagCut
  | flagUnrecognized
  | nameDuplicate (first : Span)
  | nameEmpty
  | nameInvalid
  | nameCut
  | groupUnclosed
  | groupUnopened
  | nestLimit (limit : Nat)
  | countInvalid
  | countEmpty
  | countUnclosed
  | repetitionMissing
  | wordBoundaryUnclosed
  | wordBoundaryUnrecognized
  | wordBoundaryCut
  | propertyInvalid
  | backreference
  | lookAround
  | unicodeNotAllowed
  | invalidUtf8
  | propertyUnknown
  | propertyValueUnknown
  | perlClassUnknown
  | caseUnavailable
  deriving DecidableEq, Repr

namespace Flaw.Cause

def message : Cause → String
  | .classEscapeInvalid => "invalid escape sequence found in character class"
  | .classRangeInvalid => "invalid character class range, the start must be <= the end"
  | .classRangeLiteral => "invalid range boundary, must be a literal"
  | .classUnclosed => "unclosed character class"
  | .decimalEmpty => "decimal literal empty"
  | .decimalInvalid => "decimal literal invalid"
  | .hexEmpty => "hexadecimal literal empty"
  | .hexInvalid => "hexadecimal literal is not a Unicode scalar value"
  | .hexDigitInvalid => "invalid hexadecimal digit"
  | .escapeCut => "incomplete escape sequence, reached end of pattern prematurely"
  | .escapeUnrecognized => "unrecognized escape sequence"
  | .flagNegationDangling => "dangling flag negation operator"
  | .flagDuplicate _ => "duplicate flag"
  | .flagNegationRepeated _ => "flag negation operator repeated"
  | .flagCut => "expected flag but got end of regex"
  | .flagUnrecognized => "unrecognized flag"
  | .nameDuplicate _ => "duplicate capture group name"
  | .nameEmpty => "empty capture group name"
  | .nameInvalid => "invalid capture group character"
  | .nameCut => "unclosed capture group name"
  | .groupUnclosed => "unclosed group"
  | .groupUnopened => "unopened group"
  | .nestLimit limit =>
    "exceed the maximum number of nested parentheses/brackets (" ++ toString limit ++ ")"
  | .countInvalid => "invalid repetition count range, the start must be <= the end"
  | .countEmpty => "repetition quantifier expects a valid decimal"
  | .countUnclosed => "unclosed counted repetition"
  | .repetitionMissing => "repetition operator missing expression"
  | .wordBoundaryUnclosed =>
    "special word boundary assertion is either unclosed or contains an invalid character"
  | .wordBoundaryUnrecognized =>
    "unrecognized special word boundary assertion, " ++
      "valid choices are: start, end, start-half or end-half"
  | .wordBoundaryCut =>
    "found either the beginning of a special word boundary or a bounded repetition " ++
      "on a \\b with an opening brace, but no closing brace"
  | .propertyInvalid => "invalid Unicode character class"
  | .backreference => "backreferences are not supported"
  | .lookAround => "look-around, including look-ahead and look-behind, is not supported"
  | .unicodeNotAllowed => "Unicode not allowed here"
  | .invalidUtf8 => "pattern can match invalid UTF-8"
  | .propertyUnknown => "Unicode property not found"
  | .propertyValueUnknown => "Unicode property value not found"
  | .perlClassUnknown =>
    "Unicode-aware Perl class not found (make sure the unicode-perl feature is enabled)"
  | .caseUnavailable =>
    "Unicode-aware case insensitivity matching is not available " ++
      "(make sure the unicode-case feature is enabled)"

def related? : Cause → Option Span
  | .flagDuplicate first => some first
  | .flagNegationRepeated first => some first
  | .nameDuplicate first => some first
  | _ => none

end Flaw.Cause

structure Flaw where
  cause : Flaw.Cause
  span : Span
  deriving DecidableEq, Repr

namespace Flaw

structure Point where
  line : Nat
  column : Nat
  deriving DecidableEq, Repr

def point (text : List Char) (place : Nat) : Point :=
  let before := text.take place
  ⟨before.count '\n', (before.reverse.takeWhile (· ≠ '\n')).length⟩

def ordered (spans : List (Point × Point)) : List (Point × Point) :=
  spans.mergeSort fun a b => !decide (b.1.column < a.1.column)

def underline (column : Nat) : List (Point × Point) → String
  | [] => ""
  | (start, stop) :: rest =>
    let width := max 1 (stop.column - start.column)
    "".pushn ' ' (start.column - column) ++ "".pushn '^' width ++
      underline (max column start.column + width) rest

def excerpt (spans : List (Point × Point)) (digits : Nat) : Nat → List String → List String
  | _, [] => []
  | i, line :: rest =>
    let label :=
      if digits = 0 then "    "
      else let number := toString (i + 1); "".pushn ' ' (digits - number.length) ++ number ++ ": "
    let here := ordered (spans.filter fun (start, stop) => start.line = i && stop.line = i)
    let marks := if here.isEmpty then [] else ["".pushn ' ' label.length ++ underline 0 here]
    (label ++ line) :: marks ++ excerpt spans digits (i + 1) rest

def heading : String := "regex parse error:"

def report (flaw : Flaw) (text : List Char) : String :=
  let spans := (flaw.span :: flaw.cause.related?.toList).map fun span =>
    (point text span.start, point text span.stop)
  let lines := (Text.lines text).map String.ofList
  let count := lines.length + if text.getLast? = some '\n' then 1 else 0
  let digits := if count ≤ 1 then 0 else (toString count).length
  let shown := excerpt spans digits 0 lines
  let rule := "".pushn '~' 79
  let notes := spans.filterMap fun (start, stop) =>
    if start.line = stop.line then none
    else some ("on line " ++ toString (start.line + 1) ++ " (column " ++ toString (start.column + 1) ++
      ") through line " ++ toString (stop.line + 1) ++ " (column " ++ toString stop.column ++ ")")
  let body := if text.contains '\n' then rule :: shown ++ rule :: notes else shown
  "\n".intercalate (heading :: body ++ ["error: " ++ flaw.cause.message])

end Flaw
end Retrace.Regex
