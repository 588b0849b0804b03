/-!
# Sets of characters

What a single place of a regular expression admits. `mem` is the view the laws
speak of.
-/

namespace Retrace

inductive Charset where
  | none
  | range (low high : Char)
  | complement (set : Charset)
  | union (first second : Charset)
  | inter (first second : Charset)
  /-- With a letter also the letter of the other case, of the English alphabet only. -/
  | folded (set : Charset)
  deriving DecidableEq, Repr

namespace Charset

def mem (c : Char) : Charset → Bool
  | .none => false
  | .range low high => low ≤ c && c ≤ high
  | .complement set => !set.mem c
  | .union first second => first.mem c || second.mem c
  | .inter first second => first.mem c && second.mem c
  | .folded set => set.mem c || set.mem c.toLower || set.mem c.toUpper

def single (c : Char) : Charset := .range c c

def any : Charset := .complement .none

def unions : List Charset → Charset
  | [] => .none
  | [only] => only
  | first :: rest => .union first (unions rest)

def ofChars (chars : List Char) : Charset := unions (chars.map single)

def diff (first second : Charset) : Charset := .inter first (.complement second)

def symmDiff (first second : Charset) : Charset :=
  .union (first.diff second) (second.diff first)

def digit : Charset := .range '0' '9'
def lower : Charset := .range 'a' 'z'
def upper : Charset := .range 'A' 'Z'
def alpha : Charset := .union lower upper
def alnum : Charset := .union digit alpha

def ofName? : String → Option Charset
  | "alnum" => some alnum
  | "alpha" => some alpha
  | "ascii" => some (.range '\x00' '\x7f')
  | "blank" => some (ofChars ['\t', ' '])
  | "cntrl" => some (.union (.range '\x00' '\x1f') (single '\x7f'))
  | "digit" => some digit
  | "graph" => some (.range '!' '~')
  | "lower" => some lower
  | "print" => some (.range ' ' '~')
  | "punct" => some ((Charset.range '!' '~').diff alnum)
  | "space" => some (ofChars ['\t', '\n', '\x0b', '\x0c', '\r', ' '])
  | "upper" => some upper
  | "word" => some (.union alnum (single '_'))
  | "xdigit" => some (unions [digit, .range 'A' 'F', .range 'a' 'f'])
  | _ => Option.none

end Charset
end Retrace
