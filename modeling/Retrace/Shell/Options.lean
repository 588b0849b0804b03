import Retrace.Shell.Session

/-!
# Shell options

The options a session knows, each with its letter if it has one, and how the
options in front of a builtin's operands are read.
-/

namespace Retrace.Shell

open Unix

def optionTable : List (String × Option Char) :=
  [("errexit", some 'e'), ("noglob", some 'f'), ("ignoreeof", some 'I'), ("interactive", some 'i'),
    ("monitor", some 'm'), ("noexec", some 'n'), ("stdin", some 's'), ("xtrace", some 'x'),
    ("verbose", some 'v'), ("vi", some 'V'), ("emacs", some 'E'), ("noclobber", some 'C'),
    ("allexport", some 'a'), ("notify", some 'b'), ("nounset", some 'u'), ("privileged", some 'p'),
    ("nolog", none), ("debug", none)]

/-- The options of the richer shell, in the order in which their letters are told. -/
def fullOptions : List (String × Option Char) :=
  [("allexport", some 'a'), ("notify", some 'b'), ("errexit", some 'e'), ("noglob", some 'f'),
    ("hashall", some 'h'), ("keyword", some 'k'), ("monitor", some 'm'), ("noexec", some 'n'),
    ("privileged", some 'p'), ("onecmd", some 't'), ("nounset", some 'u'), ("verbose", some 'v'),
    ("xtrace", some 'x'), ("braceexpand", some 'B'), ("noclobber", some 'C'), ("errtrace", some 'E'),
    ("histexpand", some 'H'), ("physical", some 'P'), ("functrace", some 'T'), ("emacs", none),
    ("history", none), ("ignoreeof", none), ("interactive-comments", none), ("nolog", none),
    ("pipefail", none), ("posix", none), ("vi", none)]

def optionOf? (letter : Char) : Option String :=
  (optionTable.find? (·.2 = some letter)).map (·.1)

def Session.letters (session : Session) : Bytes :=
  optionTable.reverse.filterMap fun (name, letter) => if session.has name then letter else none

def Session.turn (session : Session) (option : String) (on : Bool) : Session :=
  let others := session.options.filter (· ≠ option)
  { session with options := if on then option :: others else others }

def cutLetters (known : Bytes) : List Bytes → Except Char (Bytes × List Bytes)
  | ['-', '-'] :: rest => .ok ([], rest)
  | ('-' :: c :: more) :: rest =>
    match (c :: more).find? (!known.contains ·) with
    | some letter => .error letter
    | none => (cutLetters known rest).map fun (letters, operands) => (c :: more ++ letters, operands)
  | operands => .ok ([], operands)

def illegalOption (letter : Char) : Bytes := "Illegal option -" ++ [letter]

end Retrace.Shell
