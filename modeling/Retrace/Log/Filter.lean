import Retrace.Log
import Retrace.Regex.Meaning

/-!
# Which records are shown

A filter is a list of directives, each a threshold for the parts of the program
whose names start with its own. The longest name that fits a record decides, and
of equally long ones the last; a directive without a name fits every record. A
filter may also hold a regular expression that messages have to match.
-/

namespace Retrace

inductive Threshold where
  | off
  | upTo (level : Level)
  | trace
  deriving DecidableEq, Repr

def Level.rank : Level → Nat
  | .error => 1
  | .warn => 2
  | .info => 3
  | .debug => 4

namespace Threshold

def rank : Threshold → Nat
  | .off => 0
  | .upTo level => level.rank
  | .trace => 5

def admits (threshold : Threshold) (level : Level) : Bool := level.rank ≤ threshold.rank

def ofSwitches (verbose quiet : Bool) : Level :=
  if verbose then .debug else if quiet then .error else .info

def ofWord? (word : List Char) : Option Threshold :=
  [ ("off", .off), ("error", .upTo .error), ("warn", .upTo .warn), ("info", .upTo .info),
    ("debug", .upTo .debug), ("trace", .trace) ].lookup (String.ofList (word.map Char.toLower))

end Threshold

structure Directive where
  /-- The start of the names it is about; none for all. -/
  scope : Option String
  threshold : Threshold
  deriving DecidableEq, Repr

def Directive.fits (directive : Directive) (path : String) : Bool :=
  directive.scope.all fun scope => scope.toList.isPrefixOf path.toList

def Directive.length (directive : Directive) : Nat := (directive.scope.map (·.utf8ByteSize)).getD 0

structure Filter where
  directives : List Directive
  regex : Option Regex := none
  deriving DecidableEq, Repr

namespace Filter

def insert (directives : List Directive) (directive : Directive) : List Directive :=
  if directives.any (·.scope = directive.scope) then
    directives.map fun held => if held.scope = directive.scope then directive else held
  else directives ++ [directive]

def split (mark : Char) : List Char → List (List Char)
  | [] => [[]]
  | c :: rest =>
    if c = mark then [] :: split mark rest
    else match split mark rest with
      | [] => [[c]]
      | first :: others => (c :: first) :: others

def directive (spec : List Char) : Except String Directive :=
  match split '=' spec with
  | [only] =>
    match Threshold.ofWord? only with
    | some threshold => .ok ⟨none, threshold⟩
    | none => .ok ⟨some (String.ofList only), .trace⟩
  | [name, level] =>
    let level := Text.trim level
    if level.isEmpty then .ok ⟨some (String.ofList name), .trace⟩
    else match Threshold.ofWord? level with
      | some threshold => .ok ⟨some (String.ofList name), threshold⟩
      | none => .error (String.ofList level)
  | _ => .error (String.ofList spec)

def warning (complaint : String) : String := "warning: " ++ complaint ++ ", ignoring it"

def invalidPart (part : String) : String := "invalid logging spec '" ++ part ++ "'"

def addAll (directives : List Directive) : List (List Char) → List Directive × List String
  | [] => (directives, [])
  | part :: rest =>
    let part := Text.trim part
    if part.isEmpty then addAll directives rest
    else match directive part with
      | .ok added => addAll (insert directives added) rest
      | .error text =>
        let (directives, warnings) := addAll directives rest
        (directives, warning (invalidPart text) :: warnings)

/-- A filter for the given level, changed by a specification: directives separated by
commas, then perhaps a slash and a regular expression. -/
def ofSpec (level : Level) (spec : String) : Filter × List String :=
  let start : List Directive := [⟨none, .upTo level⟩]
  match split '/' spec.toList with
  | [directives] =>
    let (directives, warnings) := addAll start (split ',' directives)
    ({ directives }, warnings)
  | [directives, pattern] =>
    let (directives, warnings) := addAll start (split ',' directives)
    match Regex.ofPattern pattern with
    | .ok regex => ({ directives, regex := some regex }, warnings)
    | .error refusal =>
      ({ directives }, warnings ++ [warning ("invalid regex filter - " ++ refusal.message pattern)])
  | _ => ({ directives := start }, [warning (invalidPart spec ++ " (too many '/'s)")])

def deciding? (filter : Filter) (path : String) : Option Directive :=
  (filter.directives.filter (·.fits path)).foldl (fun best directive =>
    if best.all (·.length ≤ directive.length) then some directive else best) none

def admits (filter : Filter) (record : Record) : Bool :=
  (filter.deciding? record.topic.path).any (·.threshold.admits record.level) &&
    filter.regex.all (·.found record.message.toList)

end Filter
end Retrace
