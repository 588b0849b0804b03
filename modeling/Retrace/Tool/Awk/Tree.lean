/-!
# Scripts for records

A script is a list of rules: what is done to the records that a pattern fits, before
the first one, and after the last one.
-/

namespace Retrace.Tool.Awk

inductive Operator where
  | add
  | subtract
  | multiply
  | divide
  | remainder
  | power
  | join
  deriving DecidableEq, Repr

inductive Relation where
  | less
  | lessEqual
  | equal
  | unequal
  | greater
  | greaterEqual
  deriving DecidableEq, Repr

inductive Expr where
  | number (value : Float)
  | text (value : List Char)
  | regex (source : List Char)
  | variable (name : List Char)
  | element (array : List Char) (index : List Expr)
  | field (number : Expr)
  | assign (target value : Expr)
  | update (operator : Operator) (target value : Expr)
  | count (target : Expr) (up first : Bool)
  | calculate (operator : Operator) (left right : Expr)
  | relate (relation : Relation) (left right : Expr)
  | fits (text pattern : Expr)
  | not (inner : Expr)
  | negate (inner : Expr)
  | plus (inner : Expr)
  | both (left right : Expr)
  | either (left right : Expr)
  | choose (condition first second : Expr)
  | member (index : List Expr) (array : List Char)
  | call (name : List Char) (arguments : List Expr)
  | builtin (name : String) (arguments : List Expr)
  | readRecord (command : Bool) (source target : Option Expr)
  | grouped (items : List Expr)

inductive Way where
  | anew
  | behind
  | into
  deriving DecidableEq, Repr

inductive Statement where
  | evaluate (expr : Expr)
  | print (items : List Expr) (formatted : Bool) (target : Option (Way × Expr))
  | when (condition : Expr) (first : Statement) (second : Option Statement)
  | loop (condition : Option Expr) (after : Option Expr) (body : Statement) (testsFirst : Bool)
  | each (name array : List Char) (body : Statement)
  | block (statements : List Statement)
  | delete (array : List Char) (index : Option (List Expr))
  | next
  | nextFile
  | exit (status : Option Expr)
  | give (value : Option Expr)
  | leave
  | again

inductive Pattern where
  | always
  | one (condition : Expr)
  | range (first last : Expr)

structure Rule where
  pattern : Pattern
  body : Statement

structure Function where
  name : List Char
  parameters : List (List Char)
  body : Statement

structure Script where
  begins : List Statement := []
  rules : List Rule := []
  ends : List Statement := []
  functions : List Function := []

end Retrace.Tool.Awk
