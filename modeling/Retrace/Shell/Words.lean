import Retrace.Shell.Unfolding

/-!
# Words

What a word stands for in a session, whichever shell it is.
-/

namespace Retrace.Shell

def wordFields (self : Self) (word : Word) : Expand (List Bytes) := do
  match (← get).dialect with
  | .dash => expandWord self word
  | .bash => unfoldWord self word

def allFields (self : Self) (words : List Word) : Expand (List Bytes) := do
  return (← words.mapM (wordFields self)).flatten

def wordText (self : Self) (setting : Bool) (word : Word) : Expand Bytes := do
  match (← get).dialect with
  | .dash => expandText self setting word
  | .bash => unfoldText self setting word

def wordFits (self : Self) (text : Bytes) (word : Word) : Expand Bool := do
  match (← get).dialect with
  | .dash => return Glob.fits (← expandPattern self word) text
  | .bash =>
    let marks ← unfoldMarks self word
    let session ← get
    return Glob.fitsFolding (session.switched "nocasematch") (session.pattern marks) text

end Retrace.Shell
