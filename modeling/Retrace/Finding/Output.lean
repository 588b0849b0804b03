import Retrace.Finding.Gnu
import Retrace.Finding.Msvc
import Retrace.Text.Lines

/-!
# Findings in the output of a toolchain

Every line of the output is a complete finding or noise, so reading goes line by
line and keeps the order.
-/

namespace Retrace

inductive LineStyle where
  | gnu
  | msvc
  deriving DecidableEq, Repr

namespace LineStyle

def readLine (style : LineStyle) (line : List Char) : Option Finding :=
  match style with
  | .gnu => Finding.Gnu.parse line
  | .msvc => Finding.Msvc.parse line

def read (style : LineStyle) (output : List Char) : List Finding :=
  (Text.lines output).filterMap style.readLine

def parseLine (style : LineStyle) (line : String) : Option Finding := style.readLine line.toList

def parseOutput (style : LineStyle) (output : String) : List Finding := style.read output.toList

end LineStyle
end Retrace
