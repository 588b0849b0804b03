import Retrace.LineMap
import Retrace.Text.Numeral

/-!
# Line maps as compact JSON

An object whose keys are the generated lines in ascending order, each with an
object of three numbers, and no blanks anywhere.
-/

namespace Retrace

def Place.toJson (place : Place) : List Char :=
  "\x7b\"line\":".toList ++ Text.showWord place.line ++
    ",\"column\":".toList ++ Text.showWord place.column ++
    ",\"span\":".toList ++ Text.showWord place.span ++ ['\x7d']

namespace LineMap

def entryJson (entry : Entry) : List Char :=
  '"' :: Text.showWord entry.1 ++ '"' :: ':' :: entry.2.toJson

def entriesJson : List Entry → List Char
  | [] => []
  | [last] => entryJson last
  | first :: others => entryJson first ++ ',' :: entriesJson others

def toJson (map : LineMap) : List Char := '\x7b' :: entriesJson map.entries ++ ['\x7d']

def render (map : LineMap) : String := String.ofList map.toJson

end LineMap
end Retrace
