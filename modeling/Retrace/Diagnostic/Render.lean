import Retrace.Diagnostic
import Retrace.Files
import Retrace.Text.Lines

/-!
# Diagnostics on the terminal

One header line, and under it an excerpt of the user's source with the span
marked where one can be shown. A source is read once: later excerpts of the
same path come from the lines remembered then, even if there were none.
-/

namespace Retrace

structure Renderer where
  showSource : Bool := true
  colors : Bool := true
  /-- The lines of the sources read so far, none for one that could not be read. -/
  sources : List (Path.Parts × Option (List (List Char))) := []

namespace Renderer

def plain : Renderer := { showSource := false, colors := false }

def color : Severity → String
  | .error | .fatal => "31"
  | .warning => "33"
  | .note => "36"

def label (renderer : Renderer) (severity : Severity) : String :=
  if renderer.colors then "\x1b[" ++ color severity ++ "m" ++ severity.label ++ "\x1b[0m"
  else severity.label

def indent (diagnostic : Diagnostic) : String :=
  if diagnostic.severity = .note then "  " else ""

def header (renderer : Renderer) (diagnostic : Diagnostic) : String :=
  indent diagnostic ++ renderer.label diagnostic.severity ++
    (match diagnostic.code with
      | some code => "[" ++ code ++ "]"
      | none => "") ++
    ": " ++ diagnostic.message ++ " at " ++ diagnostic.subject.describe ++ ":" ++
    diagnostic.position.describe

/-- The lines of a source, remembered from the first time it is asked for. -/
def source (renderer : Renderer) (files : Files) (path : String) :
    Option (List (List Char)) × Renderer :=
  let key := Path.components path
  match renderer.sources.find? (·.1 = key) with
  | some (_, lines) => (lines, renderer)
  | none =>
    let lines := match files.readText path with
      | .ok text => some (Text.lines text.toList)
      | .error _ => none
    (lines, { renderer with sources := (key, lines) :: renderer.sources })

def lineAt (lines : List (List Char)) (number : UInt32) : Option (List Char) :=
  if number = 0 then none else lines[number.toNat - 1]?

/-- The caret stands under the first character of the span, tildes under the others. -/
def marker (place : Place) : String :=
  String.ofList (List.replicate (place.column.toNat - 1) ' ' ++
    '^' :: List.replicate (place.span.toNat - 1) '~')

def excerpt (diagnostic : Diagnostic) (line : List Char) (place : Place) : String :=
  let margin := "\n" ++ indent diagnostic ++ "  |"
  margin ++ margin ++ " " ++ String.ofList line ++ margin ++ " " ++ marker place

def render (renderer : Renderer) (files : Files) (diagnostic : Diagnostic) : String × Renderer :=
  let header := renderer.header diagnostic
  match renderer.showSource, diagnostic.subject, diagnostic.position with
  | true, .user path, .mapped place =>
    let (lines, renderer) := renderer.source files path
    match lines.bind (lineAt · place.line) with
    | some line => (header ++ excerpt diagnostic line place, renderer)
    | none => (header, renderer)
  | _, _, _ => (header, renderer)

def renderAll (renderer : Renderer) (files : Files) : List Diagnostic → List String × Renderer
  | [] => ([], renderer)
  | diagnostic :: rest =>
    let (text, renderer) := renderer.render files diagnostic
    let (texts, renderer) := renderer.renderAll files rest
    (text :: texts, renderer)

end Renderer
end Retrace
