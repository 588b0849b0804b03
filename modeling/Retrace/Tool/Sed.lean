import Retrace.Tool.Amount
import Retrace.Tool.Options
import Retrace.Tool.Quoted
import Retrace.Tool.Sed.Script

/-!
# Editing lines

Runs a script on every line of the input: the line is in the space that commands
work on, and it is written when the script is over.
-/

namespace Retrace.Tool.Sed

open Unix Regex Text

inductive RangeState where
  | inactive
  | active (stop : Option Nat)
  | closed

inductive Appended where
  | text (text : Bytes)
  | file (name : Bytes)
  | line (name : Bytes)

structure Machine where
  commands : Array Command
  (silent separate : Bool := false)
  mark : Char := '\n'
  width : Nat := 70
  /-- Files are replaced by what is written, and kept under a name with a suffix. -/
  inPlace : Option Bytes := none
  space : Bytes := []
  ended : Bool := true
  hold : Bytes := []
  holdEnded : Bool := true
  number : Nat := 0
  replaced : Bool := false
  appended : List Appended := []
  ranges : Array RangeState
  lastPattern : Option Posix := none
  names : List Bytes
  name : Bytes := ['-']
  feed : Option Feed := none
  ahead : Option (Bytes × Feed) := none
  missing : List Bytes := []
  outputs : List (Bytes × Nat) := []
  readers : List (Bytes × Feed) := []
  written : List Bytes := []
  finale : Bytes := []

abbrev Edit := StateT Machine Work

def lift (work : Work α) : Edit α := StateT.lift work

def remark (text : Bytes) : Edit Unit := do
  lift (interject <| (← lift (get : Work Bench)).name ++ ": " ++ text ++ ['\n'])

def stop {α : Type} (text : Bytes) (status : Nat) : Edit α := do
  remark text
  lift (exit status)

/-! ## Output -/

def mainOutput : Bytes := []

/-- Writes to the main output. If that fails before the end, nothing more is done. -/
def writeOut (text : Bytes) : Edit Unit := do
  lift (out text)
  let bench ← lift (get : Work Bench)
  if let some cause := bench.broken then
    if cause ≠ .badDescriptor then
      let items := if text.length = 1 then " item" else " items"
      remark ("couldn't write " ++ decimal text.length ++
        ofString (items ++ " to stdout: " ++ cause.text))
      lift (perform (Program.exit 4))

def writeTo (target text : Bytes) : Edit Unit := do
  if text.isEmpty then return
  let machine ← get
  if target = mainOutput then
    if machine.inPlace.isSome then set { machine with written := text :: machine.written }
    else writeOut text
  else if target = "/dev/stdout" then writeOut text
  else match machine.outputs.lookup target with
    | some fd =>
      let _ ← lift (perform (Program.write fd text))
    | none => return

def emit (target text : Bytes) (ended : Bool) : Edit Unit := do
  let machine ← get
  if machine.missing.contains target then
    writeTo target [machine.mark]
    modify fun machine => { machine with missing := machine.missing.filter (· ≠ target) }
  writeTo target text
  if ended then writeTo target [machine.mark]
  else modify fun machine => { machine with missing := target :: machine.missing }

def emitText (text : Bytes) : Edit Unit := do
  let machine ← get
  if machine.missing.contains mainOutput then
    writeTo mainOutput [machine.mark]
    modify fun machine => { machine with missing := machine.missing.filter (· ≠ mainOutput) }
  writeTo mainOutput text

/-! ## Input -/

def replaceFile : Edit Unit := do
  let machine ← get
  match machine.inPlace with
  | none => return
  | some suffix =>
    if machine.name = ['-'] then return
    let text := machine.written.reverse.flatten
    let name := machine.name
    set { machine with written := [], missing := machine.missing.filter (· ≠ mainOutput) }
    let _ ← lift (ask (.change fun view => do
      let (_, held) ← view.status name true
      let spot ← view.volume.spot view.cwd name true
      let volume ← if suffix.isEmpty then pure view.volume
        else
          let backup := if suffix.contains '*' then suffix.flatMap fun c => if c = '*' then name else [c]
            else name ++ suffix
          view.volume.rename view.now view.cwd name backup
      return (volume.add view.now spot.dir spot.name
        ⟨.file ⟨(toBytes text).toArray⟩, held.mode, view.now⟩).2))

def openNext : Nat → Edit (Option (Bytes × Feed))
  | 0 => return none
  | fuel + 1 => do
    let machine ← get
    match machine.names with
    | [] => return none
    | name :: names =>
      set { machine with names }
      let opened ← lift (if machine.inPlace.isSome then ask (.openFile name .input 0) else openInput name)
      match opened with
      | .ok fd =>
        if machine.inPlace.isSome && (← lift look).isDir name then
          stop ("couldn't edit " ++ name ++ ": not a regular file") 4
        else return some (name, { fd })
      | .error cause =>
        remark ("can't read " ++ name ++ ": " ++ causeText cause)
        lift (fail 2)
        openNext fuel

def Machine.afresh (machine : Machine) : Machine :=
  { machine with
    number := 0, hold := [], holdEnded := true, readers := []
    ranges := machine.ranges.map fun _ => .inactive }

def enter (found : Bytes × Feed) : Edit Unit :=
  modify fun machine =>
    let machine := if machine.separate then machine.afresh else machine
    { machine with name := found.1, feed := some found.2, ahead := none }

def filled : Nat → Feed → Edit Feed
  | 0, feed => return feed
  | fuel + 1, feed => do
    if !feed.rest.isEmpty || feed.exhausted then
      if let some cause := feed.flaw then
        let name := (← get).name
        let name := if name = ['-'] then ofString "stdin" else name
        stop ("read error on " ++ name ++ ": " ++ causeText cause) 4
      return feed
    filled fuel (← lift feed.more)

def readLine : Nat → Edit (Option Bytes)
  | 0 => return none
  | fuel + 1 => do
    let machine ← get
    match machine.feed with
    | none =>
      let next ← match machine.ahead with
        | some found => pure (some found)
        | none => openNext (machine.names.length + 1)
      match next with
      | none => return none
      | some found =>
        enter found
        readLine fuel
    | some feed =>
      let feed ← filled Program.manySteps feed
      let (line, feed) ← lift (feed.line machine.mark)
      match line with
      | some line =>
        modify fun machine => { machine with feed := some feed }
        return some line
      | none =>
        lift (closeInput feed.fd)
        replaceFile
        modify fun machine => { machine with feed := none }
        readLine fuel

def atEnd : Nat → Edit Bool
  | 0 => return true
  | fuel + 1 => do
    let machine ← get
    match machine.feed with
    | some feed =>
      let feed ← filled Program.manySteps feed
      modify fun machine => { machine with feed := some feed }
      if !feed.rest.isEmpty then return false
      if machine.separate then return true
      lookAhead fuel
    | none => lookAhead fuel
where
  lookAhead : Nat → Edit Bool
    | 0 => return true
    | fuel + 1 => do
      let machine ← get
      let next ← match machine.ahead with
        | some found => pure (some found)
        | none => openNext (machine.names.length + 1)
      match next with
      | none => return true
      | some (name, feed) =>
        let feed ← filled Program.manySteps feed
        if feed.rest.isEmpty then
          lift (closeInput feed.fd)
          modify fun machine => { machine with ahead := none }
          lookAhead fuel
        else
          modify fun machine => { machine with ahead := some (name, feed) }
          return false

def isLast : Edit Bool := do atEnd ((← get).names.length + 2)

def readSpace (behind : Bool) : Edit Bool := do
  match ← readLine ((← get).names.length * 2 + 4) with
  | none => return false
  | some line =>
    modify fun machine =>
      let text := unended machine.mark line
      { machine with
        space := if behind then machine.space ++ machine.mark :: text else text
        ended := line.getLast? = some machine.mark
        number := machine.number + 1, replaced := false }
    return true

/-! ## Addresses -/

def meant (pattern : Pattern) : Edit Posix := do
  match pattern with
  | some found =>
    modify fun machine => { machine with lastPattern := some found }
    return found
  | none =>
    match (← get).lastPattern with
    | some found => return found
    | none => stop ((← get).finale ++ "no previous regular expression") 1

def selects (address : Address) : Edit Bool := do
  let machine ← get
  match address with
  | .line number => return machine.number = number
  | .step first every =>
    return first ≤ machine.number && (machine.number - first) % every = 0
  | .last => isLast
  | .pattern pattern =>
    let found ← meant pattern
    return (found.find? machine.space.toArray 0).isSome
  | .plus _ => return false
  | .multiple _ => return false

def setRange (place : Nat) (state : RangeState) : Edit Unit :=
  modify fun machine => { machine with ranges := machine.ranges.set! place state }

def inRange (place : Nat) (first second : Address) : Edit Bool := do
  let machine ← get
  let state := machine.ranges[place]?.getD .inactive
  let number := machine.number
  let start : Edit Bool := do
    let stop? := match second with
      | .line stop => some stop
      | .plus count => some (number + count)
      | .multiple every => some (if every = 0 then number else (number + every - 1) / every * every)
      | _ => none
    if stop?.any (· ≤ number) then
      setRange place .closed
      return true
    if let .last := second then
      if ← isLast then
        setRange place .closed
        return true
    setRange place (.active stop?)
    return true
  match state with
  | .active (some stop) =>
    if stop ≤ number then setRange place .closed
    return number ≤ stop
  | .active none =>
    if ← selects second then setRange place .closed
    return true
  | .closed =>
    match first with
    | .line _ => return false
    | _ => if ← selects first then start else return false
  | .inactive =>
    match first with
    | .line 0 =>
      setRange place (.active none)
      if ← selects second then setRange place .closed
      return true
    | .line low =>
      if number < low then return false
      else match second with
        | .line high =>
          if number < high then start
          else
            setRange place .closed
            return number = low || number = high
        | _ => start
    | _ => if ← selects first then start else return false

def applies (place : Nat) (command : Command) : Edit Bool := do
  let selected ← match command.first, command.second with
    | none, _ => pure true
    | some first, none => selects first
    | some first, some second => inRange place first second
  return selected != command.negated

/-! ## Substitution -/

def recased (mode : Case) (next : Option Case) (text : Bytes) : Bytes :=
  let text := match mode with
    | .upper => text.map Char.toUpper
    | .lower => text.map Char.toLower
    | _ => text
  match next, text with
  | some .upperNext, c :: rest => c.toUpper :: rest
  | some .lowerNext, c :: rest => c.toLower :: rest
  | _, _ => text

def replaced (text : Array Char) (found : Posix.Found) (parts : List Part) : Bytes :=
  let step := fun (pieces, mode, next) part =>
    let add := fun (piece : Bytes) =>
      (recased mode next piece :: pieces, mode, if piece.isEmpty then next else none)
    match part with
    | .text piece => add piece
    | .group number => add ((found.group? text number).getD [])
    | .cased .upperNext => (pieces, mode, some Case.upperNext)
    | .cased .lowerNext => (pieces, mode, some Case.lowerNext)
    | .cased mode => (pieces, mode, none)
  (parts.foldl step (([] : List Bytes), Case.asIs, (none : Option Case))).1.reverse.flatten

/-- Replaces matches from a place on. `count` is how many have been found, `last` where the one
before ended, and `pieces` what has been made, last first. -/
def substituteFrom (change : Substitution) (expression : Posix) (text : Array Char) :
    Nat → Nat → Option Nat → Nat → List Bytes → Bool → Bytes × Bool
  | 0, start, _, _, pieces, done => ((( text.extract start text.size).toList :: pieces).reverse.flatten, done)
  | fuel + 1, start, last, count, pieces, done =>
    let rest := fun (pieces : List Bytes) (start : Nat) (done : Bool) =>
      (((text.extract start text.size).toList :: pieces).reverse.flatten, done)
    if text.size < start then rest pieces start done
    else match expression.find? text start with
      | none => rest pieces start done
      | some found =>
        let pieces := (text.extract start found.start).toList :: pieces
        let empty := found.start = found.stop
        let after := fun (pieces : List Bytes) =>
          if empty then
            ((text.extract found.stop (found.stop + 1)).toList :: pieces, found.stop + 1)
          else (pieces, found.stop)
        if empty && last = some found.start then
          let (pieces, next) := after pieces
          substituteFrom change expression text fuel next none count pieces done
        else if count + 1 < change.number then
          let pieces := if empty then pieces else (text.extract found.start found.stop).toList :: pieces
          let (pieces, next) := after pieces
          substituteFrom change expression text fuel next (if empty then none else some found.stop)
            (count + 1) pieces done
        else
          let pieces := replaced text found change.parts :: pieces
          if change.everywhere then
            let (pieces, next) := after pieces
            substituteFrom change expression text fuel next (if empty then none else some found.stop)
              (count + 1) pieces true
          else rest pieces found.stop true

/-! ## Commands -/

def visible (width : Nat) (text : Bytes) : Bytes :=
  let shown := fun c : Char =>
    match c with
    | '\\' => ['\\', '\\']
    | '\x08' => ['\\', 'b']
    | _ => if Quoted.isPrintable c then [c] else Quoted.escaped c
  let (pieces, _) := text.foldl (fun (pieces, used) c =>
    let piece := shown c
    if 1 < width && width - 1 < used + piece.length then (piece :: ['\\', '\n'] :: pieces, piece.length)
    else (piece :: pieces, used + piece.length)) (([] : List Bytes), 0)
  pieces.reverse.flatten ++ ['$', '\n']

def flushAppended : Edit Unit := do
  let appended := (← get).appended
  modify fun machine => { machine with appended := [] }
  for item in appended.reverse do
    let machine ← get
    match item with
    | .text text => emitText text
    | .file name =>
      match ← lift (ask (.openFile name .input 0)) with
      | .ok fd =>
        let (text, _) ← lift (Feed.all { fd })
        lift (close fd)
        if !text.isEmpty then emitText text
      | .error _ => pure ()
    | .line name =>
      let feed : Option Feed ← match machine.readers.lookup name with
        | some feed => pure (some feed)
        | none =>
          match ← lift (ask (.openFile name .input 0)) with
          | .ok fd => pure (some { fd })
          | .error _ => pure none
      if let some feed := feed then
        let (line, feed) ← lift (feed.line machine.mark)
        modify fun machine =>
          { machine with readers := (name, feed) :: machine.readers.filter (·.1 ≠ name) }
        if let some line := line then emitText line

inductive Outcome where
  | done
  | deleted
  | again
  | quits (status : Nat) (writes : Bool)

def labelPlace? (commands : Array Command) (name : Bytes) : Option Nat :=
  commands.findIdx? fun command =>
    match command.action with
    | .label other => other = name
    | _ => false

def firstLine (mark : Char) (text : Bytes) : Bytes := text.takeWhile (· ≠ mark)

def Machine.firstEnded (machine : Machine) : Bool :=
  machine.ended || machine.space.contains machine.mark

def Machine.marked (machine : Machine) (text : Bytes) : Bytes :=
  if text.getLast? = some '\n' then text.dropLast ++ [machine.mark] else text

def run : Nat → Nat → Edit Outcome
  | 0, _ => return .done
  | fuel + 1, place => do
    let machine ← get
    match machine.commands[place]? with
    | none => return .done
    | some command =>
      if !(← applies place command) then
        match command.action with
        | .opens stop => run fuel (stop + 1)
        | _ => run fuel (place + 1)
      else
        let machine ← get
        let goOn : Edit Outcome := run fuel (place + 1)
        let jump := fun (name : Bytes) =>
          if name.isEmpty then (return .done : Edit Outcome)
          else match labelPlace? machine.commands name with
            | some target => run fuel target
            | none => return .done
        match command.action with
        | .opens _ => goOn
        | .closes => goOn
        | .label _ => goOn
        | .showNumber =>
          emitText (decimal machine.number ++ [machine.mark])
          goOn
        | .append text =>
          set { machine with appended := .text text :: machine.appended }
          goOn
        | .insert text =>
          emitText (machine.marked text)
          goOn
        | .change text =>
          let isOpen := match machine.ranges[place]?.getD .inactive with
            | .active _ => command.second.isSome
            | _ => false
          if !isOpen || command.negated then emitText (machine.marked text)
          return .deleted
        | .branch name => jump name
        | .branchIf name =>
          if machine.replaced then
            set { machine with replaced := false }
            jump name
          else goOn
        | .branchUnless name =>
          if machine.replaced then
            set { machine with replaced := false }
            goOn
          else jump name
        | .delete => return .deleted
        | .deleteFirst =>
          if machine.space.contains machine.mark then
            set { machine with space := (machine.space.dropWhile (· ≠ machine.mark)).drop 1 }
            return .again
          else return .deleted
        | .showName =>
          emitText (machine.name ++ [machine.mark])
          goOn
        | .get =>
          set { machine with space := machine.hold, ended := machine.holdEnded }
          goOn
        | .getMore =>
          set { machine with
            space := machine.space ++ machine.mark :: machine.hold, ended := machine.holdEnded }
          goOn
        | .hold =>
          set { machine with hold := machine.space, holdEnded := machine.ended }
          goOn
        | .holdMore =>
          set { machine with
            hold := machine.hold ++ machine.mark :: machine.space, holdEnded := machine.ended }
          goOn
        | .exchange =>
          set { machine with
            space := machine.hold, ended := machine.holdEnded
            hold := machine.space, holdEnded := machine.ended }
          goOn
        | .clear =>
          set { machine with space := [] }
          goOn
        | .display width =>
          emitText (machine.marked (visible (width.getD machine.width) machine.space))
          goOn
        | .next =>
          if ← isLast then return .done
          let machine ← get
          if !machine.silent then emit mainOutput machine.space machine.ended
          flushAppended
          if ← readSpace false then goOn else return .deleted
        | .nextMore =>
          if ← isLast then return .done
          flushAppended
          if ← readSpace true then goOn else return .done
        | .print =>
          emit mainOutput machine.space machine.ended
          goOn
        | .printFirst =>
          emit mainOutput (firstLine machine.mark machine.space) machine.firstEnded
          goOn
        | .quit status => return .quits status true
        | .quitSilently status => return .quits status false
        | .readFile name =>
          set { machine with appended := .file name :: machine.appended }
          goOn
        | .readLine name =>
          set { machine with appended := .line name :: machine.appended }
          goOn
        | .substitute change =>
          let expression ← meant change.pattern
          let text := machine.space.toArray
          let (result, done) := substituteFrom change expression text (text.size + 2) 0 none 0 [] false
          if done then
            modify fun machine => { machine with space := result, replaced := true }
            let machine ← get
            if change.prints then emit mainOutput machine.space machine.ended
            if let some output := change.output then emit output machine.space machine.ended
          goOn
        | .translate table =>
          set { machine with space := machine.space.map fun c => (table.lookup c).getD c }
          goOn
        | .write name =>
          emit name machine.space machine.ended
          goOn
        | .writeFirst name =>
          emit name (firstLine machine.mark machine.space) machine.firstEnded
          goOn

/-- Goes through the lines of the input; `reads` unless the script starts again. -/
def cycle : Nat → Bool → Edit Unit
  | 0, _ => return
  | fuel + 1, reads => do
    if reads then
      if !(← readSpace false) then return
    match ← run Program.manySteps 0 with
    | .done =>
      let machine ← get
      if !machine.silent then emit mainOutput machine.space machine.ended
      flushAppended
      cycle fuel true
    | .deleted =>
      flushAppended
      cycle fuel true
    | .again =>
      flushAppended
      cycle fuel false
    | .quits status writes =>
      let machine ← get
      if writes then
        if !machine.silent then emit mainOutput machine.space true
        flushAppended
      let machine ← get
      if let some feed := machine.feed then
        if machine.inPlace.isSome then
          let (rest, _) ← lift feed.all
          writeTo mainOutput rest
          replaceFile
        else lift feed.giveBack
      lift (exit status)

/-! ## The tool -/

inductive Piece where
  | expression (text : Bytes)
  | file (name text : Bytes)

def Piece.text : Piece → Bytes
  | .expression text => text
  | .file _ text => text

structure Style where
  pieces : List Piece := []
  (silent extended separate : Bool := false)
  inPlace : Option Bytes := none
  zero : Bool := false
  width : Nat := 70

def manual : Manual :=
  (Manual.make "bsnrzuEe:f:l:i::V:h" [("quiet", "n"), ("silent", "n"), ("expression", "e"), ("file", "f"),
    ("in-place", "i"), ("line-length", "l"), ("null-data", "z"), ("zero-terminated", "z"),
    ("regexp-extended", "E"), ("separate", "s"), ("unbuffered", "u"), ("binary", "b")]).named
    [("posix", .never), ("debug", .never), ("sandbox", .never), ("follow-symlinks", .never)]

def Style.set (style : Style) (name : String) (value : Bytes) : Work Style := do
  match name with
  | "n" => return { style with silent := true }
  | "e" => return { style with pieces := style.pieces ++ [.expression value] }
  | "f" =>
    match ← openInput value with
    | .error cause =>
      abort ("couldn't open file " ++ value ++ ": " ++ causeText cause) 4
    | .ok fd =>
      let (text, _) ← Feed.all { fd }
      closeInput fd
      return { style with pieces := style.pieces ++ [.file value text] }
  | "E" => return { style with extended := true }
  | "r" => return { style with extended := true }
  | "s" => return { style with separate := true }
  | "i" => return { style with inPlace := some value, separate := true }
  | "z" => return { style with zero := true }
  | "l" => return { style with width := (natural? value).getD 70 }
  | _ => return style

def joinPieces : List Piece → List Piece
  | .expression first :: .expression second :: rest =>
    if (first.reverse.takeWhile (· = '\\')).length % 2 = 1 then
      joinPieces (.expression (first ++ '\n' :: second) :: rest)
    else .expression first :: joinPieces (.expression second :: rest)
  | piece :: rest => piece :: joinPieces rest
  | [] => []
termination_by pieces => pieces.length

/-- Where something is in the pieces of a script: by the number of the expression, or by the
line of the file. -/
def whereabouts (pieces : List Piece) (index place : Nat) (isBlock : Bool) : Bytes :=
  match pieces[index]? with
  | some (.file name text) =>
    "file " ++ name ++ " line " ++
      decimal ((text.take place).count '\n' + 1) ++ ": "
  | _ =>
    let number := (pieces.take (index + 1)).countP fun piece =>
      match piece with
      | .expression _ => true
      | .file .. => false
    "-e expression #" ++ decimal number ++ ", char " ++
      decimal (if isBlock then 0 else place) ++ ": "

def readPieces (extended : Bool) (pieces : List Piece) : Nat → Nat → Scan → Work Scan
  | 0, _, scan => return scan
  | left + 1, index, scan => do
    let text := (pieces[index]?.map Piece.text).getD []
    match readPiece { extended } text { scan with piece := index } with
    | .ok scan => readPieces extended pieces left (index + 1) scan
    | .error ⟨text, none⟩ => abort text 4
    | .error ⟨text, some place⟩ => abort (whereabouts pieces index place false ++ text) 1

def outputsOf (commands : List Command) : List Bytes :=
  (commands.filterMap fun command =>
    match command.action with
    | .write name => some name
    | .writeFirst name => some name
    | .substitute change => change.output
    | _ => none).eraseDups

def targetOf (command : Command) : Bytes :=
  match command.action with
  | .branch name => name
  | .branchIf name => name
  | .branchUnless name => name
  | _ => []

def closing : Closing :=
  { status := 4
    texts := fun cause _ =>
      [(if cause = .badDescriptor then "couldn't close stdout: " else "couldn't flush stdout: ") ++
        cause.text] }

def tool : Tool := makeClosing closing fun words => do
  let (style, operands) ← manual.heed words ({} : Style) Style.set
  let (pieces, names) ←
    if style.pieces.isEmpty then
      match operands with
      | script :: names => pure ([Piece.expression script], names)
      | [] =>
        exit 1
    else pure (style.pieces, operands)
  let pieces := joinPieces pieces
  let firstText := (pieces.head?.map Piece.text).getD []
  let silent := style.silent || firstText.takeWhile (· ≠ '\n') = "#n"
  let scan ← readPieces style.extended pieces pieces.length 0 { rest := [] }
  if let some block := scan.blocks.head? then
    abort (whereabouts pieces block.piece block.place true ++ "unmatched \x60\x7b'") 1
  let commands := scan.commands.reverse
  for command in commands do
    let target := targetOf command
    if !target.isEmpty && (labelPlace? commands.toArray target).isNone then
      abort ("can't find label for jump to \x60" ++ target ++ ['\'']) 4
  let openOutput := fun (outputs : List (Bytes × Nat)) (name : Bytes) => do
    if name = "/dev/stdout" then return outputs
    if name = "/dev/stderr" then return (name, 2) :: outputs
    match ← ask (.openFile name .output 438) with
    | .ok fd => return (name, fd) :: outputs
    | .error cause =>
      abort ("couldn't open file " ++ name ++ ": " ++ causeText cause) 4
  let outputs ← (outputsOf commands).foldlM openOutput []
  if style.inPlace.isSome && names.isEmpty then abort "no input files" 4
  let view ← look
  if (view.files.lookup 1).isNone then
    modify fun bench => { bench with broken := some .badDescriptor }
  let machine : Machine :=
    { commands := commands.toArray
      silent
      separate := style.separate
      mark := if style.zero then '\x00' else '\n'
      width := style.width
      inPlace := style.inPlace
      ranges := Array.replicate commands.length .inactive
      names := inputs names
      outputs
      finale := whereabouts pieces (pieces.length - 1) ((pieces.getLast?.map (·.text.length)).getD 0) true }
  let _ ← (cycle Program.manySteps true).run machine

end Retrace.Tool.Sed
