import Retrace.Tool.Find.Query
import Retrace.Tool.Listing
import Retrace.Tool.Spawn

/-!
# Searching for files

Goes through directories and all below them, and puts a query to every file.
-/

namespace Retrace.Tool.Find

open Unix Regex Text

structure Found where
  path : Bytes
  top : Bytes
  depth : Nat
  inode : Nat
  held : Inode

structure Walk where
  started : Nat
  plan : Plan
  query : Query
  collected : List (Nat × Bytes) := []
  (pruned quits : Bool := false)

abbrev Searching := StateT Walk Work

def lift (work : Work α) : Searching α := StateT.lift work

def kindLetter (held : Inode) : Char :=
  let letter := (Listing.kindOf held).1
  if letter = '-' then 'f' else letter

def linkCount (view : View) (found : Found) : Nat :=
  match found.held.body with
  | .dir _ entries => 2 + (entries.filter fun (_, inode) => view.volume.isDir inode).length
  | _ => max 1 (view.volume.names found.inode)

/-! ## Formats -/

def dirOf (path : Bytes) : Bytes :=
  if path.contains '/' then ((path.reverse.dropWhile (· ≠ '/')).drop 1).reverse else ['.']

def padded (flags text : Bytes) : Bytes :=
  let left := flags.contains '-'
  let width := digitsValue (flags.filter Char.isDigit)
  if left then padRight width text else padLeft width text

def formatPart? (view : View) (found : Found) (c : Char) : Option Bytes :=
  match c with
  | 'p' => some found.path
  | 'f' => some (Removal.lastName found.path)
  | 'h' => some (dirOf found.path)
  | 'H' => some found.top
  | 'P' => some ((found.path.drop found.top.length).dropWhile (· = '/'))
  | 's' => some (decimal found.held.body.size)
  | 'b' => some (decimal (Listing.blocksOf found.held * 2))
  | 'k' => some (decimal (Listing.blocksOf found.held))
  | 'd' => some (decimal found.depth)
  | 'm' => some (Nat.toDigits 8 found.held.mode)
  | 'M' => some ((Listing.kindOf found.held).1 :: Mode.letters found.held.mode)
  | 'n' => some (decimal (linkCount view found))
  | 'i' => some (decimal (found.inode + 1000))
  | 'u' => some "root"
  | 'g' => some "root"
  | 'U' => some ['0']
  | 'G' => some ['0']
  | 'y' => some [kindLetter found.held]
  | 'Y' =>
    match view.status found.path true with
    | .ok (_, held) => some [kindLetter held]
    | .error _ => some ['N']
  | 'l' =>
    match found.held.body with
    | .link target => some target
    | _ => some []
  | 't' => some (Calendar.format found.held.changed "%a %b %e %H:%M:%S.%N0 %Y")
  | '%' => some ['%']
  | _ => none

def escapeOf? : Char → Option Char
  | 'a' => some '\x07'
  | 'b' => some '\x08'
  | 'f' => some '\x0c'
  | 'n' => some '\n'
  | 'r' => some '\r'
  | 't' => some '\t'
  | 'v' => some '\x0b'
  | '0' => some '\x00'
  | '\\' => some '\\'
  | _ => none

def formatted (view : View) (found : Found) : Nat → Bytes → Bytes × Bytes
  | 0, _ => ([], [])
  | _, [] => ([], [])
  | fuel + 1, '\\' :: c :: rest =>
    match escapeOf? c with
    | some escaped =>
      let (text, unknown) := formatted view found fuel rest
      (escaped :: text, unknown)
    | none =>
      if c = 'c' then ([], [])
      else
        let (text, unknown) := formatted view found fuel rest
        ('\\' :: c :: text, unknown)
  | fuel + 1, '%' :: rest =>
    let flags := rest.takeWhile fun c => c.isDigit || c = '-' || c = '0' || c = ' ' || c = '+' || c = '#'
    match rest.drop flags.length with
    | 'T' :: c :: rest =>
      let (text, unknown) := formatted view found fuel rest
      let time := if c = '@' then Calendar.format found.held.changed "%s.%N0"
        else Calendar.format found.held.changed (String.ofList ['%', c])
      (padded flags time ++ text, unknown)
    | c :: rest =>
      let (text, unknown) := formatted view found fuel rest
      match formatPart? view found c with
      | some part => (padded flags part ++ text, unknown)
      | none => ('%' :: c :: text, c :: unknown)
    | [] => (['%'], [])
  | fuel + 1, c :: rest =>
    let (text, unknown) := formatted view found fuel rest
    (c :: text, unknown)

def listed (view : View) (found : Found) : Bytes :=
  let target := match found.held.body with
    | .link target => " -> " ++ target
    | _ => []
  padLeft 9 (decimal (found.inode + 1000)) ++ ' ' ::
    padLeft 6 (decimal (Listing.blocksOf found.held)) ++ ' ' :: (Listing.kindOf found.held).1 ::
    Mode.letters found.held.mode ++ ' ' :: padLeft 3 (decimal (linkCount view found)) ++
    " root     root     " ++ padLeft 8 (decimal found.held.body.size) ++ ' ' ::
    Listing.timeText view.now found.held.changed ++ ' ' :: found.path ++ target ++ ['\n']

/-! ## Commands -/

/-- A word with a path in every place that is kept for one. What is still to be passed over has
been replaced. -/
def filled (path : Bytes) : Bool → Bytes → Bytes
  | _, [] => []
  | true, _ :: rest => filled path false rest
  | false, c :: rest =>
    if c = '\x7b' && rest.head? = some '\x7d' then path ++ filled path true rest
    else c :: filled path false rest

def runCommand (exec : Exec) (words : List Bytes) (dir : Option Bytes) : Work Ending := do
  let bench ← get
  let child ← fork do
    if let some dir := dir then
      let view ← Program.look
      if let .ok inode := view.volume.find view.cwd dir true then Program.ask (.enterDir inode)
    let cause ← Exec.named exec words bench.env
    Program.say 2 (bench.name ++ ": " ++ Quoted.name (words.headD []) ++ ": " ++
      causeText cause ++ ['\n'])
    return .exited 1
  await child

def insidePath (path : Bytes) : Bytes := "./" ++ Removal.lastName path

def Run.perform (run : Run) (exec : Exec) (path : Bytes) : Work Bool := do
  let shownPath := if run.inside then insidePath path else path
  let words := run.words.map (filled shownPath false)
  if run.asks then
    flush
    interject ("< " ++ run.words.headD [] ++ " ... " ++ path ++ " > ? ")
    let (line, feed) ← Feed.line { fd := 0, block := 1 } '\n'
    feed.giveBack
    if !(line.bind (·.head?)).any (fun c => c = 'y' || c = 'Y') then return false
  return (← runCommand exec words (if run.inside then some (dirOf path) else none)) = .exited 0

def finishRuns (exec : Exec) (walk : Walk) : Work Unit := do
  for (run, id) in walk.plan.commands.zipIdx do
    let paths := (walk.collected.filter (·.1 = id)).map (·.2)
    if !paths.isEmpty then
      let paths := paths.reverse
      if run.inside then
        for dir in (paths.map dirOf).eraseDups do
          let inDir := paths.filter fun path => dirOf path = dir
          if (← runCommand exec (run.words ++ inDir.map insidePath) (some dir)) ≠ .exited 0 then fail 1
      else if (← runCommand exec (run.words ++ paths) none) ≠ .exited 0 then fail 1

/-! ## The search -/

def isEmpty (held : Inode) : Bool :=
  match held.body with
  | .file content => content.isEmpty
  | .dir _ entries => entries.isEmpty
  | _ => false

def Test.answer (exec : Exec) (found : Found) : Test → Searching Bool
  | .name pattern folds =>
    let name := Removal.lastName found.path
    let name := if name.isEmpty then found.path.take 1 else name
    return Shell.Glob.fits pattern (if folds then name.map Char.toLower else name)
  | .path pattern folds =>
    return Shell.Glob.fits pattern (if folds then found.path.map Char.toLower else found.path)
  | .regex expression =>
    let text := found.path.toArray
    return (expression.matchAt? text 0).any (·.stop = text.size)
  | .kind letters through => do
    let view ← lift look
    let follows := (← get).plan.follows
    let held := if through then
        match view.status found.path (!follows) with
        | .ok (_, held) => held
        | .error _ => found.held
      else found.held
    return letters.contains (kindLetter held)
  | .size count unit => return count.fits ((found.held.body.size + unit - 1) / unit)
  | .empty => return isEmpty found.held
  | .newer time => return time < found.held.changed
  | .age count unit => do
    let elapsed := (← get).started - found.held.changed
    return count.fits (if unit = 60000000 then (elapsed + unit - 1) / unit else elapsed / unit)
  | .mode bits asked =>
    let mode := found.held.mode
    match asked with
    | .exactly => return mode = bits
    | .all => return mode &&& bits = bits
    | .any => return bits = 0 || mode &&& bits ≠ 0
  | .links count => do return count.fits (linkCount (← lift look) found)
  | .number count => return count.fits (found.inode + 1000)
  | .same inode => return found.inode = inode
  | .target pattern folds =>
    match found.held.body with
    | .link aim => return Shell.Glob.fits pattern (if folds then aim.map Char.toLower else aim)
    | _ => return false
  | .executable => return found.held.isExecutable
  | .constant answer => return answer
  | .print mark => do
    lift (out (found.path ++ [mark]))
    return true
  | .printTo fd mark => do
    let _ ← lift (perform (Program.write fd (found.path ++ [mark])))
    return true
  | .format pattern => do
    let (text, _) := formatted (← lift look) found (pattern.length + 1) pattern
    lift (out text)
    return true
  | .list => do
    lift (out (listed (← lift look) found))
    return true
  | .run command => lift (command.perform exec found.path)
  | .collect id => do
    modify fun walk => { walk with collected := (id, found.path) :: walk.collected }
    return true
  | .delete => do
    if found.path = ['.'] then return true
    let result ← lift (match found.held.body with
      | .dir .. => Removal.removeDirPath found.path
      | _ => Removal.unlinkPath found.path)
    match result with
    | .ok _ => return true
    | .error cause =>
      lift (complain ("cannot delete " ++ Quoted.name found.path ++ ": " ++
        causeText cause) 1)
      return false
  | .prune => do
    modify fun walk => { walk with pruned := true }
    return true
  | .quit => do
    modify fun walk => { walk with quits := true }
    return true

def Query.answer (exec : Exec) (found : Found) : Query → Searching Bool
  | .test asked => do if (← get).quits then return false else asked.answer exec found
  | .not query => return !(← query.answer exec found)
  | .both first second => do
    if ← first.answer exec found then second.answer exec found else return false
  | .either first second => do
    if ← first.answer exec found then return true else second.answer exec found
  | .sequence first second => do
    let _ ← first.answer exec found
    second.answer exec found

def visit (exec : Exec) (found : Found) : Searching Unit := do
  let walk ← get
  if walk.plan.least ≤ found.depth then
    let _ ← walk.query.answer exec found

def search (exec : Exec) : Nat → Found → Searching Unit
  | 0, _ => return
  | fuel + 1, found => do
    let plan := (← get).plan
    modify fun walk => { walk with pruned := false }
    if !plan.childrenFirst then visit exec found
    let walk ← get
    if walk.quits then return
    if !walk.pruned && plan.most.all (found.depth < ·) then
      if let .dir .. := found.held.body then
        let view ← lift look
        for (name, inode) in view.volume.entries found.inode do
          if !(← get).quits then
            let path := Exec.under found.path name
            let now ← lift look
            let below := if plan.follows then (now.status path true).toOption.or (now.status path false).toOption
              else (now.volume.get? inode).map fun held => (inode, held)
            if let some (inode, held) := below then
              search exec fuel { found with path, depth := found.depth + 1, inode, held }
    if plan.childrenFirst && !(← get).quits then visit exec found

def startsQuery (word : Bytes) : Bool :=
  match word with
  | ['('] => true
  | ['!'] => true
  | '-' :: _ :: _ => true
  | _ => false

def leading : List Bytes → Plan → Plan × List Bytes
  | word :: rest, plan =>
    match String.ofList word with
    | "-L" => leading rest { plan with follows := true }
    | "-H" => leading rest { plan with followsTop := true, follows := false }
    | "-P" => leading rest { plan with followsTop := false, follows := false }
    | "--" => (plan, rest)
    | name => if name.startsWith "-O" then leading rest plan else (plan, word :: rest)
  | [], plan => (plan, [])

/-- That the output could not be written is told of twice. -/
def closing : Closing :=
  { texts := fun cause early =>
      ("'standard output': " ++ cause.text) :: Closing.forgetful.texts cause early }

def tool (exec : Exec) : Tool := makeClosing closing fun words => do
  let (plan, words) := leading words {}
  let paths := words.takeWhile fun word => !startsQuery word
  let words := words.drop paths.length
  if words = [ofString "--help"] || words = [ofString "--version"] || words = [ofString "-version"] then exit 0
  let plan ← Plan.read (words.length + 1) words plan
  let query ← plan.query
  let query := if plan.acts then query else .both query (.test (.print '\n'))
  for token in plan.tokens do
    if let .test _ (.format text) := token then
      let sample : Found := { path := [], top := [], depth := 0, inode := 0, held := ⟨.pipe, 0, 0⟩ }
      let (_, unknown) := formatted (← look) sample (text.length + 1) text
      for c in unknown do
        warn (ofString "warning: unrecognized format directive " ++ shown ['%', c])
  let start : Walk := { started := (← look).now, plan, query }
  let searchAll : Searching Unit := do
    for path in (if paths.isEmpty then [['.']] else paths) do
      if !(← get).quits then
        let view ← lift look
        match view.status path (plan.follows || plan.followsTop) with
        | .error cause =>
          lift (complain (Quoted.name path ++ ofString ": " ++ causeText cause) 1)
        | .ok (inode, held) => search exec 1000 { path, top := path, depth := 0, inode, held }
  let (_, walk) ← searchAll.run start
  finishRuns exec walk

end Retrace.Tool.Find
