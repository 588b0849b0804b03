import Retrace.Shell.Pattern
import Retrace.Tool.Calendar
import Retrace.Tool.Copying
import Retrace.Tool.Sort

/-!
# Listing directories
-/

namespace Retrace.Tool.Listing

open Unix Text

inductive SortBy where
  | name
  | time
  | size
  | suffix
  | version
  | nothing
  deriving DecidableEq

structure Style where
  /-- Which names with a point in front are shown: all, all but the two of the directory itself,
  or none. -/
  all : Bool := false
  (long almostAll bare recursive : Bool := false)
  sortBy : SortBy := .name
  (reversed marks slashes plainFiles numbers blocks inodes noOwner noGroup follow hidesBackups :
    Bool := false)
  ignored : List Bytes := []
  dirsFirst : Bool := false

structure Entry where
  name : Bytes
  inode : Nat
  held : Inode

def Entry.isDir (entry : Entry) : Bool :=
  match entry.held.body with
  | .dir .. => true
  | _ => false

def kindOf (held : Inode) : Char × Bytes :=
  match held.body with
  | .dir .. => ('d', ['/'])
  | .link _ => ('l', ['@'])
  | .pipe => ('p', ['|'])
  | .device _ => ('c', [])
  | .file _ => ('-', if held.mode &&& 73 ≠ 0 then ['*'] else [])

variable (style : Style)

def Entry.text (entry : Entry) : Bytes :=
  entry.name ++
    if style.marks && !(style.plainFiles && (kindOf entry.held).1 = '-') then (kindOf entry.held).2
    else if style.slashes && entry.isDir then ['/']
    else []

def blocksOf (held : Inode) : Nat :=
  match held.body with
  | .dir .. => 4
  | .file content => (content.size + 4095) / 4096 * 4
  | _ => 0

def suffixOf (name : Bytes) : Bytes :=
  if name.contains '.' then '.' :: (name.reverse.takeWhile (· ≠ '.')).reverse else []

def Style.before (a b : Entry) : Bool :=
  let byName := Sort.compareText a.name b.name
  let found := match style.sortBy with
    | .name => byName
    | .time => (Sort.compareNat b.held.changed a.held.changed).then byName
    | .size => (Sort.compareNat b.held.body.size a.held.body.size).then byName
    | .suffix => (Sort.compareText (suffixOf a.name) (suffixOf b.name)).then byName
    | .version => (Sort.compareVersion a.name b.name).then byName
    | .nothing => .eq
  let found := if style.reversed && style.sortBy ≠ .nothing then found.swap else found
  if style.dirsFirst && a.isDir != b.isDir then a.isDir else found ≠ .gt

def Style.sort (entries : List Entry) : List Entry :=
  if style.sortBy = .nothing then if style.reversed then entries.reverse else entries
  else entries.mergeSort style.before

/-! ## Lines -/

/-- When a file was changed: the time of day if that is not long ago, else the year. -/
def timeText (now changed : Nat) : Bytes :=
  let recent := changed ≤ now && now < changed + 15778476000000
  Calendar.format changed (if recent then "%b %e %H:%M" else "%b %e  %Y")

def deviceText : Device → Bytes
  | .null => "1, 3"
  | .zero => "1, 5"
  | .full => "1, 7"
  | .random => "1, 8"
  | .terminal => "5, 0"

def longColumns (view : View) (entry : Entry) : List Bytes :=
  let links := match entry.held.body with
    | .dir _ entries => 2 + (entries.filter fun (_, inode) => view.volume.isDir inode).length
    | _ => max 1 (view.volume.names entry.inode)
  let size := match entry.held.body with
    | .device kind => deviceText kind
    | body => decimal body.size
  let root := if style.numbers then ['0'] else "root"
  [(kindOf entry.held).1 :: Mode.letters entry.held.mode, decimal links] ++
    (if style.noOwner then [] else [root]) ++ (if style.noGroup then [] else [root]) ++ [size]

def longLines (view : View) (entries : List Entry) : Bytes :=
  let table := entries.map (longColumns style view)
  let widths := (List.range 6).map fun n => (table.map fun row => (row[n]?.getD []).length).foldl max 0
  let isNumber := fun (n : Nat) (row : List Bytes) => n = 1 || n + 1 = row.length
  let line := fun (entry : Entry) (row : List Bytes) =>
    let cells := row.zipIdx.map fun (cell, n) =>
      let width := widths[n]?.getD 0
      if isNumber n row then padLeft width cell else padRight width cell
    let target := match entry.held.body with
      | .link target => " -> " ++ target
      | _ => []
    let name := entry.name ++ (if target.isEmpty then
      (if style.marks then (kindOf entry.held).2 else if style.slashes && entry.isDir then ['/'] else [])
      else target)
    joined ' ' cells ++ ' ' :: timeText view.now entry.held.changed ++ ' ' :: name ++ ['\n']
  (entries.zip table).flatMap fun (entry, row) => line entry row

def withNumbers (entries : List Entry) : List Bytes :=
  let blocks := entries.map fun entry => decimal (blocksOf entry.held)
  let inodes := entries.map fun entry => decimal (entry.inode + 1000)
  let width := fun texts : List Bytes => (texts.map List.length).foldl max 0
  (entries.zip (blocks.zip inodes)).map fun (entry, block, inode) =>
    (if style.inodes then padLeft (width inodes) inode ++ [' '] else []) ++
    (if style.blocks then padLeft (width blocks) block ++ [' '] else []) ++ entry.text style

def show' (entries : List Entry) : Work Unit := do
  if style.long then out (longLines style (← look) entries)
  else out ((withNumbers style entries).flatMap (· ++ ['\n']))

/-! ## Directories -/

def Style.hides (name : Bytes) : Bool :=
  (name.head? = some '.' && !style.all && !style.almostAll) ||
    (style.hidesBackups && name.getLast? = some '~') ||
    style.ignored.any fun pattern => Shell.Glob.fits (Shell.Glob.ofText pattern) name

def entriesOf (view : View) (path : Bytes) (dir : Nat) : List Entry :=
  let own := if style.all then [(['.'], dir), (['.', '.'], view.volume.parent dir)] else []
  let listed := own ++ (view.volume.entries dir).filter fun (name, _) => !style.hides name
  listed.filterMap fun (name, inode) => do
    let (inode, held) ← if style.follow then (view.status (Exec.under path name) true).toOption
      else (view.volume.get? inode).map (inode, ·)
    return { name, inode, held }

def directory (style : Style) : Nat → Bool → Bool → Bytes → Work Unit
  | 0, _, _, _ => return
  | depth + 1, headed, first, path => do
    let view ← look
    match view.status path true with
    | .error cause =>
      complain ("cannot open directory " ++ Quoted.name path ++ ": " ++ causeText cause) 2
    | .ok (dir, _) =>
      if headed then out ((if first then [] else ['\n']) ++ path ++ [':', '\n'])
      let entries := style.sort (entriesOf style view path dir)
      if style.long || style.blocks then
        let total := (entries.map fun entry => blocksOf entry.held).foldl (· + ·) 0
        out ("total " ++ decimal total ++ ['\n'])
      show' style entries
      if style.recursive then
        for entry in entries do
          if entry.isDir && entry.name ≠ ['.'] && entry.name ≠ ['.', '.'] then
            directory style depth true false (Exec.under path entry.name)

def whenever : List (List String) :=
  [["always", "yes", "force"], ["never", "no", "none"], ["auto", "tty", "if-tty"]]

def Style.marked (name : String) : Style :=
  { style with
    marks := name = "classify" || name = "file-type", plainFiles := name = "file-type"
    slashes := name = "slash" }

def Style.set (name : String) (value : Bytes) : Work Style := do
  match name with
  | "a" => return { style with all := true }
  | "A" => return { style with almostAll := true }
  | "B" => return { style with hidesBackups := true }
  | "d" => return { style with bare := true }
  | "f" => return { style with all := true, sortBy := .nothing }
  | "F" => return style.marked "classify"
  | "classify" =>
    let value := if value.isEmpty then ofString "always" else value
    let choice ← choose "--classify" whenever value
    return if choice = "always" then style.marked "classify" else style
  | "file-type" => return style.marked name
  | "indicator-style" =>
    return style.marked (← choose "--indicator-style" [["none"], ["slash"], ["file-type"], ["classify"]] value)
  | "color" =>
    let _ ← choose "--color" whenever (if value.isEmpty then "always" else value)
    return style
  | "g" => return { style with long := true, noOwner := true }
  | "G" => return { style with noGroup := true }
  | "i" => return { style with inodes := true }
  | "I" => return { style with ignored := value :: style.ignored }
  | "hide" => return { style with ignored := value :: style.ignored }
  | "l" => return { style with long := true }
  | "L" => return { style with follow := true }
  | "n" => return { style with long := true, numbers := true }
  | "o" => return { style with long := true, noGroup := true }
  | "p" => return style.marked "slash"
  | "r" => return { style with reversed := true }
  | "R" => return { style with recursive := true }
  | "s" => return { style with blocks := true }
  | "S" => return { style with sortBy := .size }
  | "t" => return { style with sortBy := .time }
  | "U" => return { style with sortBy := .nothing }
  | "v" => return { style with sortBy := .version }
  | "X" => return { style with sortBy := .suffix }
  | "group-directories-first" => return { style with dirsFirst := true }
  | "sort" =>
    match ← choose "--sort" [["none"], ["time"], ["size"], ["extension"], ["version"], ["width"]] value with
    | "none" => return { style with sortBy := .nothing }
    | "size" => return { style with sortBy := .size }
    | "time" => return { style with sortBy := .time }
    | "version" => return { style with sortBy := .version }
    | "extension" => return { style with sortBy := .suffix }
    | _ => return { style with sortBy := .name }
  | _ => return style

def manual : Manual :=
  (Manual.make "abcdfghiklmnopqrstuvw:xABCDFGHI:LNQRST:UXZ1" [("all", "a"), ("almost-all", "A"),
    ("escape", "b"), ("ignore-backups", "B"), ("directory", "d"), ("no-group", "G"),
    ("human-readable", "h"), ("inode", "i"), ("ignore", "I"), ("dereference", "L"),
    ("numeric-uid-gid", "n"), ("literal", "N"), ("quote-name", "Q"), ("reverse", "r"),
    ("recursive", "R"), ("size", "s"), ("tabsize", "T"), ("width", "w"), ("hide-control-chars", "q"),
    ("kibibytes", "k")] 2).named
    [("classify", .maybe), ("color", .maybe), ("group-directories-first", .never), ("hide", .always),
      ("sort", .always), ("time", .always), ("time-style", .always), ("full-time", .never),
      ("format", .always), ("indicator-style", .always), ("quoting-style", .always), ("si", .never),
      ("author", .never), ("show-control-chars", .never), ("block-size", .always),
      ("dereference-command-line", .never), ("dereference-command-line-symlink-to-dir", .never),
      ("file-type", .never), ("hyperlink", .maybe), ("zero", .never)]

def list (names : List Bytes) : Work Unit := do
  let view ← look
  let linksStay := !style.follow && (style.bare || style.marks || style.long)
  let step := fun (found : List Entry) (name : Bytes) => do
    let status := if linksStay then view.status name false
      else match view.status name true with
        | .ok (inode, held) =>
          if style.follow || view.volume.isDir inode then .ok (inode, held) else view.status name false
        | .error cause =>
          if style.follow then .error cause else view.status name false
    match status with
    | .ok (inode, held) => return { name, inode, held } :: found
    | .error cause =>
      complain ("cannot access " ++ Quoted.name name ++ ": " ++ causeText cause) 2
      return found
  let found := (← names.foldlM step []).reverse
  let (dirs, files) := found.partition fun entry => entry.isDir && !style.bare
  let files := style.sort files
  if !files.isEmpty then show' style files
  let headed := 1 < names.length || style.recursive
  for (dir, n) in (style.sort dirs).zipIdx do
    directory style 1000 headed (files.isEmpty && n = 0) dir.name

def ls (long : Bool) : Tool := makeClosing (.failing 2) fun words => do
  let (style, names) ← manual.heed words ({ long } : Style) Style.set
  list style (if names.isEmpty then [['.']] else names)

end Retrace.Tool.Listing
