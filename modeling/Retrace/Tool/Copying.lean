import Retrace.Tool.Paths

/-!
# Copying, moving and linking files
-/

namespace Retrace.Tool.Copying

open Unix

structure Style where
  recursive : Bool := false
  follows : Option Bool := none
  (force asks keeps updates preserves verbose hardLinks symbolic backs parents : Bool := false)
  target : Option Bytes := none
  /-- The last operand is not taken for a directory to copy to. -/
  plain : Bool := false
  (removes linkAsFile : Bool := false)
  mode : Option Bytes := none

abbrev Made := List (Bytes × Nat)

inductive Aim where
  | into (dir : Bytes)
  | to (path : Bytes)

def unslashed (path : Bytes) : Bytes :=
  let cut := (path.reverse.dropWhile (· = '/')).reverse
  if cut.isEmpty then path.take 1 else cut

variable (style : Style)

def aim (names : List Bytes) : Work (Aim × List Bytes) := do
  let isTarget := fun (view : View) (path : Bytes) =>
    view.isDir path && !(style.linkAsFile && match view.body? path false with
      | some (.link _) => true
      | _ => false)
  match style.target with
  | some dir =>
    if names.isEmpty then misuse "missing file operand" 1
    let view ← look
    match view.status dir true with
    | .error cause =>
      abort ("target directory " ++ Quoted.name dir ++ ": " ++ causeText cause) 1
    | .ok _ =>
      if !view.isDir dir then
        abort ("target directory " ++ Quoted.name dir ++ ": Not a directory") 1
      return (.into dir, names)
  | none =>
    match names with
    | [] => misuse "missing file operand" 1
    | [only] =>
      misuse ("missing destination file operand after " ++ Quoted.name only) 1
    | _ =>
      let last := names.getLastD []
      let files := names.dropLast
      if style.plain then
        if let some extra := names[2]? then
          misuse ("extra operand " ++ Quoted.name extra) 1
        return (.to last, files)
      let view ← look
      if isTarget view last then return (.into last, files)
      if 1 < files.length then
        let cause := match view.status last true with
          | .error cause => cause
          | .ok _ => .notDirectory
        abort ("target " ++ Quoted.name last ++ ": " ++ causeText cause) 1
      return (.to last, files)

def Aim.place (aim : Aim) (style : Style) (source : Bytes) : Bytes :=
  match aim with
  | .to path => path
  | .into dir =>
    if style.parents then Exec.under dir source
    else
      let name := Removal.lastName source
      Exec.under dir (if name = ['.', '.'] then ['.'] else name)

def tell (verb : String) (source place : Bytes) : Work Unit :=
  out (ofString verb ++ Quoted.name source ++ " -> " ++ Quoted.name place ++ ['\n'])

def back (place : Bytes) : Work Unit := do
  if style.backs && (← look).pathExists place false then
    let _ ← ask (.change fun view =>
      view.volume.rename view.now view.cwd place (unslashed place ++ ['~']))

def keepStatus (place : Bytes) (held : Inode) : Work Unit := do
  let _ ← ask (.change fun view =>
    match view.volume.find view.cwd place false with
    | .ok inode => .ok ((view.volume.setMode inode held.mode).setChanged inode held.changed)
    | .error cause => .error cause)

def transfer (source target : Nat) : Nat → Work (Except OsError Unit)
  | 0 => return .ok ()
  | fuel + 1 => do
    match ← ask (.read source 131072) with
    | .ok [] => return .ok ()
    | .ok text =>
      match ← perform (Program.write target text) with
      | .ok _ => transfer source target fuel
      | .error cause => return .error cause
    | .error .interrupted => transfer source target fuel
    | .error cause => return .error cause

def copyContent (source place : Bytes) (held : Inode) : Work Bool := do
  match ← ask (.openFile source .input 0) with
  | .error cause =>
    complain ("cannot open " ++ Quoted.name source ++ " for reading: " ++
      causeText cause) 1
    return false
  | .ok input =>
    let view ← look
    if style.removes && view.pathExists place false then
      let _ ← Removal.unlinkPath place
    let view ← look
    let opened ← if !view.pathExists place true && view.pathExists place false then do
        complain ("not writing through dangling symlink " ++ Quoted.name place) 1
        pure none
      else do
        let isNew := !view.pathExists place true
        match ← ask (.openFile place .output (if isNew then held.mode &&& 511 else 438)) with
        | .ok output => pure (some output)
        | .error cause =>
          let cause := if place.getLast? = some '/' && isNew && cause = .isDirectory then .notDirectory
            else cause
          complain ("cannot create regular file " ++ Quoted.name place ++ ": " ++
            causeText cause) 1
          pure none
    match opened with
    | none =>
      close input
      return false
    | some output =>
      let result ← transfer input output Program.manySteps
      close input
      close output
      match result with
      | .ok _ =>
        if style.preserves then keepStatus place held
        return true
      | .error cause =>
        complain ("error reading " ++ Quoted.name source ++ ": " ++ causeText cause) 1
        return false

def mayReplace (held : Inode) (place : Bytes) : Work Bool := do
  match (← look).status place true with
  | .error _ => return true
  | .ok (_, old) =>
    if style.keeps then return false
    if style.updates && held.changed ≤ old.changed then return false
    if style.asks then
      if ← Removal.confirm ("overwrite " ++ Quoted.name place) then return true
      fail 1
      return false
    return true

def copy (style : Style) : Nat → Made → Bytes → Bytes → Work Made
  | 0, made, _, _ => return made
  | depth + 1, made, source, place => do
    let follows := style.follows.getD (!style.recursive || style.hardLinks)
    let view ← look
    match view.status source follows with
    | .error cause =>
      complain ("cannot stat " ++ Quoted.name source ++ ": " ++ causeText cause) 1
      return made
    | .ok (inode, held) =>
      let isDir := match held.body with
        | .dir .. => true
        | _ => false
      if isDir && !style.recursive then
        complain ("-r not specified; omitting directory " ++ Quoted.name source) 1
        return made
      let old := view.status place true
      let oldLink := match view.body? place false with
        | some (.link _) => true
        | _ => false
      if let .error cause := old then
        if cause ≠ .notFound && !oldLink then
          complain ("cannot stat " ++ Quoted.name place ++ ": " ++ causeText cause) 1
          return made
      let same := match old with
        | .ok (other, _) => other = inode
        | .error _ => false
      let oldDir := match old with
        | .ok (other, _) => view.volume.isDir other
        | .error _ => false
      if let some (_, first) := made.find? fun (path, _) => path = place && !isDir then
        if first = inode then
          warn ("warning: source file " ++ Quoted.name source ++
            " specified more than once")
        else
          complain ("will not overwrite just-created " ++ Quoted.name place ++
            " with " ++ Quoted.name source) 1
        return made
      if same && !isDir then
        if style.keeps then return made
        complain (Quoted.name source ++ " and " ++ Quoted.name place ++
          " are the same file") 1
        return made
      if !isDir && oldDir then
        complain ("cannot overwrite directory " ++ Quoted.name place ++
          " with non-directory") 1
        return made
      if isDir && old.isOk && !oldDir then
        complain ("cannot overwrite non-directory " ++ Quoted.name place ++
          " with directory " ++ Quoted.name source) 1
        return made
      if !isDir then
        if !(← mayReplace style held place) then return made
        back style place
      match held.body with
      | .dir .. =>
        let inside := match view.volume.spot view.cwd place true with
          | .ok spot => view.volume.isBelow inode (view.volume.fresh + 1) (spot.inode.getD spot.dir)
          | .error _ => false
        if !oldDir then
          match ← Making.makeDir place (some ((held.mode &&& 511) &&& (511 - view.mask % 512))) with
          | .error cause =>
            complain ("cannot create directory " ++ Quoted.name place ++ ": " ++
              causeText cause) 1
            return made
          | .ok _ => if style.verbose then tell "" source place
        let target := match (← look).volume.find view.cwd place true with
          | .ok target => target
          | .error _ => 0
        let step := fun (made : Made) (entry : Bytes × Nat) => do
          if entry.2 = target then return made
          copy style depth made (Exec.under source entry.1) (Exec.under place entry.1)
        let made ← (view.volume.entries inode).reverse.foldlM step made
        if inside then
          complain ("cannot copy a directory, " ++ Quoted.name source ++
            ", into itself, " ++ Quoted.name place) 1
        else if style.preserves then keepStatus place held
        return made
      | body =>
        if style.verbose then tell "" source place
        let made := (place, inode) :: made
        let replaceBy := fun (what : String) (act : View → Except OsError Volume) => do
          if old.isOk || oldLink then
            if style.force || style.removes || !style.symbolic then
              let _ ← Removal.unlinkPath place
          if let .error cause ← ask (.change act) then
            complain (ofString ("cannot create " ++ what ++ " ") ++ Quoted.name place ++ ": " ++
              causeText cause) 1
        if style.hardLinks then
          replaceBy "hard link" fun view => view.volume.addName view.now view.cwd source place false
        else if style.symbolic then
          replaceBy "symbolic link" fun view => view.volume.makeLink view.now view.cwd source place
        else match body with
          | .link target =>
            replaceBy "symbolic link" fun view => view.volume.makeLink view.now view.cwd target place
          | .pipe =>
            if style.recursive then
              replaceBy "fifo" fun view => view.volume.makeNode view.now view.cwd place .pipe held.mode
            else
              let _ ← copyContent style source place held
          | _ =>
            let _ ← copyContent style source place held
        return made

def makeParents (dir source : Bytes) : Work Unit := do
  for step in (Making.paths source).dropLast do
    let place := Exec.under dir step
    if !(← look).isDir place then
      let _ ← Making.makeDir place none
      if style.verbose then tell "" step place

def cpManual : Manual :=
  (Manual.make "abdfHilLnprst:uvxPRS:TZ" [("archive", "a"), ("force", "f"), ("interactive", "i"),
    ("link", "l"), ("dereference", "L"), ("no-clobber", "n"), ("no-dereference", "P"),
    ("recursive", "r"), ("symbolic-link", "s"), ("target-directory", "t"), ("no-target-directory", "T"),
    ("verbose", "v"), ("one-file-system", "x")]).named
    [("parents", .never), ("remove-destination", .never), ("strip-trailing-slashes", .never),
      ("update", .maybe), ("backup", .maybe), ("preserve", .maybe), ("no-preserve", .always),
      ("attributes-only", .never), ("copy-contents", .never), ("reflink", .maybe), ("sparse", .always),
      ("suffix", .always)]

def Style.set (name : String) (value : Bytes) : Work Style :=
  match name with
  | "a" => return { style with recursive := true, follows := some false, preserves := true }
  | "d" => return { style with follows := some false }
  | "P" => return { style with follows := some false }
  | "L" => return { style with follows := some true }
  | "f" => return { style with force := true, asks := false }
  | "i" => return { style with asks := true, keeps := false }
  | "n" => return { style with keeps := true, asks := false }
  | "u" => return { style with updates := true }
  | "update" =>
    match String.ofList value with
    | "none" => return { style with keeps := true }
    | "all" => return style
    | _ => return { style with updates := true }
  | "p" => return { style with preserves := true }
  | "preserve" => return { style with preserves := true }
  | "r" => return { style with recursive := true }
  | "R" => return { style with recursive := true }
  | "l" => return { style with hardLinks := true }
  | "s" => return { style with symbolic := true }
  | "b" => return { style with backs := true }
  | "backup" => return { style with backs := true }
  | "v" => return { style with verbose := true }
  | "t" => return { style with target := some value }
  | "T" => return { style with plain := true }
  | "parents" => return { style with parents := true }
  | "remove-destination" => return { style with removes := true }
  | "m" => return { style with mode := some value }
  | _ => return style

def cp : Tool := make fun words => do
  let (style, names) ← cpManual.heed words ({} : Style) Style.set
  let (aim, files) ← aim style names
  let _ ← files.foldlM (fun made source => do
    if let .into dir := aim then
      if style.parents then makeParents style dir source
    copy style 1000 made source (aim.place style source)) []

/-! ## Moving -/

def move (style : Style) (source place : Bytes) : Work Unit := do
  let view ← look
  match view.status source false with
  | .error cause =>
    complain ("cannot stat " ++ Quoted.name source ++ ": " ++ causeText cause) 1
  | .ok (inode, held) =>
    let isDir := match held.body with
      | .dir .. => true
      | _ => false
    let old := view.status place false
    let oldDir := match old with
      | .ok (other, _) => view.volume.isDir other
      | .error _ => false
    let same := match old with
      | .ok (other, _) => other = inode
      | .error _ => false
    if same && unslashed source = unslashed place then
      complain (Quoted.name source ++ " and " ++ Quoted.name place ++
        " are the same file") 1
    else if same && !isDir then
      if let .error cause ← Removal.unlinkPath source then
        complain ("cannot remove " ++ Quoted.name source ++ ": " ++ causeText cause) 1
    else if old.isOk && style.keeps then
      complain ("not replacing " ++ Quoted.name place) 1
    else if old.isOk && style.updates && (old.toOption.any fun (_, old) => held.changed ≤ old.changed) then
      return
    else if isDir && old.isOk && !oldDir then
      complain ("cannot overwrite non-directory " ++ Quoted.name place ++
        " with directory " ++ Quoted.name source) 1
    else if !isDir && oldDir then
      complain ("cannot overwrite directory " ++ Quoted.name place ++
        " with non-directory") 1
    else
      let agreed ← if old.isOk && style.asks then
          Removal.confirm ("overwrite " ++ Quoted.name place)
        else pure true
      if !agreed then fail 1
      else
        back style place
        match ← ask (.change fun view => view.volume.rename view.now view.cwd source place) with
        | .ok _ => if style.verbose then tell "renamed " source place
        | .error .invalid =>
          complain ("cannot move " ++ Quoted.name source ++ " to a subdirectory of itself, " ++
            Quoted.name place) 1
        | .error .notEmpty =>
          complain ("cannot overwrite " ++ Quoted.name place ++ ": Directory not empty") 1
        | .error cause =>
          complain ("cannot move " ++ Quoted.name source ++ " to " ++
            Quoted.name place ++ ": " ++ causeText cause) 1

def mv : Tool := make fun words => do
  let manual := (Manual.make "bfint:uvS:TZ" [("force", "f"), ("interactive", "i"),
    ("no-clobber", "n"), ("target-directory", "t"), ("no-target-directory", "T"), ("verbose", "v")]).named
    [("update", .maybe), ("backup", .maybe), ("strip-trailing-slashes", .never), ("suffix", .always)]
  let (style, names) ← manual.heed words ({} : Style) Style.set
  let (aim, files) ← aim style names
  for source in files do
    move style source (aim.place style source)

/-! ## Linking -/

def link (style : Style) (source place : Bytes) : Work Unit := do
  let view ← look
  let kind := if style.symbolic then "symbolic link " else "hard link "
  let access : Option OsError := if style.symbolic then none else
    match view.status source (style.follows.getD false) with
    | .ok _ => none
    | .error cause => some cause
  match access with
  | some cause =>
    complain ("failed to access " ++ Quoted.name source ++ ": " ++ causeText cause) 1
  | none =>
    if !style.symbolic && view.isDir source && !(match view.body? source false with
        | some (.link _) => true
        | _ => false) then
      complain (Quoted.nameIfNeeded source ++ ": hard link not allowed for directory") 1
    else
      let same := match view.status source true, view.status place false with
        | .ok (a, _), .ok (b, _) => a = b
        | _, _ => false
      let there := view.pathExists place false
      let entryOf := fun (path : Bytes) => do
        let (dir, _) ← (view.status (Paths.parent path) true).toOption
        some (dir, Paths.base (unslashed path))
      let sameEntry := same && entryOf source = entryOf place
      if there && sameEntry && !style.symbolic && (style.force || style.asks) then
        complain (Quoted.name source ++ " and " ++ Quoted.name place ++
          " are the same file") 1
      else
        let agreed ← if there && style.asks then
            Removal.confirm ("replace " ++ Quoted.name place)
          else pure true
        if !agreed then return
        back style place
        if there && (style.force || style.asks) && !view.volume.isDir (match view.volume.find view.cwd place false with
            | .ok inode => inode
            | .error _ => 0) then
          let _ ← Removal.unlinkPath place
        let made ← ask (.change fun view =>
          if style.symbolic then view.volume.makeLink view.now view.cwd source place
          else view.volume.addName view.now view.cwd source place (style.follows.getD false))
        match made with
        | .ok _ =>
          if style.verbose then
            out (Quoted.name place ++ ofString (if style.symbolic then " -> " else " => ") ++
              Quoted.name source ++ ['\n'])
        | .error cause =>
          let arrow := if style.symbolic || cause ≠ .notFound then []
            else ofString " => " ++ Quoted.name source
          complain (ofString ("failed to create " ++ kind) ++ Quoted.name place ++ arrow ++
            ofString ": " ++ causeText cause) 1

def ln : Tool := make fun words => do
  let manual := (Manual.make "bdfinrst:vFLPS:T" [("directory", "d"), ("force", "f"),
    ("interactive", "i"), ("no-dereference", "n"), ("relative", "r"), ("symbolic", "s"),
    ("target-directory", "t"), ("no-target-directory", "T"), ("verbose", "v"), ("logical", "L"),
    ("physical", "P")]).named [("backup", .maybe), ("suffix", .always)]
  let (style, names) ← manual.heed words ({} : Style) fun style name value =>
    match name with
    | "n" => return { style with linkAsFile := true }
    | "r" => return { style with parents := true }
    | _ => style.set name value
  let relates := style.parents
  let style := { style with parents := false }
  let sourceOf := fun (view : View) (source place : Bytes) =>
    if relates && style.symbolic then
      let segments := fun path : Bytes => (cutAt '/' path).filter (!·.isEmpty)
      match Paths.resolve view .nothing true source, Paths.resolve view .nothing true (Paths.parent place) with
      | .ok source, .ok dir => Paths.relative (segments dir) (segments source)
      | _, _ => source
    else source
  if names.isEmpty then misuse "missing file operand" 1
  if relates && !style.symbolic then abort "cannot do --relative without --symbolic" 1
  match if style.plain then [] else names, style.target with
  | [only], none =>
    let place := Aim.place (.into ['.']) style only
    link style (sourceOf (← look) only place) place
  | _, _ =>
    let (aim, files) ← aim style names
    for source in files do
      let place := aim.place style source
      link style (sourceOf (← look) source place) place

end Retrace.Tool.Copying
