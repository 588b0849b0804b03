import Retrace.Tool.Removal

/-!
# Names and paths

The parts of a path, and where it leads to once links are followed.
-/

namespace Retrace.Tool.Paths

open Unix

def base (path : Bytes) : Bytes :=
  let name := Removal.lastName path
  if name.isEmpty && path.head? = some '/' then ['/'] else name

def stripSuffix (suffix name : Bytes) : Bytes :=
  if suffix.isSuffixOf name && suffix.length < name.length && name ≠ ['/'] then
    name.take (name.length - suffix.length)
  else name

def parent (path : Bytes) : Bytes :=
  let rest := (path.reverse.dropWhile (· = '/')).dropWhile (· ≠ '/')
  let directory := (rest.dropWhile (· = '/')).reverse
  if !directory.isEmpty then directory else if path.head? = some '/' then ['/'] else ['.']

def basename : Tool := make fun words => do
  let manual := { (Manual.make "as:z" [("multiple", "a"), ("suffix", "s"), ("zero", "z")]).named with ordered := true }
  let (options, names) ← manual.options words
  let ending := if options.any (·.1 = "z") then ['\x00'] else ['\n']
  let suffix := options.reverse.lookup "s"
  match names with
  | [] => misuse "missing operand" 1
  | first :: rest =>
    if options.any (·.1 = "a") || suffix.isSome then
      for name in names do
        out (stripSuffix (suffix.getD []) (base name) ++ ending)
    else
      if let some extra := rest[1]? then misuse ("extra operand " ++ Quoted.operand extra) 1
      out (stripSuffix (rest.headD []) (base first) ++ ending)

def dirname : Tool := make fun words => do
  let manual := (Manual.make "z" [("zero", "z")]).named
  let (options, names) ← manual.options words
  if names.isEmpty then misuse "missing operand" 1
  for name in names do
    out (parent name ++ if options.any (·.1 = "z") then ['\x00'] else ['\n'])

/-! ## Where paths lead -/

/-- What must be there for a path to be resolved: all of it, all but the last name, or nothing. -/
inductive Needs where
  | all
  | parents
  | nothing
  deriving DecidableEq

/-- Follows names from a path; `links` is how many links may still be followed. -/
def resolveFrom (view : View) (needs : Needs) (follow : Bool) :
    Nat → Nat → List Bytes → List Bytes → Except OsError (List Bytes)
  | 0, _, _, _ => .error .linkLoop
  | _ + 1, _, done, [] => .ok done
  | fuel + 1, links, done, name :: rest =>
    if name.isEmpty || name = ['.'] then resolveFrom view needs follow fuel links done rest
    else if name = ['.', '.'] then resolveFrom view needs follow fuel links done.dropLast rest
    else
      let here := done ++ [name]
      let path := '/' :: joined '/' here
      let endsHere := rest.all fun name => name.isEmpty || name = ['.']
      match view.body? path false with
      | some (.link target) =>
        if !follow then resolveFrom view needs follow fuel links here rest
        else match links with
          | 0 => if needs = .nothing then resolveFrom view needs follow fuel 0 here rest else .error .linkLoop
          | links + 1 =>
            let start := if target.head? = some '/' then [] else done
            resolveFrom view needs follow fuel links start (cutAt '/' target ++ rest)
      | some (.dir ..) => resolveFrom view needs follow fuel links here rest
      | some _ =>
        if needs ≠ .nothing && !rest.isEmpty && (follow || endsHere) then .error .notDirectory
        else resolveFrom view needs follow fuel links here rest
      | none =>
        let last := rest.all List.isEmpty
        let refused := if follow then needs = .all || (needs = .parents && !last)
          else if rest.isEmpty then needs = .all
          else needs ≠ .nothing && endsHere
        if refused then .error .notFound
        else resolveFrom view needs follow fuel links here rest

def resolve (view : View) (needs : Needs) (follow : Bool) (path : Bytes) :
    Except OsError Bytes := do
  if path.isEmpty then throw .notFound
  let start := if path.head? = some '/' then [] else (cutAt '/' view.here).filter (!·.isEmpty)
  let names ← resolveFrom view needs follow 100000 40 start (cutAt '/' path)
  return '/' :: joined '/' names

def readlink : Tool := make fun words => do
  let manual := (Manual.make "efmnqsvz" [("canonicalize", "f"), ("canonicalize-existing", "e"),
    ("canonicalize-missing", "m"), ("no-newline", "n"), ("quiet", "q"), ("silent", "s"), ("verbose", "v"),
    ("zero", "z")]).named
  let (options, names) ← manual.options words
  if names.isEmpty then misuse "missing operand" 1
  let needs := (options.reverse.findSome? fun (name, _) =>
    match name with
    | "e" => some Needs.all
    | "f" => some Needs.parents
    | "m" => some Needs.nothing
    | _ => none)
  let bare := options.any (·.1 = "n")
  if bare && 1 < names.length then
    warn "ignoring --no-newline with multiple arguments"
  let ending := if options.any (·.1 = "z") then ['\x00'] else ['\n']
  let ending := if bare && names.length = 1 then [] else ending
  let verbose := options.any (·.1 = "v")
  for name in names do
    let view ← look
    let found : Except OsError Bytes := match needs with
      | some needs => resolve view needs true name
      | none => do
        match ← view.status name false with
        | (_, held) =>
          match held.body with
          | .link target => return target
          | _ => throw .invalid
    match found with
    | .ok path => out (path ++ ending)
    | .error cause =>
      if verbose then warn (Quoted.nameIfNeeded name ++ ": " ++ causeText cause)
      fail 1

def relative (start target : List Bytes) : Bytes :=
  let common := ((start.zip target).takeWhile fun (a, b) => a = b).length
  let up := List.replicate (start.length - common) ['.', '.']
  let names := up ++ target.drop common
  if names.isEmpty then ['.'] else joined '/' names

def realpath : Tool := make fun words => do
  let manual := (Manual.make "eLmPqsz" [("canonicalize-existing", "e"),
    ("canonicalize-missing", "m"), ("quiet", "q"), ("strip", "s"), ("no-symlinks", "s"), ("zero", "z")]).named
    [("relative-to", .always), ("relative-base", .always)]
  let (options, names) ← manual.options words
  if names.isEmpty then misuse "missing operand" 1
  let needs := (options.reverse.findSome? fun (name, _) =>
    match name with
    | "e" => some Needs.all
    | "m" => some Needs.nothing
    | _ => none).getD .parents
  let follow := !options.any (·.1 = "s")
  let ending := if options.any (·.1 = "z") then ['\x00'] else ['\n']
  let segments := fun path : Bytes => (cutAt '/' path).filter (!·.isEmpty)
  let origin ← match options.reverse.lookup "relative-to" with
    | none => pure none
    | some path =>
      match resolve (← look) needs follow path with
      | .ok path => pure (some path)
      | .error cause => abort (Quoted.nameIfNeeded path ++ ": " ++ causeText cause) 1
  for name in names do
    match resolve (← look) needs follow name with
    | .ok path =>
      out ((match origin with
        | some origin => relative (segments origin) (segments path)
        | none => path) ++ ending)
    | .error cause =>
      if !options.any (·.1 = "q") then warn (Quoted.nameIfNeeded name ++ ": " ++ causeText cause)
      fail 1

def pwd : Tool := make fun words => do
  let manual := (Manual.make "LP" [("logical", "L"), ("physical", "P")]).named
  let (options, names) ← manual.options words
  if !names.isEmpty then warn "ignoring non-option arguments"
  let view ← look
  let given := ((← get).env.lookup "PWD".toList).getD []
  let holds := given.head? = some '/' &&
    !((cutAt '/' given).any fun name => name = ['.'] || name = ['.', '.']) &&
    match view.volume.find view.cwd given true with
    | .ok inode => inode = view.cwd
    | .error _ => false
  if (options.getLast?).any (·.1 = "L") && holds then out (given ++ ['\n'])
  else out (view.here ++ ['\n'])

end Retrace.Tool.Paths
