import Retrace.Fault
import Retrace.Host
import Retrace.LineMap
import Retrace.Text.Quoted
import Retrace.Workspace

/-!
# Jobs

A job is one generated source on disk and all that is needed to compile it. It
owns that file until it is cleaned up. In debug-verbose builds the file has a
fixed name in the working directory, where it can be looked at; otherwise it has
a fresh name in the temporary directory, or in the working directory when the
other refuses it.
-/

namespace Retrace

structure Order where
  text : String
  /-- The user's program. -/
  source : String
  output : String
  workingDir : String
  /-- Empty leaves the choice to the driver. -/
  compiler : String := ""
  extraArgs : List String := []
  switches : Switches := {}
  map : LineMap := {}

def Order.plain (files : Files) (text source : String) : Order :=
  { text, source, output := Host.posix.defaultOutput source, workingDir := files.cwdPath }

inductive Custody where
  | temporary
  | fixed
  deriving DecidableEq, Repr

structure Job where
  order : Order
  generated : String
  /-- None once the source was given up. -/
  custody : Option Custody

namespace Job

def suffix : String := ".cxir"

def debugName : Nat → String
  | 0 => "IR.temp.debug.verbose" ++ suffix
  | n + 1 => "IR.temp.debug.verbose." ++ toString (n + 1) ++ suffix

def isLive (job : Job) : Bool := job.custody.isSome

/-! ## Temporary names -/

def nameDigit (value : Nat) : Char :=
  if value < 10 then Char.ofNat (48 + value)
  else if value < 36 then Char.ofNat (87 + value)
  else Char.ofNat (29 + value)

def nameDigits : Nat → Nat → List Char
  | 0, _ => []
  | count + 1, value => nameDigits count (value / 62) ++ [nameDigit (value % 62)]

/-- A name of six letters and digits; the numbers below 62^6 have different names. -/
def tempName (serial : Nat) : String := "__" ++ String.ofList (nameDigits 6 serial) ++ suffix

def atPath (path : String) : String := " at path " ++ Text.quoted path

def createIn (base : String) : Nat → Workspace → Except (OsError × String) String × Workspace
  | 0, work => (.error (.namesExhausted, base), work)
  | attempts + 1, work =>
    let path := Path.join base (tempName work.serial)
    let next := { work with serial := work.serial + 1 }
    match work.files.create path with
    | .error cause => (.error (cause, path), next)
    | .ok (some files) => (.ok path, { next with files })
    | .ok none => createIn base attempts next

def maxAttempts : Nat := 65536

def writeSource (path text detail : String) (work : Workspace) : Except Fault String × Workspace :=
  match work.files.writeText path text with
  | (.ok _, files) => (.ok path, { work with files })
  | (.error cause, files) =>
    (.error (.io path cause detail), { work with files := files.discard path })

def createTemporary (text : String) : List String → Workspace → Except Fault String × Workspace
  | [], work => (.error (.io "" (.other "no directory for generated sources") ""), work)
  | dir :: others, work =>
    let base := if Path.isAbsolute dir then dir else Path.join work.files.cwdPath dir
    match createIn base maxAttempts work with
    | (.ok path, work) => writeSource path text (atPath path) work
    | (.error (cause, path), work) =>
      let detail := atPath path
      let work := work.say .warn .job
        ("cannot create generated source in " ++ dir ++ ": " ++ cause.message ++ detail)
      if others.isEmpty then (.error (.io dir cause detail), work)
      else createTemporary text others work

def isInspectable (order : Order) : Bool := order.switches.debug && order.switches.verbose

def summary (job : Job) : List Record :=
  let order := job.order
  [ "compile action created:",
    "  working dir:      " ++ order.workingDir,
    "  generated source: " ++ job.generated,
    "  output:           " ++ order.output,
    "  original:         " ++ order.source,
    "  compiler:         " ++ Text.quoted order.compiler,
    "  extra args:       " ++ Text.quotedList order.extraArgs,
    "  flags:            " ++ order.switches.describe,
    "  mapped lines:     " ++ toString order.map.size ].map (⟨.debug, .job, ·⟩)

/-- Puts an order on disk; `index` counts the units of the build. -/
def create (order : Order) (index : Nat) (work : Workspace) : Except Fault Job × Workspace :=
  let (made, work) :=
    if isInspectable order then
      writeSource (Path.join order.workingDir (debugName index)) order.text "" work
    else createTemporary order.text [work.tempDir, order.workingDir] work
  match made with
  | .error fault => (.error fault, work)
  | .ok generated =>
    let custody := if isInspectable order then Custody.fixed else .temporary
    let job : Job := ⟨order, generated, some custody⟩
    (.ok job, if order.switches.verbose then work.sayAll job.summary else work)

/-- Gives the generated source up and removes it. Doing it twice does nothing. -/
def cleanup (job : Job) (work : Workspace) : Job × Workspace :=
  match job.custody with
  | none => (job, work)
  | some custody =>
    let job := { job with custody := none }
    match work.files.remove job.generated with
    | .ok files => (job, { work with files }.say .debug .job ("removed " ++ job.generated))
    | .error .notFound => (job, work)
    | .error cause =>
      let detail := if custody = .temporary then atPath job.generated else ""
      (job, work.say .debug .job
        ("could not remove " ++ job.generated ++ ": " ++ cause.message ++ detail))

def discard (job : Job) (work : Workspace) : Workspace := (job.cleanup work).2

def discardAll (jobs : List Job) (work : Workspace) : Workspace :=
  jobs.foldl (fun work job => job.discard work) work

end Job
end Retrace
