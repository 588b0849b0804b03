import Retrace.Files
import Retrace.Log

/-!
# Workspaces

Where a build works: the files, the directory for temporary sources, the counter
that names them, and what has been said so far. Events are in order, log records
and shown texts together, because a terminal shows both.
-/

namespace Retrace

inductive Event where
  | record (record : Record)
  /-- A text shown whatever the log level. -/
  | shown (text : String)
  deriving DecidableEq, Repr

structure Workspace where
  files : Files
  tempDir : String
  /-- How many names for temporary sources were given out. -/
  serial : Nat := 0
  events : List Event := []
  deriving DecidableEq, Repr

namespace Workspace

def say (work : Workspace) (level : Level) (topic : Topic) (message : String) : Workspace :=
  { work with events := work.events ++ [.record ⟨level, topic, message⟩] }

def sayAll (work : Workspace) (records : List Record) : Workspace :=
  { work with events := work.events ++ records.map .record }

def showAll (work : Workspace) (texts : List String) : Workspace :=
  { work with events := work.events ++ texts.map .shown }

def records (work : Workspace) : List Record :=
  work.events.filterMap fun
    | .record record => some record
    | .shown _ => none

@[simp] theorem files_say (work : Workspace) (level : Level) (topic : Topic) (message : String) :
    (work.say level topic message).files = work.files := rfl

@[simp] theorem files_sayAll (work : Workspace) (records : List Record) :
    (work.sayAll records).files = work.files := rfl

@[simp] theorem files_showAll (work : Workspace) (texts : List String) :
    (work.showAll texts).files = work.files := rfl

end Workspace
end Retrace
