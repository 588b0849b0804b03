import Retrace.Job

/-!
# Rosters

The jobs of one build in the order they came, each under a number that is not
given out again until the roster is cleared.
-/

namespace Retrace

structure Roster where
  entries : List (JobId × Job) := []
  /-- The number of the next job. -/
  next : Nat := 0

namespace Roster

def size (roster : Roster) : Nat := roster.entries.length

def isEmpty (roster : Roster) : Bool := roster.entries.isEmpty

def ids (roster : Roster) : List JobId := roster.entries.map (·.1)

def jobs (roster : Roster) : List Job := roster.entries.map (·.2)

def insert (roster : Roster) (job : Job) : JobId × Roster :=
  (⟨roster.next⟩, ⟨roster.entries ++ [(⟨roster.next⟩, job)], roster.next + 1⟩)

def get? (roster : Roster) (id : JobId) : Option Job :=
  (roster.entries.find? (·.1 = id)).map (·.2)

def erase (roster : Roster) (id : JobId) : Roster :=
  { roster with entries := roster.entries.eraseP (·.1 = id) }

def take (roster : Roster) (id : JobId) : Option (Job × Roster) :=
  (roster.get? id).map fun job => (job, roster.erase id)

/-- Makes a job and enters it; its number is the index of its fixed name. -/
def create (roster : Roster) (order : Order) (work : Workspace) :
    Except Fault JobId × Roster × Workspace :=
  match Job.create order roster.next work with
  | (.error fault, work) => (.error fault, roster, work)
  | (.ok job, work) =>
    let (id, roster) := roster.insert job
    (.ok id, roster, work)

def clear (roster : Roster) (work : Workspace) : Roster × Workspace :=
  ({}, Job.discardAll roster.jobs work)

end Roster
end Retrace
