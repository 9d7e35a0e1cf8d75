import Std.Data.ExtTreeSet
import SplitTest.Error
import SplitTest.Experiment
import SplitTest.Stats

/-!
The rows behind all units of work: experiments with an index of their names, assignments, and
observations in the order of arrival. Experiments and observations draw their sequence numbers
from one counter. No experiment is inserted under a name that is taken in its organization, and no
second assignment of a subject in an experiment.
-/

namespace SplitTest

inductive InsertOutcome where
  | inserted
  | conflict
deriving DecidableEq, Repr

inductive UpdateOutcome where
  | updated
  | notFound
  | statusChanged
deriving DecidableEq, Repr

structure StoredExperiment where
  row : Experiment
  sequence : UInt64

structure StoredObservation where
  row : Observation
  sequence : UInt64

instance {α : Type} [Ord α] : Ord (Uuid × α) := lexOrd

abbrev NameKey := Uuid × String

abbrev AssignmentKey := Uuid × Uuid

def Experiment.nameKey (e : Experiment) : NameKey := (e.organization, e.name)

def Assignment.key (a : Assignment) : AssignmentKey := (a.experiment, a.subject)

structure Store where
  experiments : Std.ExtTreeMap Uuid StoredExperiment := {}
  names : Std.ExtTreeMap NameKey Uuid := {}
  assignments : Std.ExtTreeMap AssignmentKey Assignment := {}
  observations : List StoredObservation := []
  nextSequence : UInt64 := 1

namespace Store

def createExperiment (row : Experiment) (s : Store) : InsertOutcome × Store :=
  if row.id ∈ s.experiments ∨ row.nameKey ∈ s.names then (.conflict, s)
  else
    (.inserted, { s with
      experiments := s.experiments.insert row.id ⟨row, s.nextSequence⟩
      names := s.names.insert row.nameKey row.id
      nextSequence := s.nextSequence + 1 })

/-- Puts a row in the place of another one with its id. A row that changes its name leaves the old
index entry and takes the new one, whosever that was. -/
def overwrite (old : StoredExperiment) (row : Experiment) (s : Store) : Store :=
  { s with
    experiments := s.experiments.insert row.id ⟨row, old.sequence⟩
    names :=
      if old.row.nameKey = row.nameKey then s.names
      else (s.names.erase old.row.nameKey).insert row.nameKey row.id }

def updateExperiment (row : Experiment) (expected : Status) (s : Store) : UpdateOutcome × Store :=
  match s.experiments[row.id]? with
  | none => (.notFound, s)
  | some old =>
    if old.row.status = expected then (.updated, s.overwrite old row) else (.statusChanged, s)

/-- Overwrites a row whatever its status; a row that is gone stays gone. -/
def restoreExperiment (row : Experiment) (s : Store) : Store :=
  match s.experiments[row.id]? with
  | none => s
  | some old => s.overwrite old row

def eraseExperiment (id : Uuid) (s : Store) : Store :=
  match s.experiments[id]? with
  | none => s
  | some old =>
    { s with
      experiments := s.experiments.erase id
      names := s.names.erase old.row.nameKey }

def experimentById (id : Uuid) (s : Store) : Option Experiment :=
  s.experiments[id]?.map (·.row)

def experimentByName (name : String) (organization : Uuid) (s : Store) :
    Except Fault (Option Experiment) :=
  match s.names[(organization, name)]? with
  | none => .ok none
  | some id =>
    match s.experiments[id]? with
    | some stored => .ok (some stored.row)
    | none => .error .danglingName

def isListed (organization : Option Uuid) (status : Option Status) (e : Experiment) : Bool :=
  organization.all (· = e.organization) && status.all (· = e.status)

/-- The later creation first, and of two at one instant the later insertion. -/
def isNewer (a b : StoredExperiment) : Bool :=
  b.row.createdAt.nanoseconds < a.row.createdAt.nanoseconds ||
    (a.row.createdAt = b.row.createdAt && b.sequence ≤ a.sequence)

def listing (organization : Option Uuid) (status : Option Status) (s : Store) :
    List Experiment :=
  ((s.experiments.values.filter fun e => isListed organization status e.row).mergeSort
    isNewer).map (·.row)

def listExperiments (organization : Option Uuid) (status : Option Status) (limit offset : UInt64)
    (s : Store) : List Experiment :=
  ((s.listing organization status).drop offset.toNat).take limit.toNat

def assignment (experiment subject : Uuid) (s : Store) : Option Assignment :=
  s.assignments[(experiment, subject)]?

def createAssignment (row : Assignment) (s : Store) : InsertOutcome × Store :=
  if row.key ∈ s.assignments then (.conflict, s)
  else (.inserted, { s with assignments := s.assignments.insert row.key row })

def eraseAssignment (experiment subject : Uuid) (s : Store) : Store :=
  { s with assignments := s.assignments.erase (experiment, subject) }

def assignmentCounts (experiment : Uuid) (s : Store) : Std.ExtTreeMap String Nat :=
  ((s.assignments.toList.filter fun (key, _) => key.1 = experiment).map (·.2.variant)).foldl
    (fun counts variant => counts.insert variant (counts.getD variant 0 + 1)) {}

def appendObservation (row : Observation) (s : Store) : UInt64 × Store :=
  (s.nextSequence, { s with
    observations := s.observations ++ [⟨row, s.nextSequence⟩]
    nextSequence := s.nextSequence + 1 })

def eraseObservation (sequence : UInt64) (s : Store) : Store :=
  { s with observations := s.observations.filter (·.sequence ≠ sequence) }

/-- Observations of a metric in order, each with the variant its subject is assigned to; those of
unassigned subjects are left out. -/
def joined (experiment : Uuid) (metric : String) (s : Store) : List (String × Observation) :=
  s.observations.filterMap fun o =>
    if o.row.experiment = experiment ∧ o.row.metric = metric then
      (s.assignment experiment o.row.subject).map fun a => (a.variant, o.row)
    else none

def metricStats (experiment : Uuid) (metric : String) (reductions : Stats.Reductions) (s : Store) :
    Except Invalid (List VariantStats) :=
  let rows := s.joined experiment metric
  (Std.ExtTreeSet.ofList (rows.map (·.1))).toList.mapM fun variant =>
    let own := (rows.filter (·.1 = variant)).map (·.2)
    let subjects := Std.ExtTreeSet.ofList (own.map (·.subject))
    Stats.summarize variant (own.map (·.value)) subjects.size reductions

end Store

end SplitTest
