import SplitTest.Store

/-!
The calls that a store answers, and units of work. A journaled one writes to the shared store at
once and keeps, for each write since the last commit, the step that takes it back; a direct one
keeps nothing.
-/

namespace SplitTest

inductive Call where
  | createExperiment (row : Experiment)
  | updateExperiment (row : Experiment) (expected : Status)
  | experimentById (id : Uuid)
  | experimentByName (name : String) (organization : Uuid)
  | listExperiments (organization : Option Uuid) (status : Option Status) (limit offset : UInt64)
  | assignment (experiment subject : Uuid)
  | createAssignment (row : Assignment)
  | assignmentCounts (experiment : Uuid)
  | recordMetric (row : Observation)
  | metricStats (experiment : Uuid) (metric : String)
      (reductions : Stats.Reductions := .inOrder)

inductive Undo where
  | eraseExperiment (id : Uuid)
  | restoreExperiment (row : Experiment)
  | eraseAssignment (experiment subject : Uuid)
  | eraseObservation (sequence : UInt64)

def Undo.perform : Undo → Store → Store
  | eraseExperiment id => Store.eraseExperiment id
  | restoreExperiment row => Store.restoreExperiment row
  | eraseAssignment experiment subject => Store.eraseAssignment experiment subject
  | eraseObservation sequence => Store.eraseObservation sequence

namespace Call

abbrev Reply : Call → Type
  | createExperiment _ => InsertOutcome
  | updateExperiment _ _ => UpdateOutcome
  | experimentById _ => Option Experiment
  | experimentByName _ _ => Option Experiment
  | listExperiments _ _ _ _ => List Experiment
  | assignment _ _ => Option Assignment
  | createAssignment _ => InsertOutcome
  | assignmentCounts _ => Std.ExtTreeMap String Nat
  | recordMetric _ => Unit
  | metricStats _ _ _ => List VariantStats

def perform : (call : Call) → Store → Except Fault call.Reply × Store
  | createExperiment row, s => let (outcome, s) := s.createExperiment row; (.ok outcome, s)
  | updateExperiment row expected, s =>
    let (outcome, s) := s.updateExperiment row expected; (.ok outcome, s)
  | experimentById id, s => (.ok (s.experimentById id), s)
  | experimentByName name organization, s => (s.experimentByName name organization, s)
  | listExperiments organization status limit offset, s =>
    (.ok (s.listExperiments organization status limit offset), s)
  | assignment experiment subject, s => (.ok (s.assignment experiment subject), s)
  | createAssignment row, s => let (outcome, s) := s.createAssignment row; (.ok outcome, s)
  | assignmentCounts experiment, s => (.ok (s.assignmentCounts experiment), s)
  | recordMetric row, s => (.ok (), (s.appendObservation row).2)
  | metricStats experiment metric reductions, s =>
    ((s.metricStats experiment metric reductions).mapError .invalid, s)

/-- What takes the write of a call back, from the store just before it and its reply. Calls that
write nothing need nothing. -/
def undo? : (call : Call) → Store → call.Reply → Option Undo
  | createExperiment row, _, .inserted => some (.eraseExperiment row.id)
  | updateExperiment row _, s, .updated =>
    (s.experimentById row.id).map .restoreExperiment
  | createAssignment row, _, .inserted => some (.eraseAssignment row.experiment row.subject)
  | recordMetric _, s, () => some (.eraseObservation s.nextSequence)
  | _, _, _ => none

def conflict? : (call : Call) → Option call.Reply
  | createExperiment _ | createAssignment _ => some .conflict
  | _ => none

end Call

structure UnitOfWork where
  journaled : Bool := true
  pending : List Undo := []
  commits : Nat := 0
  rollbacks : Nat := 0

namespace UnitOfWork

def remember (undo : Option Undo) (u : UnitOfWork) : UnitOfWork :=
  if u.journaled then { u with pending := undo.toList ++ u.pending } else u

def commit (u : UnitOfWork) : UnitOfWork :=
  { u with pending := [], commits := u.commits + 1 }

/-- Performs steps in order until one breaks down. That one is dropped like those before it, and
those after it are what remains. -/
def unwind {σ : Type} (attempt : Undo → σ → Option Fault × σ) :
    List Undo → σ → (Option Fault × List Undo) × σ
  | [], s => ((none, []), s)
  | undo :: rest, s =>
    match attempt undo s with
    | (none, s) => unwind attempt rest s
    | (some fault, s) => ((some fault, rest), s)

end UnitOfWork

end SplitTest
