import SplitTest.Service

namespace SplitTest.Rehearsal

inductive Method where
  | createExperiment
  | updateExperiment
  | experimentById
  | experimentByName
  | listExperiments
  | assignment
  | createAssignment
  | assignmentCounts
  | recordMetric
  | metricStats
  | eraseExperiment
  | eraseAssignment
  | eraseObservation
  | commit
  | rollback
  | observer
deriving DecidableEq, Repr

inductive Action where
  | refused (cause : Invalid)
  | service (service : Service)
  | commit
  | rollback
  | call (call : Call)
  | append (row : Observation)
  | undo (undo : Undo)
  | advance (nanoseconds : Int64)
  | openUnit (journaled : Bool)
  | closeUnit
  | fail (method : Method) (what : String) (times : Option Nat)
  | unfail (method : Method)
  | conflict (method : Method) (times : Nat)
  | hook (method : Method) (steps : List (Option String × Action))

abbrev Step := Option String × Action

mutual

def Action.hooks : Action → Nat
  | .hook _ steps => 1 + hooksOf steps
  | _ => 0

def hooksOf : List (Option String × Action) → Nat
  | [] => 0
  | (_, action) :: rest => action.hooks + hooksOf rest

end

structure State where
  experiments : Nat
  assignments : Nat
  observations : Nat
  work : Option (Nat × Nat × Nat)

inductive Answer where
  | mk (result : Except Fault (Outcome Value)) (events : List Event) (interludes : List Answer)
      (state : State)

end SplitTest.Rehearsal
