import SplitTest.Proofs.Program.History
import SplitTest.Proofs.Program.Meets
import SplitTest.Service

namespace SplitTest

namespace Service

def operation? : Service → Option String
  | create _ _ => some "create"
  | update _ _ => some "update"
  | start _ => some "start"
  | stop _ => some "stop"
  | get _ => some "get"
  | list _ _ _ _ => some "list"
  | recordMetric _ _ _ _ => some "record_metric"
  | results _ _ _ _ => some "compute_results"
  | assignmentCounts _ => some "assignment_counts"
  | assign _ _ => some "assign"
  | flagVariant _ _ _ | flagEnabled _ _ _ => none

def target? : Service → Option Uuid
  | update id _ | start id | stop id => some id
  | _ => none

def Revises : Service → Experiment → Experiment → Status → Prop
  | update _ changes, e, row, expected =>
    e.status = .draft ∧ expected = .draft ∧ Lifecycle.checkChanges changes = .ok () ∧
      ∃ now, row = { changes.apply e with updatedAt := now }
  | start _, e, row, expected =>
    e.status = .draft ∧ expected = .draft ∧
      ∃ t now, row = { e with status := .running, startedAt := some t, updatedAt := now }
  | stop _, e, row, expected =>
    e.status = .running ∧ expected = .running ∧
      ∃ t now, row = { e with status := .completed, endedAt := some t, updatedAt := now }
  | _, _, _, _ => False

def Creates (settings : Settings) (row : Experiment) : Service → Prop
  | create draft organization =>
    Lifecycle.checkDraft settings draft = .ok () ∧
      ∃ now, row = Lifecycle.ofDraft draft organization row.id now
  | _ => False

def Binds (h : History) (row : Assignment) : Prop :=
  ∃ e, h.Read row.experiment e ∧ e.status = .running ∧
    Bucket.inTraffic row.experiment row.subject e.traffic = true ∧
    Bucket.select row.experiment row.subject e.variants.names = .ok row.variant

/-- The requests that a service may make after some exchanges. One that changes an experiment reads
it before anything else, so that there is one read at most. -/
def law (settings : Settings) (service : Service) (h : History) : Request → Prop
  | .call (.experimentById _) => service.target? = none ∨ h = []
  | .call (.createExperiment row) => service.Creates settings row
  | .call (.updateExperiment row expected) =>
    ∃ id e, service.target? = some id ∧ h.Read id e ∧ service.Revises e row expected
  | .call (.createAssignment row) => Binds h row
  | .rollback => h.Calm → h.Unwritten
  | _ => True

def Bound (h : History) (experiment subject : Uuid) (variant : String) : Prop :=
  (∃ row : Assignment, row.variant = variant ∧
    (⟨.call (.assignment experiment subject), .ok (some row)⟩ : Exchange) ∈ h) ∨
  ∃ row : Assignment, row.key = (experiment, subject) ∧ row.variant = variant ∧
    (⟨.call (.createAssignment row), .ok .inserted⟩ : Exchange) ∈ h

structure Shows (service : Service) (h : History) (value : Value) : Prop where
  revised : ∀ id, service.target? = some id → ∃ e row expected,
    value = .experiment row ∧ h.Read id e ∧ service.Revises e row expected ∧
      (⟨.call (.updateExperiment row expected), .ok .updated⟩ : Exchange) ∈ h
  bound : ∀ e subject, service = assign e subject →
    ∃ variant, value = .text variant ∧ Bound h e subject variant
  resolved : ∀ flag subject organization variant, service = flagVariant flag subject organization →
    value = .variant (some variant) → ∃ e, Bound h e subject variant

end Service

/-- A transaction that nothing but calls of the store disturbs is committed once or taken back
once, and a breakdown is reported as such. -/
def Transaction.Concluded {α : Type} (operation : String) (h : History) :
    Except Fault (Outcome α) → Prop
  | .ok (.ok _) => h.commits = 1 ∧ h.rollbacks = 0 ∧ h.callFaults = []
  | .ok (.error e) =>
    h.commits = 0 ∧ h.rollbacks = 1 ∧ h.Unwritten ∧
      ∀ fault ∈ h.callFaults, e = .operationFailed operation fault.message
  | .error _ => False

def Service.fit (service : Service) (h : History) (result : Except Fault (Outcome Value)) : Prop :=
  (h.Calm → ¬ h.Unsettled) ∧ (∀ value, result = .ok (.ok value) → service.Shows h value) ∧
    ∀ operation, service.operation? = some operation → h.Calm →
      Transaction.Concluded operation h result

end SplitTest
