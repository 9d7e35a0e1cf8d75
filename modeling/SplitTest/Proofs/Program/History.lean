import SplitTest.Workplace

namespace SplitTest

namespace Exchange

@[simp] def wrote : Exchange → Bool
  | ⟨.call (.createExperiment _), .ok .inserted⟩ => true
  | ⟨.call (.updateExperiment _ _), .ok .updated⟩ => true
  | ⟨.call (.createAssignment _), .ok .inserted⟩ => true
  | ⟨.call (.recordMetric _), .ok _⟩ => true
  | _ => false

@[simp] def settled : Exchange → Bool
  | ⟨.commit, .ok _⟩ => true
  | ⟨.rollback, .ok _⟩ => true
  | _ => false

@[simp] def disturbed : Exchange → Bool
  | ⟨.call _, _⟩ => false
  | ⟨_, .error _⟩ => true
  | ⟨_, .ok _⟩ => false

@[simp] def callFault? : Exchange → Option Fault
  | ⟨.call _, .error fault⟩ => some fault
  | _ => none

@[simp] def committed : Exchange → Bool
  | ⟨.commit, _⟩ => true
  | _ => false

@[simp] def rolledBack : Exchange → Bool
  | ⟨.rollback, _⟩ => true
  | _ => false

variable {c : Call} {event : Event} {fault : Fault}

@[simp] theorem wrote_call_error : wrote ⟨.call c, .error fault⟩ = false := by
  cases c <;> rfl

end Exchange

namespace History

def Calm (h : History) : Prop := ∀ x ∈ h, x.disturbed = false

def Unwritten (h : History) : Prop := ∀ x ∈ h, x.wrote = false

def Unsettled : History → Prop
  | [] => False
  | x :: h => x.settled = false ∧ (x.wrote = true ∨ Unsettled h)

def callFaults (h : History) : List Fault := h.filterMap (·.callFault?)

def commits (h : History) : Nat := h.countP (·.committed)

def rollbacks (h : History) : Nat := h.countP (·.rolledBack)

def Read (h : History) (id : Uuid) (e : Experiment) : Prop :=
  (⟨.call (.experimentById id), .ok (some e)⟩ : Exchange) ∈ h

variable {h : History} {x : Exchange}

@[simp] theorem calm_nil : Calm [] := List.forall_mem_nil _

@[simp] theorem calm_cons : Calm (x :: h) ↔ x.disturbed = false ∧ h.Calm := List.forall_mem_cons

@[simp] theorem unwritten_nil : Unwritten [] := List.forall_mem_nil _

@[simp] theorem unwritten_cons : Unwritten (x :: h) ↔ x.wrote = false ∧ h.Unwritten :=
  List.forall_mem_cons

@[simp] theorem callFaults_nil : callFaults [] = [] := rfl

@[simp] theorem callFaults_cons :
    callFaults (x :: h) = x.callFault?.toList ++ h.callFaults := by
  rw [callFaults, List.filterMap_cons]
  cases x.callFault? <;> rfl

@[simp] theorem commits_cons :
    commits (x :: h) = h.commits + if x.committed then 1 else 0 := List.countP_cons ..

@[simp] theorem rollbacks_cons :
    rollbacks (x :: h) = h.rollbacks + if x.rolledBack then 1 else 0 := List.countP_cons ..

theorem Unwritten.not_unsettled (unwritten : h.Unwritten) : ¬ h.Unsettled := by
  induction h with
  | nil => exact id
  | cons x h ih =>
    rintro ⟨-, wrote | unsettled⟩
    · rw [(unwritten_cons.mp unwritten).1] at wrote
      cases wrote
    · exact ih (unwritten_cons.mp unwritten).2 unsettled

end History

end SplitTest
