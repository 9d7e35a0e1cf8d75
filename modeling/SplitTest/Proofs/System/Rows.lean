import SplitTest.Proofs.Store.Experiments
import SplitTest.Proofs.System.Pending

namespace SplitTest

theorem Call.stored_of_restore {c : Call} {s : Store} {reply : c.Reply} {row : Experiment}
    (kept : c.undo? s reply = some (.restoreExperiment row)) :
    ∃ id, s.experimentById id = some row := by
  cases c with
  | createExperiment row' => cases reply <;> cases kept
  | createAssignment row' => cases reply <;> cases kept
  | updateExperiment row' expected =>
    cases reply with
    | updated =>
      obtain ⟨old, stored, same⟩ := Option.map_eq_some_iff.mp kept
      cases same
      exact ⟨row'.id, stored⟩
    | _ => cases kept
  | _ => cases kept

namespace System

variable {ι : Type} {w w' : System ι} {i : ι} {id : Uuid} {e : Experiment}

inductive Arrival (w w' : System ι) (e : Experiment) : Prop
  | stayed (id : Uuid) (stored : w.store.experimentById id = some e)
  | created (i : ι) (task : Task) (next : Except Fault InsertOutcome → Program (Outcome Value))
      (busy : (w.clients i).task = some task)
      (rest : task.rest = .ask (.call (.createExperiment e)) next)
      (trace : w'.trace = ⟨i, task.ticket, task.job,
        .replied ⟨.call (.createExperiment e), .ok .inserted⟩⟩ :: w.trace)
  | revised (i : ι) (task : Task) (expected : Status)
      (next : Except Fault UpdateOutcome → Program (Outcome Value))
      (busy : (w.clients i).task = some task)
      (rest : task.rest = .ask (.call (.updateExperiment e expected)) next)
  | restored (i : ι) (kept : .restoreExperiment e ∈ w.pending i)

theorem Shift.arrival (shift : Shift w w') (stored : w'.store.experimentById id = some e) :
    Arrival w w' e := by
  cases shift with
  | dropped store left trace =>
    rw [store] at stored
    exact .stayed id stored
  | called i task c next reply busy rest performed kept others trace =>
    cases (Call.effect_of_perform performed).saving with
    | nothing silent same => exact .stayed id ((same id).symm.trans stored)
    | created fresh saved =>
      rw [saved] at stored
      split at stored
      · cases stored
        exact .created i task next busy rest trace
      · exact .stayed id stored
    | updated found status saved =>
      rw [saved] at stored
      split at stored
      · cases stored
        exact .revised i task _ next busy rest
      · exact .stayed id stored
  | undone i task next undo busy rest store left others trace =>
    rw [store] at stored
    cases undo with
    | eraseExperiment gone =>
      obtain same | ⟨-, erased⟩ := w.store.eraseExperiment_cases gone
      · rw [Undo.perform, same] at stored
        exact .stayed id stored
      · rw [Undo.perform, erased] at stored
        split at stored
        · cases stored
        · exact .stayed id stored
    | restoreExperiment row =>
      obtain same | ⟨-, saved⟩ := w.store.restoreExperiment_cases row
      · rw [Undo.perform, same] at stored
        exact .stayed id stored
      · rw [Undo.perform, saved] at stored
        split at stored
        · cases stored
          refine .restored i ?_
          rw [left]
          exact List.mem_cons_self
        · exact .stayed id stored
    | _ => exact .stayed id stored

theorem Shift.mem_restores (shift : Shift w w') (m : .restoreExperiment e ∈ w'.pending i) :
    .restoreExperiment e ∈ w.pending i ∨ ∃ id, w.store.experimentById id = some e := by
  cases shift with
  | dropped store left trace => exact .inl ((left i).subset m)
  | called j task c next reply busy rest performed kept others trace =>
    by_cases mine : i = j
    · rw [mine, kept, List.mem_append, Option.mem_toList] at m
      obtain new | old := m
      · exact .inr (Call.stored_of_restore new)
      · rw [mine]
        exact .inl old
    · rw [others i mine] at m
      exact .inl m
  | undone j task next undo busy rest store left others trace =>
    by_cases mine : i = j
    · rw [mine] at m ⊢
      rw [left]
      exact .inl (List.mem_cons_of_mem _ m)
    · rw [others i mine] at m
      exact .inl m

end System

end SplitTest
