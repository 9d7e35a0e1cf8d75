import SplitTest.Proofs.Store.Requests

namespace SplitTest

namespace Store

/-- A store that calls, and steps that take writes back, made of an empty one. -/
inductive Built : Store → Prop
  | empty : Built {}
  | call {s : Store} (c : Call) : Built s → Built (c.perform s).2
  | undo {s : Store} (u : Undo) : Built s → Built (u.perform s)

structure Keyed (s : Store) : Prop where
  experiments : ∀ {id : Uuid} {e : Experiment}, s.experimentById id = some e → e.id = id
  assignments : ∀ {key : AssignmentKey} {a : Assignment}, s.assignments[key]? = some a → a.key = key

variable {s : Store}

theorem Keyed.id_eq (keyed : s.Keyed) {id : Uuid} {stored : StoredExperiment}
    (found : s.experiments[id]? = some stored) : stored.row.id = id :=
  keyed.experiments (congrArg (Option.map _) found)

theorem Keyed.saved {s' : Store} {row : Experiment} (keyed : s.Keyed)
    (assignments : s'.assignments = s.assignments)
    (saved : ∀ id, s'.experimentById id = if row.id = id then some row else s.experimentById id) :
    s'.Keyed where
  experiments found := by
    rw [saved] at found
    split at found
    · cases found
      assumption
    · exact keyed.experiments found
  assignments found := keyed.assignments (assignments ▸ found)

theorem Keyed.call {c : Call} {reply : Except Fault c.Reply} {s' : Store} (keyed : s.Keyed)
    (effect : c.Effect s reply s') : s'.Keyed := by
  cases effect with
  | silent => exact keyed
  | created fresh same saved => exact keyed.saved same saved
  | updated found status same saved => exact keyed.saved same saved
  | bound fresh same bound =>
    refine ⟨fun found => keyed.experiments ((same _).symm.trans found), fun {key a} found => ?_⟩
    rw [bound] at found
    split at found
    · cases found
      assumption
    · exact keyed.assignments found
  | recorded assignments same =>
    refine ⟨fun found => keyed.experiments ((same _).symm.trans found), fun found => ?_⟩
    exact keyed.assignments (assignments ▸ found)

theorem Keyed.undo (keyed : s.Keyed) (u : Undo) : (u.perform s).Keyed := by
  cases u with
  | eraseExperiment id =>
    obtain same | ⟨same, erased⟩ := s.eraseExperiment_cases id
    · rw [Undo.perform, same]
      exact keyed
    · refine ⟨fun found => ?_, fun found => keyed.assignments (same ▸ found)⟩
      rw [Undo.perform, erased] at found
      split at found
      · cases found
      · exact keyed.experiments found
  | restoreExperiment row =>
    obtain same | ⟨same, saved⟩ := s.restoreExperiment_cases row
    · rw [Undo.perform, same]
      exact keyed
    · exact keyed.saved same saved
  | eraseAssignment experiment subject =>
    refine ⟨keyed.experiments, fun found => ?_⟩
    rw [Undo.perform, eraseAssignment_getElem?] at found
    split at found
    · cases found
    · exact keyed.assignments found
  | eraseObservation sequence => exact ⟨keyed.experiments, keyed.assignments⟩

theorem Built.keyed (built : s.Built) : s.Keyed := by
  induction built with
  | empty => exact ⟨nofun, nofun⟩
  | call c built ih => exact ih.call (c.perform_effect _)
  | undo u built ih => exact ih.undo u

end Store

theorem UnitOfWork.unwind_keeps (keeps : Store → Prop) {chance : Chance} {pending : List Undo}
    {s : Store} (undo : ∀ s (u : Undo), keeps s → keeps (u.perform s)) (kept : keeps s) :
    keeps (unwind chance.attempt pending s).2 := by
  induction pending generalizing s with
  | nil => exact kept
  | cons u pending ih =>
    cases broken : chance.undo with
    | none =>
      have taken : chance.attempt u s = (none, u.perform s) := by simp only [Chance.attempt, broken]
      rw [unwind, taken]
      exact ih (undo s u kept)
    | some fault =>
      have stuck : chance.attempt u s = (some fault, s) := by simp only [Chance.attempt, broken]
      rw [unwind, stuck]
      exact kept

theorem Store.Built.request {s : Store} (built : s.Built) (r : Request) (chance : Chance)
    (u : UnitOfWork) : (r.perform chance s u).2.1.Built := by
  cases r with
  | call c =>
    cases broken : chance.call with
    | some fault => simpa only [Request.perform, broken] using built
    | none =>
      have called := built.call c
      rcases done : c.perform s with ⟨fault | reply, s'⟩
      all_goals
        rw [done] at called
        simpa only [Request.perform, broken, done] using called
  | rollback => exact UnitOfWork.unwind_keeps Store.Built (fun _ u built => built.undo u) built
  | _ => exact built

end SplitTest
