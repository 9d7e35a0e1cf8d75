import SplitTest.Proofs.Store.Built

namespace SplitTest

namespace Store

def assignmentRows (experiment subject : Uuid) (s : Store) : List Assignment :=
  (s.assignments.toList.map (·.2)).filter (·.key = (experiment, subject))

variable {s : Store} {experiment subject : Uuid}

theorem Keyed.mem_assignmentRows (keyed : s.Keyed) {a : Assignment} :
    a ∈ s.assignmentRows experiment subject ↔ s.assignments[(experiment, subject)]? = some a := by
  simp only [assignmentRows, List.mem_filter, List.mem_map, decide_eq_true_eq]
  constructor
  · rintro ⟨⟨⟨key, a⟩, m, rfl⟩, same⟩
    have found := Std.ExtTreeMap.mem_toList_iff_getElem?_eq_some.mp m
    rw [← same, keyed.assignments found]
    exact found
  · intro found
    exact ⟨⟨_, Std.ExtTreeMap.mem_toList_iff_getElem?_eq_some.mpr found, rfl⟩,
      keyed.assignments found⟩

theorem Keyed.assignmentRows_pairwise (keyed : s.Keyed) :
    (s.assignmentRows experiment subject).Pairwise fun _ _ => False := by
  have distinct : (s.assignments.toList.map (·.2)).Pairwise (·.key ≠ ·.key) := by
    rw [List.pairwise_map]
    refine Std.ExtTreeMap.distinct_keys_toList.imp_of_mem fun {x y} mx my apart same => ?_
    have foundx := Std.ExtTreeMap.mem_toList_iff_getElem?_eq_some.mp mx
    have foundy := Std.ExtTreeMap.mem_toList_iff_getElem?_eq_some.mp my
    rw [keyed.assignments foundx, keyed.assignments foundy] at same
    exact apart (Std.LawfulEqCmp.compare_eq_iff_eq.mpr same)
  refine (distinct.filter _).imp_of_mem fun ma mb apart => apart ?_
  have ka := of_decide_eq_true (List.mem_filter.mp ma).2
  have kb := of_decide_eq_true (List.mem_filter.mp mb).2
  exact ka.trans kb.symm

theorem Keyed.assignmentRows_eq (keyed : s.Keyed) :
    s.assignmentRows experiment subject = s.assignments[(experiment, subject)]?.toList := by
  have member (a : Assignment) : a ∈ s.assignmentRows experiment subject ↔ _ :=
    keyed.mem_assignmentRows
  have apart : (s.assignmentRows experiment subject).Pairwise _ := keyed.assignmentRows_pairwise
  generalize s.assignmentRows experiment subject = rows at member apart
  cases rows with
  | nil =>
    cases found : s.assignments[(experiment, subject)]? with
    | none => rfl
    | some a => exact absurd ((member a).mpr found) (List.not_mem_nil)
  | cons a rows =>
    rw [(member a).mp List.mem_cons_self]
    cases rows with
    | nil => rfl
    | cons b rows => exact ((List.pairwise_cons.mp apart).1 b List.mem_cons_self).elim

theorem getElem?_of_shrinks {s s' : Store} {key : AssignmentKey} {a : Assignment}
    (shrinks : ∀ b, s'.assignments[key]? = some b → s.assignments[key]? = some b)
    (found : s.assignments[key]? = some a) (stays : key ∈ s'.assignments) :
    s'.assignments[key]? = some a := by
  have left := Std.ExtTreeMap.getElem?_eq_some_getElem stays
  exact left.trans ((shrinks _ left).symm.trans found)

theorem undo_assignments (u : Undo) {key : AssignmentKey} {a : Assignment}
    (found : (u.perform s).assignments[key]? = some a) : s.assignments[key]? = some a := by
  cases u with
  | eraseExperiment id =>
    obtain same | ⟨same, -⟩ := s.eraseExperiment_cases id
    · rwa [Undo.perform, same] at found
    · rwa [Undo.perform, same] at found
  | restoreExperiment row =>
    obtain same | ⟨same, -⟩ := s.restoreExperiment_cases row
    · rwa [Undo.perform, same] at found
    · rwa [Undo.perform, same] at found
  | eraseAssignment experiment subject =>
    rw [Undo.perform, eraseAssignment_getElem?] at found
    split at found
    · cases found
    · exact found
  | eraseObservation sequence => exact found

end Store

variable {s : Store} {key : AssignmentKey} {a : Assignment}

namespace Call.Effect

variable {c : Call} {reply : Except Fault c.Reply} {s' : Store}

theorem assignments (effect : c.Effect s reply s') (found : s.assignments[key]? = some a) :
    s'.assignments[key]? = some a := by
  cases effect with
  | silent => exact found
  | created fresh same saved => rwa [same]
  | updated present status same saved => rwa [same]
  | @bound row s' fresh same bound =>
    have other : row.key ≠ key := by
      rintro rfl
      cases fresh.symm.trans found
    rwa [bound, if_neg other]
  | recorded same => rwa [same]

theorem assignments_cases (effect : c.Effect s reply s') (found : s'.assignments[key]? = some a) :
    s.assignments[key]? = some a ∨ c = .createAssignment a ∧ a.key = key := by
  cases effect with
  | silent => exact .inl found
  | created fresh same saved =>
    rw [same] at found
    exact .inl found
  | updated present status same saved =>
    rw [same] at found
    exact .inl found
  | bound fresh same bound =>
    rw [bound] at found
    split at found
    case isTrue own =>
      cases found
      exact .inr ⟨rfl, own⟩
    case isFalse => exact .inl found
  | recorded same =>
    rw [same] at found
    exact .inl found

theorem assignment? (effect : c.Effect s reply s')
    (told : Exchange.assignment? ⟨.call c, reply⟩ = some (key, a)) :
    s'.assignments[key]? = some a := by
  cases effect with
  | silent silent answered =>
    cases c with
    | assignment experiment subject =>
      rcases reply with fault | _ | row
      · cases told
      · cases told
      · cases told
        exact Except.ok.inj (congrArg Prod.fst (answered _ rfl))
    | createAssignment row =>
      rcases reply with fault | _ | _
      · cases told
      · cases silent
      · cases told
    | _ => cases told
  | bound fresh same bound =>
    cases told
    rw [bound, if_pos rfl]
  | _ => cases told

end Call.Effect

namespace Request

variable {chance : Chance} {u : UnitOfWork}

theorem perform_assignments (r : Request) (found : s.assignments[key]? = some a)
    (stays : key ∈ (r.perform chance s u).2.1.assignments) :
    (r.perform chance s u).2.1.assignments[key]? = some a := by
  cases r with
  | call c =>
    obtain ⟨reply, s', u', done, effect, -⟩ := perform_call c chance s u
    rw [done]
    exact effect.assignments found
  | rollback =>
    refine Store.getElem?_of_shrinks ?_ found stays
    exact UnitOfWork.unwind_keeps
      (fun s' => ∀ b, s'.assignments[key]? = some b → s.assignments[key]? = some b)
      (fun s' v kept b left => kept b (Store.undo_assignments v left)) fun _ => id
  | _ => exact found

theorem perform_mem_assignments {r : Request} (empty : r = .rollback → u.pending = [])
    (present : key ∈ s.assignments) : key ∈ (r.perform chance s u).2.1.assignments := by
  cases r with
  | call c =>
    obtain ⟨reply, s', u', done, effect, -⟩ := perform_call c chance s u
    rw [done]
    have kept := effect.assignments (Std.ExtTreeMap.getElem?_eq_some_getElem present)
    exact Std.ExtTreeMap.mem_iff_isSome_getElem?.mpr (Option.isSome_of_eq_some kept)
  | rollback => rwa [perform_rollback (empty rfl)]
  | _ => exact present

theorem perform_assignments_cases (r : Request)
    (found : (r.perform chance s u).2.1.assignments[key]? = some a) :
    s.assignments[key]? = some a ∨ r = .call (.createAssignment a) ∧ a.key = key := by
  cases r with
  | call c =>
    obtain ⟨reply, s', u', done, effect, -⟩ := perform_call c chance s u
    rw [done] at found
    obtain old | ⟨rfl, own⟩ := effect.assignments_cases found
    · exact .inl old
    · exact .inr ⟨rfl, own⟩
  | rollback =>
    left
    revert found
    exact UnitOfWork.unwind_keeps
      (fun s' => s'.assignments[key]? = some a → s.assignments[key]? = some a)
      (fun s' v kept left => kept (Store.undo_assignments v left)) id
  | _ => exact .inl found

theorem perform_assignment? (r : Request)
    (told : Exchange.assignment? ⟨r, (r.perform chance s u).1⟩ = some (key, a)) :
    (r.perform chance s u).2.1.assignments[key]? = some a := by
  cases r with
  | call c =>
    obtain ⟨reply, s', u', done, effect, -⟩ := perform_call c chance s u
    rw [done] at told ⊢
    exact effect.assignment? told
  | _ => cases told

end Request

end SplitTest
