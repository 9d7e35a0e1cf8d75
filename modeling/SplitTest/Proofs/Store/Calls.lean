import SplitTest.Proofs.Program.History

namespace SplitTest

namespace Exchange

def saved? : Exchange → Option Experiment
  | ⟨.call (.createExperiment row), .ok .inserted⟩ => some row
  | ⟨.call (.updateExperiment row _), .ok .updated⟩ => some row
  | _ => none

def assignment? : Exchange → Option (AssignmentKey × Assignment)
  | ⟨.call (.assignment experiment subject), .ok (some row)⟩ => some ((experiment, subject), row)
  | ⟨.call (.createAssignment row), .ok .inserted⟩ => some (row.key, row)
  | _ => none

theorem saved?_eq_none {x : Exchange} (silent : x.wrote = false) : x.saved? = none := by
  unfold saved?
  split
  · cases silent
  · cases silent
  · rfl

end Exchange

namespace Store

variable {s : Store} {id : Uuid}

theorem experimentById_insert {experiments : Std.ExtTreeMap Uuid StoredExperiment}
    {stored : StoredExperiment} {key : Uuid} :
    (experiments.insert key stored)[id]?.map StoredExperiment.row =
      if key = id then some stored.row else experiments[id]?.map StoredExperiment.row := by
  rw [Std.ExtTreeMap.getElem?_insert]
  simp only [Std.LawfulEqCmp.compare_eq_iff_eq]
  split <;> rfl

theorem createExperiment_cases (row : Experiment) (s : Store) :
    s.createExperiment row = (.conflict, s) ∨
      ∃ s', s.createExperiment row = (.inserted, s') ∧ s.experimentById row.id = none ∧
        s'.assignments = s.assignments ∧
        ∀ id, s'.experimentById id = if row.id = id then some row else s.experimentById id := by
  unfold createExperiment
  split
  case isTrue => exact .inl rfl
  case isFalse fresh =>
    refine .inr ⟨_, rfl, ?_, rfl, fun id => experimentById_insert⟩
    rw [experimentById, Std.ExtTreeMap.getElem?_eq_none fun taken => fresh (.inl taken)]
    rfl

theorem updateExperiment_cases (row : Experiment) (expected : Status) (s : Store) :
    (∃ outcome, outcome ≠ .updated ∧ s.updateExperiment row expected = (outcome, s)) ∨
      ∃ old s', s.updateExperiment row expected = (.updated, s') ∧
        s.experimentById row.id = some old ∧ old.status = expected ∧
        s'.assignments = s.assignments ∧
        ∀ id, s'.experimentById id = if row.id = id then some row else s.experimentById id := by
  unfold updateExperiment
  cases found : s.experiments[row.id]? with
  | none => exact .inl ⟨.notFound, nofun, rfl⟩
  | some old =>
    dsimp only
    split
    case isTrue same =>
      refine .inr ⟨old.row, _, rfl, ?_, same, rfl, fun id => experimentById_insert⟩
      rw [experimentById, found]
      rfl
    case isFalse => exact .inl ⟨.statusChanged, nofun, rfl⟩

theorem createAssignment_cases (row : Assignment) (s : Store) :
    s.createAssignment row = (.conflict, s) ∨
      ∃ s', s.createAssignment row = (.inserted, s') ∧ s.assignments[row.key]? = none ∧
        (∀ id, s'.experimentById id = s.experimentById id) ∧
        ∀ key, s'.assignments[key]? = if row.key = key then some row else s.assignments[key]? := by
  unfold createAssignment
  split
  case isTrue => exact .inl rfl
  case isFalse fresh =>
    refine .inr ⟨_, rfl, Std.ExtTreeMap.getElem?_eq_none fresh, fun _ => rfl, fun key => ?_⟩
    rw [Std.ExtTreeMap.getElem?_insert]
    simp only [Std.LawfulEqCmp.compare_eq_iff_eq]

theorem restoreExperiment_cases (row : Experiment) (s : Store) :
    s.restoreExperiment row = s ∨
      (s.restoreExperiment row).assignments = s.assignments ∧ ∀ id,
        (s.restoreExperiment row).experimentById id =
          if row.id = id then some row else s.experimentById id := by
  unfold restoreExperiment
  split
  · exact .inl rfl
  · exact .inr ⟨rfl, fun id => experimentById_insert⟩

theorem eraseExperiment_cases (id : Uuid) (s : Store) :
    s.eraseExperiment id = s ∨
      (s.eraseExperiment id).assignments = s.assignments ∧ ∀ id',
        (s.eraseExperiment id).experimentById id' =
          if id = id' then none else s.experimentById id' := by
  unfold eraseExperiment
  split
  · exact .inl rfl
  · refine .inr ⟨rfl, fun id' => ?_⟩
    simp only [experimentById, Std.ExtTreeMap.getElem?_erase, Std.LawfulEqCmp.compare_eq_iff_eq]
    split <;> rfl

theorem eraseAssignment_getElem? (experiment subject : Uuid) (s : Store) (key : AssignmentKey) :
    (s.eraseAssignment experiment subject).assignments[key]? =
      if (experiment, subject) = key then none else s.assignments[key]? := by
  rw [eraseAssignment, Std.ExtTreeMap.getElem?_erase]
  simp only [Std.LawfulEqCmp.compare_eq_iff_eq]

end Store

namespace Call

inductive Effect (s : Store) : (c : Call) → Except Fault c.Reply → Store → Prop
  | silent {c : Call} {reply : Except Fault c.Reply}
      (silent : Exchange.wrote ⟨.call c, reply⟩ = false)
      (told : ∀ r, reply = .ok r → c.perform s = (.ok r, s)) : Effect s c reply s
  | created {row : Experiment} {s' : Store} (fresh : s.experimentById row.id = none)
      (same : s'.assignments = s.assignments)
      (saved : ∀ id, s'.experimentById id = if row.id = id then some row else s.experimentById id) :
      Effect s (.createExperiment row) (.ok .inserted) s'
  | updated {row old : Experiment} {expected : Status} {s' : Store}
      (found : s.experimentById row.id = some old) (status : old.status = expected)
      (same : s'.assignments = s.assignments)
      (saved : ∀ id, s'.experimentById id = if row.id = id then some row else s.experimentById id) :
      Effect s (.updateExperiment row expected) (.ok .updated) s'
  | bound {row : Assignment} {s' : Store} (fresh : s.assignments[row.key]? = none)
      (same : ∀ id, s'.experimentById id = s.experimentById id)
      (bound : ∀ key,
        s'.assignments[key]? = if row.key = key then some row else s.assignments[key]?) :
      Effect s (.createAssignment row) (.ok .inserted) s'
  | recorded {row : Observation} {s' : Store} (assignments : s'.assignments = s.assignments)
      (same : ∀ id, s'.experimentById id = s.experimentById id) :
      Effect s (.recordMetric row) (.ok ()) s'

theorem perform_effect (c : Call) (s : Store) : c.Effect s (c.perform s).1 (c.perform s).2 := by
  cases c with
  | createExperiment row =>
    obtain conflict | ⟨s', inserted, fresh, same, saved⟩ := s.createExperiment_cases row
    · have done : (createExperiment row).perform s = (.ok .conflict, s) := by
        simp only [perform, conflict]
      rw [done]
      exact .silent rfl fun r same => done.trans (congrArg (·, s) same)
    · simp only [perform, inserted]
      exact .created fresh same saved
  | updateExperiment row expected =>
    obtain ⟨outcome, failed, unchanged⟩ | ⟨old, s', updated, found, status, same, saved⟩ :=
      s.updateExperiment_cases row expected
    · have done : (updateExperiment row expected).perform s = (.ok outcome, s) := by
        simp only [perform, unchanged]
      rw [done]
      refine .silent ?_ fun r same => done.trans (congrArg (·, s) same)
      cases outcome with
      | updated => exact absurd rfl failed
      | _ => rfl
    · simp only [perform, updated]
      exact .updated found status same saved
  | createAssignment row =>
    obtain conflict | ⟨s', inserted, fresh, same, bound⟩ := s.createAssignment_cases row
    · have done : (createAssignment row).perform s = (.ok .conflict, s) := by
        simp only [perform, conflict]
      rw [done]
      exact .silent rfl fun r same => done.trans (congrArg (·, s) same)
    · simp only [perform, inserted]
      exact .bound fresh same bound
  | recordMetric row => exact .recorded rfl fun _ => rfl
  | _ => exact .silent rfl fun _ same => congrArg (·, s) same

theorem effect_of_perform {c : Call} {s s' : Store} {reply : Except Fault c.Reply}
    (performed : c.perform s = (reply, s')) : c.Effect s reply s' := by
  have effect := c.perform_effect s
  rw [performed] at effect
  exact effect

theorem Effect.eq_of_silent {c : Call} {s s' : Store} {reply : Except Fault c.Reply}
    (effect : c.Effect s reply s') (silent : Exchange.wrote ⟨.call c, reply⟩ = false) : s' = s := by
  cases effect with
  | silent => rfl
  | _ => cases silent

theorem undo?_eq_none {c : Call} {s : Store} {r : c.Reply}
    (silent : Exchange.wrote ⟨.call c, .ok r⟩ = false) : c.undo? s r = none := by
  cases c with
  | createExperiment row => cases r with
    | inserted => cases silent
    | conflict => rfl
  | updateExperiment row expected => cases r with
    | updated => cases silent
    | _ => rfl
  | createAssignment row => cases r with
    | inserted => cases silent
    | conflict => rfl
  | recordMetric row => cases silent
  | _ => rfl

end Call

end SplitTest
