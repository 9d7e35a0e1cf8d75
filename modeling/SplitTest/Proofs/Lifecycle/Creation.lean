import SplitTest.Proofs.System.Orderly

namespace SplitTest

open Transaction

def Exchange.created? : Exchange → Option Experiment
  | ⟨.call (.createExperiment row), .ok .inserted⟩ => some row
  | _ => none

structure Draft.Inserted (draft : Draft) (organization : Uuid) (h : History) (row : Experiment) :
    Prop where
  named : row.nameKey = (organization, draft.name)
  inserted : ∃ x ∈ h, x.created? = some row
  rollbacks : h.rollbacks = 0

def Job.Created (job : Job) (h : History) (result : Except Fault (Outcome Value)) : Prop :=
  ∀ settings draft organization value, job = .service settings (.create draft organization) →
    result = .ok (.ok value) → ∃ row, value = .experiment row ∧
      draft.Inserted organization h row ∧ ¬ h.Unsettled

theorem Lifecycle.create_inserts {settings : Settings} {draft : Draft} {organization : Uuid} :
    (create settings draft organization).Meets ((Service.create draft organization).law settings)
      (Fit "create" [] fun h e => draft.Inserted organization h e) [] := by
  apply run_meets
  apply Body.bind
  apply Body.ofOutcome
  · simp
  intro _ checked
  apply Body.bind
  apply Body.call
  · simp
  · trivial
  intro found
  split
  · exact .throw (by simp)
  · refine .bind (.freshId fun id => .bind (.now fun now => .bind (.call ?_ ?_ fun reply => ?_)))
    · simp
    · exact ⟨checked, now, rfl⟩
    · cases reply with
      | conflict => exact .throw (by simp)
      | inserted =>
        apply Body.bind
        apply Body.emit
        apply Body.pure
        refine ⟨by simp, rfl, ?_, by simp [History.rollbacks]⟩
        exact ⟨_, List.mem_cons_of_mem _ List.mem_cons_self, rfl⟩

theorem Job.program_created (job : Job) : job.program.Meets job.law job.Created [] := by
  have other (apart : ∀ settings draft organization,
      job ≠ .service settings (.create draft organization)) :
      job.program.Meets job.law job.Created [] := by
    apply job.program_meets.mono (fun _ _ lawful => lawful)
    intro h result _ settings draft organization value same
    exact absurd same (apart settings draft organization)
  cases job with
  | other p => exact other fun _ _ _ same => by cases same
  | service settings service =>
    cases service with
    | create draft organization =>
      rw [program, Service.program, Program.meets_map]
      apply Lifecycle.create_inserts.mono (fun _ _ lawful => lawful)
      intro h result fits settings' draft' organization' value same answered
      cases same
      obtain ⟨row, rfl, rfl⟩ := Service.map_answered answered
      obtain ⟨h₁, rfl, inserted⟩ := fits.2.1 row rfl
      obtain ⟨x, m, created⟩ := inserted.inserted
      refine ⟨row, rfl, ⟨inserted.named, ?_, inserted.rollbacks⟩, ?_⟩
      · exact ⟨x, List.mem_cons_of_mem _ m, created⟩
      · simp [History.Unsettled]
    | _ => exact other fun _ _ _ same => by cases same

namespace System

variable {ι : Type} {w : System ι}

def Creating (w : System ι) : Prop := ∀ i task, (w.clients i).task = some task →
  task.rest.Meets task.job.law task.job.Created task.exchanges

theorem creating_start (store : Store) (units : ι → UnitOfWork) :
    (start store units).Creating := by
  intro i task busy
  cases busy

variable [DecidableEq ι]

theorem Creating.step {move : Move ι} (creating : w.Creating) : (w.step move).Creating := by
  intro i task busy
  obtain busy | ⟨job, -, rfl⟩ | ⟨chance, before, request, next, earlier, rest, -, rfl⟩ :=
    busy_step busy
  · exact creating i task busy
  · exact job.program_created
  · have meets := creating i before earlier
    rw [rest, Program.meets_ask] at meets
    exact meets.2 _

end System

end SplitTest
