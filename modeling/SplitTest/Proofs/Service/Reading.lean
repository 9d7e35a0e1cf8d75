import SplitTest.Proofs.Service.Obeying
import SplitTest.Proofs.Service.Smooth
import SplitTest.Proofs.Service.Still
import SplitTest.Service

namespace SplitTest

/-- A call of a service in which nothing breaks down. In its unit of work nothing is pending, as
after every such call. -/
structure Errand where
  service : Service
  settings : Settings
  unit : UnitOfWork
  chances : Nat → Chance
  clear : unit.pending = []
  fair : ∀ n, (chances n).Fair

namespace Errand

def plain (service : Service) : Errand where
  service
  settings := {}
  unit := {}
  chances _ := {}
  clear := rfl
  fair _ := ⟨rfl, rfl, rfl⟩

def workplace (x : Errand) (s : Store) : Workplace :=
  { store := s, unit := x.unit, chances := x.chances }

def ran (x : Errand) (s : Store) : Except Fault (Outcome Value) × Workplace :=
  (x.service.program x.settings).run Workplace.reply (x.workplace s)

def answer (x : Errand) (s : Store) : Except Fault (Outcome Value) := (x.ran s).1

def leaves (x : Errand) (s : Store) : Store := (x.ran s).2.store

theorem still (x : Errand) (s : Store) (troubled : Prop) :
    (x.workplace s).Still troubled s where
  store := rfl
  clear := x.clear
  calls n broken := absurd (x.fair n).call broken
  events n := (x.fair n).event

end Errand

def Store.served (s : Store) (errands : List Errand) : Store :=
  errands.foldl (fun s x => x.leaves s) s

open Program

def Request.Reads (experiment : Uuid) : Request → Prop
  | .call (.experimentById id) | .call (.metricStats id _ _) | .call (.assignmentCounts id) =>
    id = experiment
  | .call _ | .now | .freshId => False
  | .commit | .rollback | .emit _ => True

inductive Service.Reports (experiment : Uuid) : Service → Prop
  | results (metric : String) (confidence : Option Float) (reductions : Stats.Reductions) :
      Reports experiment (.results experiment metric confidence reductions)
  | assignmentCounts : Reports experiment (.assignmentCounts experiment)

variable {experiment : Uuid} {h : History}

def Program.Reads {α : Type} (experiment : Uuid) (p : Program α) (h : History) : Prop :=
  p.Meets (fun _ r => r.Reads experiment) (fun _ _ => True) h

def Operation.Reads {α : Type} (experiment : Uuid) (op : Operation α) (h : History) : Prop :=
  op.Meets (fun _ r => r.Reads experiment) (fun _ _ => True) (fun _ _ => True)
    (fun _ _ => True) h

namespace Transaction

variable {α : Type} {component operation : String} {body : Operation α}

theorem run_reads (m : body.Reads experiment h) :
    (run component operation body).Reads experiment h := by
  have free (h : History) (r : Request) (ends : r.Ends) : r.Reads experiment := by
    cases r with
    | commit | rollback | emit _ => trivial
    | _ => exact ends.elim
  exact Program.Meets.mono (fun _ _ reads => reads) (fun _ _ _ => trivial)
    (run_obeys free (fun _ _ _ => trivial) m)

end Transaction

theorem Service.Reports.reads {service : Service} (reports : service.Reports experiment)
    (settings : Settings) : (service.program settings).Reads experiment h := by
  cases reports with
  | results metric confidence reductions =>
    rw [Program.Reads, program, meets_map]
    apply Transaction.run_reads
    refine Operation.obeys_ofOutcome (fun _ _ => trivial) fun _ _ => ?_
    refine Lifecycle.load_obeys rfl (fun _ => trivial) fun e => ?_
    refine Operation.obeys_bind rfl fun stats => Operation.obeys_ofExcept fun results _ => ?_
    exact Operation.obeys_bind trivial fun _ => trivial
  | assignmentCounts =>
    rw [Program.Reads, program, meets_map]
    apply Transaction.run_reads
    refine Lifecycle.load_obeys rfl (fun _ => trivial) fun e => ?_
    exact Operation.obeys_request rfl

namespace Workplace

structure Level (experiment : Uuid) (w w' : Workplace) : Prop where
  stored : w.store.experimentById experiment = w'.store.experimentById experiment
  stats : ∀ metric reductions, w.store.metricStats experiment metric reductions =
    w'.store.metricStats experiment metric reductions
  counts : w.store.assignmentCounts experiment = w'.store.assignmentCounts experiment
  still : w.Still False w.store
  still' : w'.Still False w'.store

variable {w w' : Workplace}

theorem Level.kept {v v' : Workplace} (level : w.Level experiment w')
    (still : v.Still False w.store) (still' : v'.Still False w'.store) :
    v.Level experiment v' where
  stored := by rw [still.store, still'.store, level.stored]
  stats metric reductions := by rw [still.store, still'.store, level.stats]
  counts := by rw [still.store, still'.store, level.counts]
  still := by rwa [still.store]
  still' := by rwa [still'.store]

theorem Still.call {base : Store} (still : w.Still False base) {c : Call}
    {told : Except Fault c.Reply} (done : c.perform base = (told, base))
    (nothing : ∀ s reply, c.undo? s reply = none) :
    (Workplace.reply (.call c) w).1 = told ∧ (Workplace.reply (.call c) w).2.Still False base := by
  have whole : (w.chances 0).call = none := Classical.not_not.mp (still.calls 0)
  apply still.silent
  cases told <;>
    simp only [Request.perform, whole, still.store, done, nothing, UnitOfWork.remember_none]

theorem Level.call (level : w.Level experiment w') {c : Call} {told : Except Fault c.Reply}
    (done : c.perform w.store = (told, w.store)) (done' : c.perform w'.store = (told, w'.store))
    (nothing : ∀ s reply, c.undo? s reply = none) :
    (reply (.call c) w).1 = (reply (.call c) w').1 ∧
      (reply (.call c) w).2.Level experiment (reply (.call c) w').2 := by
  obtain ⟨answer, still⟩ := level.still.call done nothing
  obtain ⟨answer', still'⟩ := level.still'.call done' nothing
  exact ⟨answer.trans answer'.symm, level.kept still still'⟩

theorem Level.reply (level : w.Level experiment w') {r : Request} (reads : r.Reads experiment) :
    (reply r w).1 = (reply r w').1 ∧ (reply r w).2.Level experiment (reply r w').2 := by
  cases r with
  | call c =>
    cases c with
    | experimentById id =>
      cases reads
      exact level.call rfl (by rw [Call.perform, level.stored]) fun _ _ => rfl
    | metricStats id metric reductions =>
      cases reads
      exact level.call rfl (by rw [Call.perform, level.stats]) fun _ _ => rfl
    | assignmentCounts id =>
      cases reads
      exact level.call rfl (by rw [Call.perform, level.counts]) fun _ _ => rfl
    | _ => cases reads
  | commit => exact ⟨rfl, level.kept (level.still.reply rfl rfl) (level.still'.reply rfl rfl)⟩
  | rollback =>
    obtain ⟨v, told, still⟩ := level.still.rollback
    obtain ⟨v', told', still'⟩ := level.still'.rollback
    rw [told, told']
    exact ⟨rfl, level.kept still still'⟩
  | emit event =>
    obtain ⟨v, told, still⟩ := level.still.emit event
    obtain ⟨v', told', still'⟩ := level.still'.emit event
    rw [told, told']
    exact ⟨rfl, level.kept still still'⟩
  | _ => cases reads

end Workplace

theorem Errand.answer_congr {x y : Errand} {s t : Store} (reports : x.service.Reports experiment)
    (service : x.service = y.service) (settings : x.settings = y.settings)
    (stored : s.experimentById experiment = t.experimentById experiment)
    (stats : ∀ metric reductions,
      s.metricStats experiment metric reductions = t.metricStats experiment metric reductions)
    (counts : s.assignmentCounts experiment = t.assignmentCounts experiment) :
    x.answer s = y.answer t := by
  have level : (x.workplace s).Level experiment (y.workplace t) :=
    ⟨stored, stats, counts, x.still s False, y.still t False⟩
  have reads := reports.reads (h := []) x.settings
  obtain ⟨same, -⟩ := reads.run_both (fun _ => Workplace.Level experiment)
    (fun _ _ _ _ reads level => level.reply reads) level
  rw [answer, answer, ran, ran, ← service, ← settings]
  exact same

end SplitTest
