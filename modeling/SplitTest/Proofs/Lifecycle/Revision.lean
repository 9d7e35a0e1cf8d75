import SplitTest.Proofs.Lifecycle.Evolution
import SplitTest.Proofs.Store.Experiments
import SplitTest.Proofs.System.Quiet

namespace SplitTest

variable {ι : Type}

inductive Revision (s s' : Store) (task : Task) : Exchange → Prop
  | nothing {x : Exchange} (silent : x.saved? = none)
      (same : ∀ id, s'.experimentById id = s.experimentById id) : Revision s s' task x
  | created {settings : Settings} {service : Service} {row : Experiment}
      (job : task.job = .service settings service) (creates : service.Creates settings row)
      (fresh : s.experimentById row.id = none)
      (saved : ∀ id, s'.experimentById id = if row.id = id then some row else s.experimentById id) :
      Revision s s' task ⟨.call (.createExperiment row), .ok .inserted⟩
  | revised {settings : Settings} {service : Service} {e old row : Experiment} {expected : Status}
      (job : task.job = .service settings service) (target : service.target? = some row.id)
      (read : task.exchanges.Read row.id e) (revises : service.Revises e row expected)
      (evolves : e.Evolves old) (found : s.experimentById row.id = some old)
      (status : old.status = expected)
      (saved : ∀ id, s'.experimentById id = if row.id = id then some row else s.experimentById id) :
      Revision s s' task ⟨.call (.updateExperiment row expected), .ok .updated⟩

inductive Succeeds : Option Experiment → Option Experiment → Prop
  | same (row : Option Experiment) : Succeeds row row
  | born {e : Experiment} (draft : e.status = .draft) : Succeeds none (some e)
  | lived {e e' : Experiment} (evolves : e.Evolves e')
      (step : e.status = .draft ∧ e'.status = .draft ∨ Status.Next e.status e'.status) :
      Succeeds (some e) (some e')

theorem Succeeds.evolves {e : Experiment} {row : Option Experiment}
    (succeeds : Succeeds (some e) row) : ∃ e', row = some e' ∧ e.Evolves e' := by
  cases succeeds with
  | same => exact ⟨e, rfl, .refl e⟩
  | lived evolves step => exact ⟨_, rfl, evolves⟩

theorem Revision.succeeds {s s' : Store} {task : Task} {x : Exchange}
    (revision : Revision s s' task x) (id : Uuid) :
    Succeeds (s.experimentById id) (s'.experimentById id) := by
  cases revision with
  | nothing silent same =>
    rw [same]
    exact .same _
  | @created settings service row job creates fresh saved =>
    rw [saved]
    split
    case isFalse => exact .same _
    case isTrue same =>
      subst same
      rw [fresh]
      cases service with
      | create draft organization =>
        obtain ⟨-, now, same⟩ := creates
        exact .born (by rw [same]; rfl)
      | _ => exact creates.elim
  | @revised settings service e old row expected job target read revises evolves found status
      saved =>
    rw [saved]
    split
    case isFalse => exact .same _
    case isTrue same =>
      subst same
      rw [found]
      obtain ⟨evolves, step⟩ := revises.evolves evolves status
      exact .lived evolves step

theorem Revision.written {s s' : Store} {task : Task} {x : Exchange} {row : Experiment}
    (revision : Revision s s' task x) (saved : x.saved? = some row) :
    s'.experimentById row.id = some row ∧ (row.status ≠ .draft →
      ∃ old, s.experimentById row.id = some old ∧ Status.Next old.status row.status) := by
  cases revision with
  | nothing silent same =>
    rw [silent] at saved
    cases saved
  | @created settings service row job creates fresh stored =>
    cases saved
    refine ⟨by rw [stored, if_pos rfl], fun past => ?_⟩
    cases service with
    | create draft organization =>
      obtain ⟨-, now, same⟩ := creates
      exact absurd (by rw [same]; rfl) past
    | _ => exact creates.elim
  | revised job target read revises evolves found status stored =>
    cases saved
    refine ⟨by rw [stored, if_pos rfl], fun past => ⟨_, found, ?_⟩⟩
    obtain ⟨-, ⟨-, draft⟩ | next⟩ := revises.evolves evolves status
    · exact absurd draft past
    · exact next

namespace System

variable {w : System ι} {i : ι} {task : Task}

structure Steady (w : System ι) : Prop where
  orderly : Orderly w
  quiet : Quiet w
  built : w.store.Built
  reads : ∀ {i task}, (w.clients i).task = some task → ∀ {id e}, task.exchanges.Read id e →
    ∃ now, w.store.experimentById id = some now ∧ e.Evolves now

theorem steady_start {store : Store} {units : ι → UnitOfWork} (built : store.Built)
    (empty : ∀ i, (units i).pending = []) : Steady (start store units) where
  orderly := orderly_start store units
  quiet := quiet_start empty
  built := built
  reads := nofun

theorem read_step [DecidableEq ι] {move : Move ι}
    (busy : ((w.step move).clients i).task = some task) {id : Uuid} {e : Experiment}
    (read : task.exchanges.Read id e) :
    (∃ i task, (w.clients i).task = some task ∧ task.exchanges.Read id e) ∨
      w.store.experimentById id = some e := by
  obtain busy | ⟨job, -, rfl⟩ | ⟨chance, before, request, next, earlier, -, -, rfl⟩ :=
    busy_step busy
  · exact .inl ⟨i, task, busy, read⟩
  · cases read
  · obtain new | old := List.mem_cons.mp read
    · exact .inr (Request.perform_read new.symm)
    · exact .inl ⟨i, before, earlier, old⟩

namespace Steady

variable {request : Request} {next : Except Fault request.Reply → Program (Outcome Value)}

theorem revision (steady : Steady w) (chance : Chance) (busy : (w.clients i).task = some task)
    (rest : task.rest = .ask request next) :
    Revision w.store (request.perform chance w.store (w.clients i).unit).2.1 task
      ⟨request, (request.perform chance w.store (w.clients i).unit).1⟩ := by
  obtain ⟨settings, service, job⟩ := (steady.quiet i).served busy
  have meets := (steady.orderly.faithful busy).meets
  rw [rest, job, Program.meets_ask] at meets
  have saving : Saving w.store (request.perform chance w.store (w.clients i).unit).2.1 _ :=
    Request.perform_saving (steady.quiet.nothing_to_take_back steady.orderly busy rest)
  generalize told :
    (⟨request, (request.perform chance w.store (w.clients i).unit).1⟩ : Exchange) = x at saving ⊢
  cases saving with
  | nothing silent same => exact .nothing silent same
  | created fresh saved =>
    obtain ⟨rfl, -⟩ := Exchange.mk.inj told
    exact .created job meets.1 fresh saved
  | updated found status saved =>
    obtain ⟨rfl, -⟩ := Exchange.mk.inj told
    obtain ⟨id, e, target, read, revises⟩ := meets.1
    obtain ⟨now, stored, evolves⟩ := steady.reads busy read
    obtain rfl : id = _ := (steady.built.keyed.experiments stored).symm.trans
      (evolves.id.trans revises.id.symm)
    cases found.symm.trans stored
    exact .revised job target read revises evolves found status saved

variable [DecidableEq ι] {move : Move ι}

theorem revision_step (steady : Steady w) (calm : move.Quiet) :
    (∀ id, (w.step move).store.experimentById id = w.store.experimentById id) ∨
      ∃ i task x, (w.clients i).task = some task ∧ Revision w.store (w.step move).store task x := by
  have turn := w.turn_step move
  generalize w.step move = w' at turn ⊢
  cases turn with
  | answered busy rest => exact .inr ⟨_, _, _, busy, steady.revision _ busy rest⟩
  | tookBack busy rest left => exact (steady.quiet.not_left steady.orderly busy rest left).elim
  | meddled => exact calm.elim
  | _ => exact .inl fun _ => rfl

theorem succeeds_step (steady : Steady w) (calm : move.Quiet) (id : Uuid) :
    Succeeds (w.store.experimentById id) ((w.step move).store.experimentById id) := by
  obtain same | ⟨i, task, x, busy, revision⟩ := steady.revision_step calm
  · rw [same]
    exact .same _
  · exact revision.succeeds id

theorem evolves_step (steady : Steady w) (calm : move.Quiet) {id : Uuid} {e now : Experiment}
    (evolves : e.Evolves now) (stored : w.store.experimentById id = some now) :
    ∃ next, (w.step move).store.experimentById id = some next ∧ e.Evolves next := by
  have succeeds := steady.succeeds_step calm id
  rw [stored] at succeeds
  obtain ⟨next, stored', evolves'⟩ := succeeds.evolves
  exact ⟨next, stored', evolves.trans evolves'⟩

theorem step (steady : Steady w) (calm : move.Quiet) : Steady (w.step move) where
  orderly := steady.orderly.step move
  quiet := steady.quiet.step steady.orderly calm
  built := built_step steady.built
  reads busy id e read := by
    obtain ⟨i, task, busy, read⟩ | stored := read_step busy read
    · obtain ⟨now, stored, evolves⟩ := steady.reads busy read
      exact steady.evolves_step calm evolves stored
    · exact steady.evolves_step calm (.refl e) stored

theorem run {moves : List (Move ι)} (steady : Steady w) (calm : ∀ move ∈ moves, move.Quiet) :
    Steady (w.run moves) :=
  run_keeps Steady (fun _ move m steady => steady.step (calm move m)) steady

theorem evolves_run {moves : List (Move ι)} (steady : Steady w)
    (calm : ∀ move ∈ moves, move.Quiet) {id : Uuid} {e : Experiment}
    (stored : w.store.experimentById id = some e) :
    ∃ e', (w.run moves).store.experimentById id = some e' ∧ e.Evolves e' := by
  let keeps (w : System ι) : Prop :=
    Steady w ∧ ∃ now, w.store.experimentById id = some now ∧ e.Evolves now
  have kept : keeps (w.run moves) := by
    refine run_keeps keeps ?_ ⟨steady, e, stored, .refl e⟩
    rintro w move m ⟨steady, now, stored, evolves⟩
    exact ⟨steady.step (calm move m), steady.evolves_step (calm move m) evolves stored⟩
  exact kept.2

end Steady

end System

end SplitTest
