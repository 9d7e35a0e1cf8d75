import SplitTest.Proofs.Lifecycle.Chronicle

namespace SplitTest

variable {ι : Type}

namespace Experiment

structure Timely (e : Experiment) : Prop where
  started : e.startedAt.isSome ↔ e.status = .running ∨ e.status = .completed
  ended : e.endedAt.isSome ↔ e.status = .completed

structure Endures (e e' : Experiment) : Prop extends Evolves e e' where
  startedAt : ∀ t, e.startedAt = some t → e'.startedAt = some t
  endedAt : ∀ t, e.endedAt = some t → e'.endedAt = some t
  completed : e.status = .completed → e' = e

theorem Timely.endures {e e' : Experiment} (timely : e.Timely) (evolves : e.Evolves e') :
    e.Endures e' where
  toEvolves := evolves
  startedAt t set := by
    have past : e.status ≠ .draft := by
      intro draft
      have started := timely.started.mp (Option.isSome_of_eq_some set)
      simp [draft] at started
    rw [(evolves.frozen past).2.2.2.2, set]
  endedAt t set := by
    rw [evolves.completed (timely.ended.mp (Option.isSome_of_eq_some set)), set]
  completed := evolves.completed

end Experiment

namespace Service

variable {settings : Settings} {service : Service} {e row : Experiment} {expected : Status}

theorem Creates.timely (creates : service.Creates settings row) : row.Timely := by
  cases service with
  | create draft organization =>
    obtain ⟨-, now, same⟩ := creates
    rw [same]
    constructor <;> simp [Lifecycle.ofDraft]
  | _ => exact creates.elim

theorem Revises.timely (revises : service.Revises e row expected) (timely : e.Timely) :
    row.Timely := by
  cases service with
  | update id changes =>
    obtain ⟨-, -, -, now, rfl⟩ := revises
    exact ⟨timely.started, timely.ended⟩
  | start id =>
    obtain ⟨draft, -, t, now, rfl⟩ := revises
    refine ⟨by simp, ?_⟩
    have ended := timely.ended
    simpa [draft] using ended
  | stop id =>
    obtain ⟨running, -, t, now, rfl⟩ := revises
    refine ⟨?_, by simp⟩
    have started := timely.started
    simpa [running] using started
  | _ => exact revises.elim

def starts (id : Uuid) : Service → Bool
  | start id' => id' = id
  | _ => false

def stops (id : Uuid) : Service → Bool
  | stop id' => id' = id
  | _ => false

theorem eq_of_starts {id : Uuid} (served : service.starts id) : service = start id := by
  cases service with
  | start id' => rw [of_decide_eq_true served]
  | _ => cases served

theorem eq_of_stops {id : Uuid} (served : service.stops id) : service = stop id := by
  cases service with
  | stop id' => rw [of_decide_eq_true served]
  | _ => cases served

end Service

namespace System

variable {w : System ι} {i : ι} {task : Task}

structure Timely (w : System ι) : Prop where
  stored : ∀ {id e}, w.store.experimentById id = some e → e.Timely
  read : ∀ {i task}, (w.clients i).task = some task → ∀ {id e}, task.exchanges.Read id e →
    e.Timely

theorem timely_start {units : ι → UnitOfWork} : Timely (start {} units) where
  stored := nofun
  read := nofun

theorem Chronicle.countP_le_one {serves : Service → Bool} (chronicle : Chronicle w)
    (orderly : Orderly w) (service : Service) (id : Uuid) (status : Status)
    (past : status ≠ .draft) (only : ∀ s, serves s → s = service)
    (target : service.target? = some id)
    (steps : ∀ e row expected, service.Revises e row expected → row.status = status) :
    w.trace.answers.countP (serves ·.1) ≤ 1 := by
  have wrote {entry : Entry ι} (m : entry ∈ w.trace) {s : Service} {value : Value}
      (answered : entry.answer? = some (s, value)) (served : serves s) :
      ∃ x ∈ w.trace.history entry.ticket, ∃ row, x.saved? = some row ∧ row.id = id ∧
        row.status = status := by
    obtain rfl := only s served
    obtain ⟨e, row, expected, -, read, revises, written⟩ :=
      (orderly.shows_of_answer m answered).revised id target
    exact ⟨_, written, row, rfl, revises.id.trans (chronicle.read read),
      steps e row expected revises⟩
  refine Trace.countP_answers_le_one orderly.once ?_
  intro entry m entry' m' a answered a' answered' served served'
  obtain ⟨x, written, row, saved, own, reached⟩ := wrote m answered served
  obtain ⟨x', written', row', saved', own', reached'⟩ := wrote m' answered' served'
  exact chronicle.once written written' saved saved' (own.trans own'.symm)
    (reached.trans reached'.symm) (reached ▸ past)

variable [DecidableEq ι] {move : Move ι}

theorem Timely.step (timely : Timely w) (steady : Steady w) (calm : move.Quiet) :
    Timely (w.step move) where
  stored {id e} stored := by
    obtain same | ⟨i, task, x, busy, revision⟩ := steady.revision_step calm
    · exact timely.stored ((same id).symm.trans stored)
    · cases revision with
      | nothing silent same => exact timely.stored ((same id).symm.trans stored)
      | created job creates fresh saved =>
        rw [saved] at stored
        split at stored
        · cases stored
          exact creates.timely
        · exact timely.stored stored
      | revised job target read revises evolves found status saved =>
        rw [saved] at stored
        split at stored
        · cases stored
          exact revises.timely (timely.read busy read)
        · exact timely.stored stored
  read busy id e read := by
    obtain ⟨i, task, busy, read⟩ | stored := read_step busy read
    · exact timely.read busy read
    · exact timely.stored stored

theorem run_keeps_life {moves : List (Move ι)} (calm : ∀ move ∈ moves, move.Quiet) :
    let final := ({} : System ι).run moves
    Steady final ∧ Timely final ∧ Chronicle final := by
  refine run_keeps (fun w => Steady w ∧ Timely w ∧ Chronicle w) ?_ ?_
  · rintro w move m ⟨steady, timely, chronicle⟩
    have quiet := calm move m
    exact ⟨steady.step quiet, timely.step steady quiet, chronicle.step steady quiet⟩
  · exact ⟨steady_start .empty fun _ => rfl, timely_start, chronicle_start⟩

/-- In a quiet run every experiment lives its life one step at a time, what it has reached lasts,
and each step is answered for once. -/
theorem run_lifecycle (moves : List (Move ι)) (id : Uuid) (calm : ∀ move ∈ moves, move.Quiet) :
    let final := ({} : System ι).run moves
    (∀ move : Move ι, move.Quiet →
      Succeeds (final.store.experimentById id) ((final.step move).store.experimentById id)) ∧
    (∀ before after, moves = before ++ after → ∀ e,
      (({} : System ι).run before).store.experimentById id = some e →
        ∃ e', final.store.experimentById id = some e' ∧ e.Endures e') ∧
    final.trace.answers.countP (·.1.starts id) ≤ 1 ∧
    final.trace.answers.countP (·.1.stops id) ≤ 1 := by
  intro final
  obtain ⟨steady, -, chronicle⟩ := run_keeps_life calm
  refine ⟨fun move quiet => steady.succeeds_step quiet id, ?_, ?_, ?_⟩
  · rintro before after rfl e stored
    obtain ⟨earlier, later⟩ := List.forall_mem_append.mp calm
    obtain ⟨steady, timely, -⟩ := run_keeps_life earlier
    obtain ⟨e', stored', evolves⟩ := steady.evolves_run later stored
    rw [← run_append] at stored'
    exact ⟨e', stored', (timely.stored stored).endures evolves⟩
  · refine chronicle.countP_le_one steady.orderly (.start id) id .running (by decide)
      (fun _ => Service.eq_of_starts) rfl ?_
    rintro e row expected ⟨-, -, t, now, rfl⟩
    rfl
  · refine chronicle.countP_le_one steady.orderly (.stop id) id .completed (by decide)
      (fun _ => Service.eq_of_stops) rfl ?_
    rintro e row expected ⟨-, -, t, now, rfl⟩
    rfl

theorem run_lifecycle_started :
    let draft : Draft :=
      { name := "colour"
        variants := Std.ExtTreeMap.ofList [("red", Json.null), ("blue", Json.null)] }
    let start (i : Bool) : Move Bool := .begin i (.service {} (.start ⟨1⟩))
    let moves := .begin true (.service {} (.create draft ⟨2⟩)) ::
      List.replicate 7 (.proceed true { id := ⟨1⟩ }) ++
        start true :: .proceed true {} :: start false :: List.replicate 7 (.proceed false {}) ++
          List.replicate 7 (.proceed true {})
    let final := ({} : System Bool).run moves
    (final.store.experimentById ⟨1⟩).map (·.status) = some .running ∧
      final.trace.answers.countP (·.1.starts ⟨1⟩) ≤ 1 := by
  intro draft start moves final
  have calm : ∀ move ∈ moves, move.Quiet := by simp [moves, start, Move.Quiet]
  exact ⟨by decide +kernel, (run_lifecycle moves ⟨1⟩ calm).2.2.1⟩

end System

end SplitTest
