import SplitTest.System

namespace SplitTest

namespace System

variable {ι : Type} [DecidableEq ι] {w : System ι}

inductive Turn (w : System ι) : Move ι → System ι → Prop
  | skipped (move : Move ι) : Turn w move w
  | accepted {i : ι} {job : Job} (idle : (w.clients i).task = none) :
      Turn w (.begin i job) (w.accept i job)
  | finished {i : ι} {chance : Chance} {task : Task} {result : Except Fault (Outcome Value)}
      (busy : (w.clients i).task = some task) (rest : task.rest = .done result) :
      Turn w (.proceed i chance) (w.finish i task result)
  | tookBack {i : ι} {chance : Chance} {task : Task}
      {next : Except Fault Unit → Program (Outcome Value)} {undo : Undo} {pending : List Undo}
      (busy : (w.clients i).task = some task) (rest : task.rest = .ask .rollback next)
      (left : (w.clients i).unit.pending = undo :: pending) :
      Turn w (.proceed i chance) (w.takeBack i task undo { (w.clients i).unit with pending })
  | answered {i : ι} {chance : Chance} {task : Task} {request : Request}
      {next : Except Fault request.Reply → Program (Outcome Value)}
      (busy : (w.clients i).task = some task) (rest : task.rest = .ask request next)
      (untaken : (w.clients i).unit.takeBack? chance request = none) :
      Turn w (.proceed i chance) (w.answer i chance task request next)
  | meddled (undo : Undo) : Turn w (.undo undo) { w with store := undo.perform w.store }

@[simp] theorem setClient_self {i : ι} {client : Client} :
    (w.setClient i client).clients i = client := Function.update_self ..

theorem setClient_of_ne {i j : ι} {client : Client} (other : j ≠ i) :
    (w.setClient i client).clients j = w.clients j := Function.update_of_ne other ..

@[simp] theorem trace_answer {i : ι} {chance : Chance} {task : Task} {request : Request}
    {next : Except Fault request.Reply → Program (Outcome Value)} :
    (w.answer i chance task request next).trace = ⟨i, task.ticket, task.job, .replied
      ⟨request, (request.perform chance w.store (w.clients i).unit).1⟩⟩ :: w.trace := rfl

theorem task_setClient {i j : ι} {client : Client} {task : Task}
    (busy : ((w.setClient i client).clients j).task = some task) :
    j = i ∧ client.task = some task ∨ j ≠ i ∧ (w.clients j).task = some task := by
  by_cases same : j = i
  · subst same
    rw [setClient_self] at busy
    exact .inl ⟨rfl, busy⟩
  · rw [setClient_of_ne same] at busy
    exact .inr ⟨same, busy⟩

theorem takeBack?_cases {chance : Chance} {unit unit' : UnitOfWork} {request : Request}
    {undo : Undo} (found : unit.takeBack? chance request = some (undo, unit')) :
    request = .rollback ∧ ∃ pending, unit.pending = undo :: pending ∧
      unit' = { unit with pending } := by
  cases request with
  | rollback =>
    cases whole : chance.undo <;> cases left : unit.pending
    all_goals simp [UnitOfWork.takeBack?, whole, left] at found
    obtain ⟨rfl, rfl⟩ := found
    exact ⟨rfl, _, rfl, rfl⟩
  | _ => cases found

theorem turn_begin (w : System ι) (i : ι) (job : Job) : Turn w (.begin i job) (w.begin i job) := by
  unfold begin
  split
  · exact .skipped _
  · next idle => exact .accepted idle

theorem turn_proceed (w : System ι) (i : ι) (chance : Chance) :
    Turn w (.proceed i chance) (w.proceed i chance) := by
  unfold proceed
  split
  · exact .skipped _
  · next task busy =>
    unfold advance
    split
    · next rest => exact .finished busy rest
    · next request next rest =>
      split
      · next found =>
        obtain ⟨rfl, pending, left, rfl⟩ := takeBack?_cases found
        exact .tookBack busy rest left
      · next untaken => exact .answered busy rest untaken

theorem turn_step (w : System ι) (move : Move ι) : Turn w move (w.step move) := by
  cases move with
  | begin i job => exact turn_begin w i job
  | proceed i chance => exact turn_proceed w i chance
  | undo undo => exact .meddled undo

theorem busy_step {move : Move ι} {i : ι} {task : Task}
    (busy : ((w.step move).clients i).task = some task) :
    (w.clients i).task = some task ∨
      (∃ job, move = .begin i job ∧ task = { ticket := w.tickets, job, rest := job.program }) ∨
      ∃ (chance : Chance) (before : Task) (request : Request)
        (next : Except Fault request.Reply → Program (Outcome Value)),
        (w.clients i).task = some before ∧ before.rest = .ask request next ∧
          w.step move = w.answer i chance before request next ∧
          task = { before with
            exchanges := ⟨request, (request.perform chance w.store (w.clients i).unit).1⟩ ::
              before.exchanges
            rest := next (request.perform chance w.store (w.clients i).unit).1 } := by
  have turn := w.turn_step move
  generalize w.step move = w' at turn busy ⊢
  cases turn with
  | skipped => exact .inl busy
  | meddled => exact .inl busy
  | accepted =>
    obtain ⟨rfl, ⟨⟩⟩ | ⟨-, busy⟩ := task_setClient busy
    · exact .inr (.inl ⟨_, rfl, rfl⟩)
    · exact .inl busy
  | finished =>
    obtain ⟨-, ⟨⟩⟩ | ⟨-, busy⟩ := task_setClient busy
    exact .inl busy
  | tookBack earlier =>
    obtain ⟨rfl, ⟨⟩⟩ | ⟨-, busy⟩ := task_setClient busy
    · exact .inl earlier
    · exact .inl busy
  | answered earlier rest =>
    obtain ⟨rfl, ⟨⟩⟩ | ⟨-, busy⟩ := task_setClient busy
    · exact .inr (.inr ⟨_, _, _, _, earlier, rest, rfl, rfl⟩)
    · exact .inl busy

theorem job_step {move : Move ι} (holds : Job → Prop)
    (jobs : ∀ i task, (w.clients i).task = some task → holds task.job)
    (begun : ∀ i job, move = .begin i job → holds job) (i : ι) (task : Task)
    (busy : ((w.step move).clients i).task = some task) : holds task.job := by
  obtain busy | ⟨job, same, rfl⟩ | ⟨chance, before, request, next, earlier, -, -, rfl⟩ :=
    busy_step busy
  · exact jobs i task busy
  · exact begun i job same
  · exact jobs i before earlier

theorem store_step (w : System ι) (move : Move ι) :
    (w.step move).store = w.store ∨ (∃ undo : Undo, (w.step move).store = undo.perform w.store) ∨
      ∃ (chance : Chance) (r : Request) (u : UnitOfWork),
        (w.step move).store = (r.perform chance w.store u).2.1 := by
  have turn := w.turn_step move
  generalize w.step move = w' at turn ⊢
  cases turn with
  | skipped => exact .inl rfl
  | accepted => exact .inl rfl
  | finished => exact .inl rfl
  | tookBack => exact .inr (.inl ⟨_, rfl⟩)
  | answered => exact .inr (.inr ⟨_, _, _, rfl⟩)
  | meddled undo => exact .inr (.inl ⟨undo, rfl⟩)

theorem run_append (w : System ι) (before after : List (Move ι)) :
    w.run (before ++ after) = (w.run before).run after := List.foldl_append

theorem run_keeps (keeps : System ι → Prop) {moves : List (Move ι)}
    (step : ∀ w, ∀ move ∈ moves, keeps w → keeps (w.step move)) (kept : keeps w) :
    keeps (w.run moves) := by
  induction moves generalizing w with
  | nil => exact kept
  | cons move moves ih =>
    refine ih (fun w move later => step w move (List.mem_cons_of_mem _ later)) ?_
    exact step w move List.mem_cons_self kept

end System

end SplitTest
