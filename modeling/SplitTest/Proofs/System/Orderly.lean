import SplitTest.Proofs.Store.Built
import SplitTest.Proofs.System.Trace
import SplitTest.Proofs.System.Turn

namespace SplitTest

def History.Lawful (law : History → Request → Prop) : History → Prop
  | [] => True
  | x :: h => law h x.request ∧ Lawful law h

variable {ι : Type}

structure Task.Faithful (i : ι) (trace : Trace ι) (task : Task) : Prop where
  kept : trace.history task.ticket = task.exchanges
  lawful : task.exchanges.Lawful task.job.law
  meets : task.rest.Meets task.job.law task.job.fit task.exchanges
  own : ∀ entry ∈ trace, entry.ticket = task.ticket →
    entry.client = i ∧ entry.job = task.job ∧ entry.ended? = none

theorem Task.Faithful.foreign {i : ι} {trace : Trace ι} {task : Task} {entry : Entry ι}
    (faithful : task.Faithful i trace) (foreign : entry.ticket ≠ task.ticket) :
    task.Faithful i (entry :: trace) where
  kept := (Trace.history_foreign foreign).trans faithful.kept
  lawful := faithful.lawful
  meets := faithful.meets
  own := List.forall_mem_cons.mpr ⟨fun same => absurd same foreign, faithful.own⟩

namespace System

variable {w : System ι} {i j : ι} {task task' : Task}

structure Orderly (w : System ι) : Prop where
  faithful : ∀ {i task}, (w.clients i).task = some task → task.Faithful i w.trace
  issued : ∀ {i task}, (w.clients i).task = some task → task.ticket < w.tickets
  distinct : ∀ {i j task task'}, (w.clients i).task = some task →
    (w.clients j).task = some task' → task.ticket = task'.ticket → i = j
  past : ∀ entry ∈ w.trace, entry.ticket < w.tickets
  fits : ∀ entry ∈ w.trace, ∀ result, entry.deed = .ended result →
    entry.job.fit (w.trace.history entry.ticket) result
  once : w.trace.endings.Nodup

theorem orderly_start (store : Store) (units : ι → UnitOfWork) : Orderly (start store units) where
  faithful := nofun
  issued := nofun
  distinct := nofun
  past := List.forall_mem_nil _
  fits := List.forall_mem_nil _
  once := List.nodup_nil

theorem Orderly.foreign (orderly : Orderly w) (busy : (w.clients i).task = some task)
    (other : j ≠ i) (busy' : (w.clients j).task = some task') : task.ticket ≠ task'.ticket :=
  fun same => other (orderly.distinct busy busy' same).symm

theorem Orderly.ne_of_ended (orderly : Orderly w) (busy : (w.clients i).task = some task)
    {entry : Entry ι} {result : Except Fault (Outcome Value)} (m : entry ∈ w.trace)
    (ended : entry.deed = .ended result) : entry.ticket ≠ task.ticket := by
  intro same
  have unended := ((orderly.faithful busy).own entry m same).2.2
  rcases entry with ⟨_, _, _, _ | _ | _⟩
  · cases ended
  · cases ended
  · cases unended

theorem Orderly.shows_of_answer (orderly : Orderly w) {entry : Entry ι} {s : Service}
    {value : Value} (m : entry ∈ w.trace) (answered : entry.answer? = some (s, value)) :
    s.Shows (w.trace.history entry.ticket) value := by
  obtain ⟨i, ticket, ⟨settings, s'⟩ | _, x | _ | (_ | _ | _)⟩ := entry
  all_goals cases answered
  exact (orderly.fits _ m _ rfl).2.1 value rfl

variable [DecidableEq ι]

namespace Orderly

variable (orderly : Orderly w)
include orderly

theorem accept (job : Job) : Orderly (w.accept i job) where
  faithful busy := by
    obtain ⟨rfl, ⟨⟩⟩ | ⟨-, busy⟩ := task_setClient busy
    · have fresh (entry : Entry ι) (m : entry ∈ w.trace) : entry.ticket ≠ w.tickets :=
        Nat.ne_of_lt (orderly.past entry m)
      refine ⟨?_, trivial, job.program_meets, fun entry m same => absurd same (fresh entry m)⟩
      refine List.filterMap_eq_nil_iff.mpr fun entry m => ?_
      rcases entry with ⟨_, _, _, x | _ | _⟩
      · exact if_neg (fresh _ m)
      · rfl
      · rfl
    · exact orderly.faithful busy
  issued busy := by
    obtain ⟨rfl, ⟨⟩⟩ | ⟨-, busy⟩ := task_setClient busy
    · exact Nat.lt_succ_self _
    · exact Nat.lt_succ_of_lt (orderly.issued busy)
  distinct busy₁ busy₂ same := by
    obtain ⟨rfl, ⟨⟩⟩ | ⟨-, old₁⟩ := task_setClient busy₁
    · obtain ⟨rfl, -⟩ | ⟨-, old₂⟩ := task_setClient busy₂
      · rfl
      · exact absurd same (Nat.ne_of_gt (orderly.issued old₂))
    · obtain ⟨rfl, ⟨⟩⟩ | ⟨-, old₂⟩ := task_setClient busy₂
      · exact absurd same (Nat.ne_of_lt (orderly.issued old₁))
      · exact orderly.distinct old₁ old₂ same
  past entry m := Nat.lt_succ_of_lt (orderly.past entry m)
  fits := orderly.fits
  once := orderly.once

variable (busy : (w.clients i).task = some task)
include busy

theorem finish {result : Except Fault (Outcome Value)} (rest : task.rest = .done result) :
    Orderly (w.finish i task result) where
  faithful busy' := by
    obtain ⟨-, ⟨⟩⟩ | ⟨other, busy'⟩ := task_setClient busy'
    exact (orderly.faithful busy').foreign (orderly.foreign busy other busy')
  issued busy' := by
    obtain ⟨-, ⟨⟩⟩ | ⟨-, busy'⟩ := task_setClient busy'
    exact orderly.issued busy'
  distinct busy₁ busy₂ same := by
    obtain ⟨-, ⟨⟩⟩ | ⟨-, busy₁⟩ := task_setClient busy₁
    obtain ⟨-, ⟨⟩⟩ | ⟨-, busy₂⟩ := task_setClient busy₂
    exact orderly.distinct busy₁ busy₂ same
  past := List.forall_mem_cons.mpr ⟨orderly.issued busy, orderly.past⟩
  fits := by
    have faithful := orderly.faithful busy
    have told (ticket : Nat) : (w.finish i task result).trace.history ticket =
        w.trace.history ticket := Trace.history_silent (by rintro _ ⟨⟩)
    refine List.forall_mem_cons.mpr ⟨?_, fun entry m result same => ?_⟩
    · rintro _ ⟨⟩
      have meets := faithful.meets
      rw [rest, Program.meets_done, ← faithful.kept] at meets
      rw [told]
      exact meets
    · rw [told]
      exact orderly.fits entry m result same
  once := by
    refine List.nodup_cons.mpr ⟨fun again => ?_, orderly.once⟩
    obtain ⟨entry, m, ended⟩ := List.mem_filterMap.mp again
    rcases entry with ⟨_, _, _, _ | _ | _⟩
    · cases ended
    · cases ended
    · exact orderly.ne_of_ended busy m rfl (Option.some.inj ended)

theorem goOn {store : Store} {client : Client} {entry : Entry ι} (task' : Task)
    (same : client.task = some task') (ticket : task'.ticket = task.ticket)
    (own : entry.ticket = task.ticket) (unended : entry.ended? = none)
    (faithful : task'.Faithful i (entry :: w.trace)) :
    Orderly (setClient i client { w with store, trace := entry :: w.trace }) where
  faithful busy' := by
    obtain ⟨rfl, same'⟩ | ⟨other, old⟩ := task_setClient busy'
    · cases same.symm.trans same'
      exact faithful
    · refine (orderly.faithful old).foreign ?_
      rw [own]
      exact orderly.foreign busy other old
  issued busy' := by
    obtain ⟨rfl, same'⟩ | ⟨-, old⟩ := task_setClient busy'
    · cases same.symm.trans same'
      rw [ticket]
      exact orderly.issued busy
    · exact orderly.issued old
  distinct busy₁ busy₂ equal := by
    obtain ⟨rfl, same₁⟩ | ⟨-, old₁⟩ := task_setClient busy₁
    · obtain ⟨rfl, -⟩ | ⟨-, old₂⟩ := task_setClient busy₂
      · rfl
      · cases same.symm.trans same₁
        exact orderly.distinct busy old₂ (ticket.symm.trans equal)
    · obtain ⟨rfl, same₂⟩ | ⟨-, old₂⟩ := task_setClient busy₂
      · cases same.symm.trans same₂
        exact orderly.distinct old₁ busy (equal.trans ticket)
      · exact orderly.distinct old₁ old₂ equal
  past := List.forall_mem_cons.mpr ⟨own ▸ orderly.issued busy, orderly.past⟩
  fits := by
    refine List.forall_mem_cons.mpr ⟨fun result ended => ?_, fun entry' m result ended => ?_⟩
    · rcases entry with ⟨_, _, _, _ | _ | _⟩
      · cases ended
      · cases ended
      · cases unended
    · have foreign := orderly.ne_of_ended busy m ended
      change entry'.job.fit (Trace.history (entry :: w.trace) entry'.ticket) result
      rw [Trace.history_foreign (own ▸ foreign.symm)]
      exact orderly.fits entry' m result ended
  once := by
    have nothing : Trace.endings (entry :: w.trace) = w.trace.endings :=
      List.filterMap_cons_none unended
    exact nothing ▸ orderly.once

theorem takeBack {undo : Undo} {unit : UnitOfWork} : Orderly (w.takeBack i task undo unit) := by
  have faithful := orderly.faithful busy
  refine orderly.goOn busy task rfl rfl rfl rfl ⟨?_, faithful.lawful, faithful.meets, ?_⟩
  · exact (Trace.history_silent (by rintro _ ⟨⟩)).trans faithful.kept
  · exact List.forall_mem_cons.mpr ⟨fun _ => ⟨rfl, rfl, rfl⟩, faithful.own⟩

theorem answer {chance : Chance} {request : Request}
    {next : Except Fault request.Reply → Program (Outcome Value)}
    (rest : task.rest = .ask request next) : Orderly (w.answer i chance task request next) := by
  have faithful := orderly.faithful busy
  have meets := faithful.meets
  rw [rest, Program.meets_ask] at meets
  refine orderly.goOn busy _ rfl rfl rfl rfl ⟨?_, ⟨meets.1, faithful.lawful⟩, meets.2 _, ?_⟩
  · exact Trace.history_own.trans (congrArg _ faithful.kept)
  · exact List.forall_mem_cons.mpr ⟨fun _ => ⟨rfl, rfl, rfl⟩, faithful.own⟩

omit busy

theorem step (move : Move ι) : Orderly (w.step move) := by
  have turn := w.turn_step move
  generalize w.step move = w' at turn ⊢
  cases turn with
  | skipped => exact orderly
  | accepted idle => exact orderly.accept _
  | finished busy rest => exact orderly.finish busy rest
  | tookBack busy rest left => exact orderly.takeBack busy
  | answered busy rest => exact orderly.answer busy rest
  | meddled undo =>
    exact ⟨orderly.faithful, orderly.issued, orderly.distinct, orderly.past, orderly.fits,
      orderly.once⟩

end Orderly

theorem mem_history_step {move : Move ι} {ticket : Nat} {x : Exchange}
    (m : x ∈ (w.step move).trace.history ticket) : x ∈ w.trace.history ticket ∨
      ∃ (i : ι) (chance : Chance) (task : Task) (request : Request)
        (next : Except Fault request.Reply → Program (Outcome Value)),
        move = .proceed i chance ∧ (w.clients i).task = some task ∧
          task.rest = .ask request next ∧ task.ticket = ticket ∧
            x = ⟨request, (request.perform chance w.store (w.clients i).unit).1⟩ ∧
              w.step move = w.answer i chance task request next := by
  have turn := w.turn_step move
  generalize w.step move = w' at turn m ⊢
  cases turn with
  | skipped => exact .inl m
  | accepted => exact .inl m
  | meddled => exact .inl m
  | finished =>
    rw [finish, note, Trace.history_silent (by rintro _ ⟨⟩)] at m
    exact .inl m
  | tookBack =>
    rw [takeBack, note, Trace.history_silent (by rintro _ ⟨⟩)] at m
    exact .inl m
  | @answered i chance task request next busy rest =>
    obtain ⟨entry, member, own, told⟩ := Trace.mem_history.mp m
    obtain rfl | member := List.mem_cons.mp member
    · cases told
      exact .inr ⟨i, chance, task, request, next, rfl, busy, rest, own, rfl, rfl⟩
    · exact .inl (Trace.mem_history.mpr ⟨entry, member, own, told⟩)

theorem orderly_run (store : Store) (units : ι → UnitOfWork) (moves : List (Move ι)) :
    Orderly ((start store units).run moves) :=
  run_keeps Orderly (fun _ move _ orderly => orderly.step move) (orderly_start store units)

theorem built_step {move : Move ι} (built : w.store.Built) : (w.step move).store.Built := by
  obtain same | ⟨undo, same⟩ | ⟨chance, r, u, same⟩ := w.store_step move
  · rwa [same]
  · rw [same]
    exact built.undo undo
  · rw [same]
    exact built.request r chance u

theorem built_run {store : Store} {units : ι → UnitOfWork} {moves : List (Move ι)}
    (built : store.Built) : ((start store units).run moves).store.Built :=
  run_keeps (fun w => w.store.Built) (fun _ _ _ built => built_step built) built

end System

end SplitTest
