import SplitTest.Proofs.Program.Meets
import SplitTest.Proofs.Store.Requests

namespace SplitTest

variable {α β : Type} {troubled : Prop} {base : Store} {w : Workplace}

/-- A workplace in which nothing was written yet. A call that breaks down means trouble. -/
structure Workplace.Still (troubled : Prop) (base : Store) (w : Workplace) : Prop where
  store : w.store = base
  clear : w.unit.pending = []
  calls : ∀ n, (w.chances n).call ≠ none → troubled
  events : ∀ n, (w.chances n).event = none

theorem Workplace.Still.reply (still : w.Still troubled base) {r : Request}
    (same : (reply r w).2.store = w.store) (clear : (reply r w).2.unit.pending = []) :
    (reply r w).2.Still troubled base where
  store := same.trans still.store
  clear := clear
  calls n := still.calls (n + 1)
  events n := still.events (n + 1)

theorem Workplace.Still.silent (still : w.Still troubled base) {r : Request}
    {told : Except Fault r.Reply}
    (done : r.perform (w.chances 0) w.store w.unit = (told, w.store, w.unit)) :
    (Workplace.reply r w).1 = told ∧ (Workplace.reply r w).2.Still troubled base := by
  refine ⟨congrArg Prod.fst done, still.reply ?_ ?_⟩
  · exact congrArg (·.2.1) done
  · exact (congrArg (·.2.2.pending) done).trans still.clear

theorem Workplace.Still.emit (still : w.Still troubled base) (event : Event) :
    ∃ w', Workplace.reply (.emit event) w = (.ok (), w') ∧ w'.Still troubled base := by
  refine ⟨(Workplace.reply (.emit event) w).2, ?_, still.reply rfl still.clear⟩
  simp only [Workplace.reply, Request.perform, still.events 0, Chance.reply]

theorem Workplace.Still.rollback (still : w.Still troubled base) :
    ∃ w', Workplace.reply .rollback w = (.ok (), w') ∧ w'.Still troubled base := by
  have done : Request.rollback.perform (w.chances 0) w.store w.unit = (.ok (), w.store, _) :=
    Request.perform_rollback still.clear
  refine ⟨(Workplace.reply .rollback w).2, ?_, still.reply ?_ ?_⟩
  · simp only [Workplace.reply, done]
  · exact congrArg (·.2.1) done
  · exact (congrArg (·.2.2.pending) done).trans still.clear

namespace Operation

def Comes (troubled : Prop) (base : Store) (bad : Error → Prop) (good : α → Workplace → Prop) :
    Except Fault (Outcome α) → Workplace → Prop
  | .ok (.ok a), w => good a w
  | .ok (.error e), w => bad e ∧ w.Still troubled base
  | .error _, w => troubled ∧ w.Still troubled base

def Runs (troubled : Prop) (base : Store) (bad : Error → Prop) (good : α → Workplace → Prop)
    (op : Operation α) (w : Workplace) : Prop :=
  Comes troubled base bad good (op.run.run Workplace.reply w).1 (op.run.run Workplace.reply w).2

namespace Runs

variable {bad : Error → Prop} {good : α → Workplace → Prop}

theorem bind {op : Operation β} {f : β → Operation α}
    (runs : Runs troubled base bad (fun b w => Runs troubled base bad good (f b) w) op w) :
    Runs troubled base bad good (op >>= f) w := by
  unfold Runs at runs ⊢
  rw [ExceptT.run_bind, Program.run_bind]
  generalize op.run.run Workplace.reply w = ended at runs ⊢
  rcases ended with ⟨fault | e | b, w'⟩
  · exact runs
  · exact runs
  · exact runs

theorem pure {a : α} (shown : good a w) : Runs troubled base bad good (Pure.pure a) w := shown

theorem request {r : Request} {good : r.Reply → Workplace → Prop} {reply : Except Fault r.Reply}
    (told : (Workplace.reply r w).1 = reply)
    (comes : Comes troubled base bad good (reply.map .ok) (Workplace.reply r w).2) :
    Runs troubled base bad good (Operation.request r) w := by
  rw [Runs, run_request, told]
  exact comes

theorem emit {event : Event} {good : Unit → Workplace → Prop}
    (quiet : (w.chances 0).event = none) (goes : good () (Workplace.reply (.emit event) w).2) :
    Runs troubled base bad good (Operation.emit event) w := by
  have told : (Workplace.reply (.emit event) w).1 = .ok () := by
    simp only [Workplace.reply, Request.perform, quiet, Chance.reply]
  exact request told goes

variable (still : w.Still troubled base)
include still

theorem throw {e : Error} (fails : bad e) :
    Runs troubled base bad good (MonadExcept.throw e) w := ⟨fails, still⟩

theorem report {event : Event} {good : Unit → Workplace → Prop}
    (goes : ∀ w', w'.Still troubled base → good () w') :
    Runs troubled base bad good (Operation.emit event) w :=
  emit (still.events 0) (goes _ (still.reply (r := .emit event) rfl still.clear))

theorem now {good : Timestamp → Workplace → Prop}
    (goes : ∀ t w', w'.Still troubled base → good t w') :
    Runs troubled base bad good (Operation.request .now) w :=
  request (r := .now) rfl (goes _ _ (still.reply (r := .now) rfl still.clear))

theorem breaks {c : Call} {good : c.Reply → Workplace → Prop} {fault : Fault}
    (broken : (w.chances 0).call = some fault) :
    Runs troubled base bad good (Operation.call c) w := by
  have done : (Request.call c).perform (w.chances 0) w.store w.unit =
      (.error fault, w.store, w.unit) := by
    simp only [Request.perform, broken]
  obtain ⟨answer, still'⟩ := still.silent done
  apply request answer
  exact ⟨still.calls 0 (by simp [broken]), still'⟩

theorem call {c : Call} {reply : c.Reply} {good : c.Reply → Workplace → Prop}
    (told : c.perform base = (.ok reply, base)) (nothing : c.undo? base reply = none)
    (goes : ∀ w', w'.Still troubled base → good reply w') :
    Runs troubled base bad good (Operation.call c) w := by
  cases broken : (w.chances 0).call with
  | some fault => exact breaks still broken
  | none =>
    have done : (Request.call c).perform (w.chances 0) w.store w.unit =
        (.ok reply, w.store, w.unit) := by
      simp only [Request.perform, broken, still.store, told, nothing, UnitOfWork.remember_none]
    obtain ⟨answer, still'⟩ := still.silent done
    exact request answer (goes _ still')

theorem write {c : Call} {reply : c.Reply} {s : Store} {good : c.Reply → Workplace → Prop}
    (told : c.perform base = (.ok reply, s))
    (goes : ∀ w', w'.store = s → (∀ n, (w'.chances n).event = none) → good reply w') :
    Runs troubled base bad good (Operation.call c) w := by
  cases broken : (w.chances 0).call with
  | some fault => exact breaks still broken
  | none =>
    have done : (Request.call c).perform (w.chances 0) w.store w.unit =
        (.ok reply, s, w.unit.remember (c.undo? base reply)) := by
      simp only [Request.perform, broken, still.store, told]
    have answer : (Workplace.reply (.call c) w).1 = .ok reply := congrArg Prod.fst done
    apply request answer
    apply goes
    · exact congrArg (·.2.1) done
    · exact fun n => still.events (n + 1)

theorem ofExcept {result : Except Invalid α} (goes : ∀ a, result = .ok a → good a w)
    (breaks : ∀ cause, result = .error cause → troubled) :
    Runs troubled base bad good (Operation.ofExcept result) w := by
  unfold Runs Operation.ofExcept
  rw [ExceptT.run_lift, Program.run_map]
  cases result with
  | ok a => exact goes a rfl
  | error cause => exact ⟨breaks cause rfl, still⟩

end Runs

end Operation

namespace Transaction

variable {component operation : String} {body : Operation α} {bad : Error → Prop}
  {good : α → Workplace → Prop}

theorem recover_comes (still : w.Still troubled base) (fault : Fault) :
    ∃ w', (recover (α := α) component operation fault).run Workplace.reply w =
      (.ok (.error (.operationFailed operation fault.message)), w') ∧ w'.Still troubled base := by
  obtain ⟨w₁, told, still₁⟩ :=
    still.emit (trouble component "storage failure" operation fault)
  obtain ⟨w₂, rolled, still₂⟩ := still₁.rollback
  refine ⟨w₂, ?_, still₂⟩
  simp only [recover, Program.request, Program.run_bind, Program.run_handle, Program.run_ask,
    Program.run_done, told, rolled]
  rfl

theorem run_comes (runs : Operation.Runs troubled base bad good body w) :
    ∃ outcome w', (run component operation body).run Workplace.reply w = (.ok outcome, w') ∧
      Operation.Comes troubled base (fun e => bad e ∨ troubled)
        (fun a w' => ∃ w₁, good a w₁ ∧ w' = (Workplace.reply .commit w₁).2) (.ok outcome) w' := by
  unfold Operation.Runs at runs
  rcases ran : body.run.run Workplace.reply w with ⟨fault | e | a, w₁⟩
  all_goals rw [ran] at runs
  · obtain ⟨trouble, still⟩ := runs
    obtain ⟨w', recovered, still'⟩ := recover_comes still fault
    exact ⟨_, w', (run_of_fault ran).trans recovered, .inr trouble, still'⟩
  · obtain ⟨fails, still⟩ := runs
    obtain ⟨w', rolled, still'⟩ := still.rollback
    exact ⟨.error e, w', run_of_error ran rolled, .inl fails, still'⟩
  · exact ⟨.ok a, _, run_of_ok ran rfl, w₁, runs, rfl⟩

end Transaction

end SplitTest
