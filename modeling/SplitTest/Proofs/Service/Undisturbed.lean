import SplitTest.Proofs.Service.Smooth
import SplitTest.Proofs.Store.Requests
import SplitTest.Proofs.Store.Reversal

namespace SplitTest

variable {α β : Type} {chances : Nat → Chance} {s s' : Store} {u : UnitOfWork} {w : Workplace}

structure Workplace.Undisturbed (chances : Nat → Chance) (s : Store) (u : UnitOfWork)
    (w : Workplace) : Prop where
  store : w.store = s
  unit : w.unit = u
  rest : w.chances = chances
  fair : ∀ n, (chances n).Fair

namespace Workplace.Undisturbed

variable (calm : w.Undisturbed chances s u)
include calm

theorem reply {r : Request} {told : Except Fault r.Reply} {u' : UnitOfWork}
    (done : r.perform (chances 0) s u = (told, s', u')) :
    ∃ w', Workplace.reply r w = (told, w') ∧ w'.Undisturbed (fun n => chances (n + 1)) s' u' := by
  obtain ⟨rfl, rfl, rfl, fair⟩ := calm
  simp only [Workplace.reply, done]
  exact ⟨_, rfl, rfl, rfl, rfl, fun n => fair (n + 1)⟩

theorem call {c : Call} {reply : c.Reply} (told : c.perform s = (.ok reply, s')) :
    ∃ w', Workplace.reply (.call c) w = (.ok reply, w') ∧
      w'.Undisturbed (fun n => chances (n + 1)) s' (u.remember (c.undo? s reply)) :=
  calm.reply (by simp only [Request.perform, (calm.fair 0).call, told])

theorem emit (event : Event) : ∃ w', Workplace.reply (.emit event) w = (.ok (), w') ∧
    w'.Undisturbed (fun n => chances (n + 1)) s u :=
  calm.reply (r := .emit event)
    (by simp only [Request.perform, (calm.fair 0).event, Chance.reply])

theorem commit : ∃ w', Workplace.reply .commit w = (.ok (), w') ∧ w'.store = s := by
  obtain ⟨w', done, calm⟩ := calm.reply (r := .commit) rfl
  exact ⟨w', done, calm.store⟩

theorem rollback : ∃ w', Workplace.reply .rollback w = (.ok (), w') ∧
    w'.store = s.rewind u.pending := by
  have done : Request.rollback.perform (chances 0) s u = (.ok (), s.rewind u.pending,
      { u with pending := [], rollbacks := u.rollbacks + 1 }) := by
    simp only [Request.perform, Store.unwind_eq (calm.fair 0).undo, Chance.reply]
  obtain ⟨w', done, calm⟩ := calm.reply done
  exact ⟨w', done, calm.store⟩

end Workplace.Undisturbed

namespace Operation

def Ends (ending : Outcome α → Store → UnitOfWork → Prop) (op : Operation α) (w : Workplace) :
    Prop :=
  ∃ outcome w' chances s u, op.run.run Workplace.reply w = (.ok outcome, w') ∧
    w'.Undisturbed chances s u ∧ ending outcome s u

namespace Ends

variable {ending : Outcome α → Store → UnitOfWork → Prop}

theorem request {r : Request} {f : r.Reply → Operation α} {reply : r.Reply} {w' : Workplace}
    (told : Workplace.reply r w = (.ok reply, w')) (ends : Ends ending (f reply) w') :
    Ends ending (Operation.request r >>= f) w := by
  obtain ⟨outcome, w'', chances, s, u, ran, calm, shown⟩ := ends
  have asked : (Operation.request r).run.run Workplace.reply w = (.ok (.ok reply), w') := by
    rw [run_request, told]
    rfl
  exact ⟨outcome, w'', chances, s, u, (run_bind_of_ok asked).trans ran, calm, shown⟩

theorem ofExcept {result : Except Invalid β} {f : β → Operation α} {b : β} (done : result = .ok b)
    (ends : Ends ending (f b) w) : Ends ending (Operation.ofExcept result >>= f) w := by
  subst done
  exact ends

variable (calm : w.Undisturbed chances s u)
include calm

theorem pure {a : α} (shown : ending (.ok a) s u) : Ends ending (Pure.pure a) w :=
  ⟨_, w, chances, s, u, rfl, calm, shown⟩

theorem throw {e : Error} (shown : ending (.error e) s u) :
    Ends ending (MonadExcept.throw e) w :=
  ⟨_, w, chances, s, u, rfl, calm, shown⟩

theorem refused {outcome : Outcome β} {f : β → Operation α} {e : Error}
    (refuses : outcome = .error e) (shown : ending (.error e) s u) :
    Ends ending (Operation.ofOutcome outcome >>= f) w := by
  subst refuses
  exact ⟨_, w, chances, s, u, rfl, calm, shown⟩

theorem call {c : Call} {f : c.Reply → Operation α} {reply : c.Reply}
    (told : c.perform s = (.ok reply, s'))
    (goes : ∀ w', w'.Undisturbed (fun n => chances (n + 1)) s' (u.remember (c.undo? s reply)) →
      Ends ending (f reply) w') : Ends ending (Operation.call c >>= f) w := by
  obtain ⟨w', answer, calm⟩ := calm.call told
  exact request answer (goes w' calm)

theorem read {c : Call} {f : c.Reply → Operation α} {reply : c.Reply}
    (told : c.perform s = (.ok reply, s)) (nothing : c.undo? s reply = none)
    (goes : ∀ w', w'.Undisturbed (fun n => chances (n + 1)) s u → Ends ending (f reply) w') :
    Ends ending (Operation.call c >>= f) w := by
  apply call calm told
  rw [nothing, UnitOfWork.remember_none]
  exact goes

theorem now {f : Timestamp → Operation α}
    (goes : ∀ w', w'.Undisturbed (fun n => chances (n + 1)) s u →
      Ends ending (f (chances 0).now) w') : Ends ending (Operation.request .now >>= f) w := by
  obtain ⟨w', answer, calm⟩ := calm.reply (r := .now) rfl
  exact request answer (goes w' calm)

theorem emit {event : Event} {f : Unit → Operation α}
    (goes : ∀ w', w'.Undisturbed (fun n => chances (n + 1)) s u → Ends ending (f ()) w') :
    Ends ending (Operation.emit event >>= f) w := by
  obtain ⟨w', answer, calm⟩ := calm.emit event
  exact request answer (goes w' calm)

end Ends

end Operation

theorem Transaction.run_ends {component operation : String} {body : Operation α}
    {ending : Outcome α → Store → UnitOfWork → Prop} (ends : body.Ends ending w) :
    ∃ outcome w' s u, (run component operation body).run Workplace.reply w = (.ok outcome, w') ∧
      ending outcome s u ∧ (∀ a, outcome = .ok a → w'.store = s) ∧
        ∀ e, outcome = .error e → w'.store = s.rewind u.pending := by
  obtain ⟨outcome, w₁, chances, s, u, ran, calm, shown⟩ := ends
  cases outcome with
  | ok a =>
    obtain ⟨w', committed, left⟩ := calm.commit
    exact ⟨.ok a, w', s, u, run_of_ok ran committed, shown, fun _ _ => left, by rintro _ ⟨⟩⟩
  | error e =>
    obtain ⟨w', rolled, left⟩ := calm.rollback
    exact ⟨.error e, w', s, u, run_of_error ran rolled, shown, by rintro _ ⟨⟩, fun _ _ => left⟩

end SplitTest
