import SplitTest.Proofs.Program.Meets

namespace SplitTest

variable {α β : Type} {drawn : Uuid → Prop} {s : Store} {w : Workplace}

structure Chance.Fair (chance : Chance) : Prop where
  call : chance.call = none
  event : chance.event = none
  undo : chance.undo = none

structure Workplace.Smooth (drawn : Uuid → Prop) (s : Store) (w : Workplace) : Prop where
  store : w.store = s
  fair : ∀ n, (w.chances n).Fair
  ids : ∀ n, drawn (w.chances n).id

theorem Workplace.Smooth.reply (smooth : w.Smooth drawn s) {r : Request} {s' : Store}
    (left : (Workplace.reply r w).2.store = s') : (Workplace.reply r w).2.Smooth drawn s' where
  store := left
  fair n := smooth.fair (n + 1)
  ids n := smooth.ids (n + 1)

theorem Workplace.fair_run (p : Program α) (fair : ∀ n, (w.chances n).Fair) (n : Nat) :
    ((p.run Workplace.reply w).2.chances n).Fair := by
  induction p generalizing w with
  | done result => exact fair n
  | ask request next ih => exact ih _ fun n => fair (n + 1)

namespace Operation

def Gives (good : α → Workplace → Prop) (op : Operation α) (w : Workplace) : Prop :=
  ∃ a w', op.run.run Workplace.reply w = (.ok (.ok a), w') ∧ good a w'

namespace Gives

variable {good : α → Workplace → Prop}

theorem pure {a : α} (shown : good a w) : Gives good (Pure.pure a) w := ⟨a, w, rfl, shown⟩

theorem bind {op : Operation β} {f : β → Operation α}
    (gives : Gives (fun b w => Gives good (f b) w) op w) : Gives good (op >>= f) w := by
  obtain ⟨b, w₁, ran, a, w₂, ran', shown⟩ := gives
  exact ⟨a, w₂, (run_bind_of_ok ran).trans ran', shown⟩

theorem ofOutcome {outcome : Outcome α} {a : α} (passes : outcome = .ok a) (shown : good a w) :
    Gives good (Operation.ofOutcome outcome) w := by
  subst passes
  exact pure shown

theorem ofExcept {result : Except Invalid α} {a : α} (done : result = .ok a) (shown : good a w) :
    Gives good (Operation.ofExcept result) w := by
  subst done
  exact pure shown

theorem request {r : Request} {good : r.Reply → Workplace → Prop} {reply : r.Reply}
    (told : (Workplace.reply r w).1 = .ok reply) (goes : good reply (Workplace.reply r w).2) :
    Gives good (Operation.request r) w := by
  refine ⟨reply, (Workplace.reply r w).2, ?_, goes⟩
  rw [run_request, told]
  rfl

variable (smooth : w.Smooth drawn s)
include smooth

theorem call {c : Call} {reply : c.Reply} {s' : Store} {good : c.Reply → Workplace → Prop}
    (told : c.perform s = (.ok reply, s')) (goes : ∀ w', w'.Smooth drawn s' → good reply w') :
    Gives good (Operation.call c) w := by
  have done : (Request.call c).perform (w.chances 0) w.store w.unit =
      (.ok reply, s', w.unit.remember (c.undo? s reply)) := by
    simp only [Request.perform, (smooth.fair 0).call, smooth.store, told]
  have answer : (Workplace.reply (.call c) w).1 = .ok reply := congrArg Prod.fst done
  exact request answer (goes _ (smooth.reply (r := .call c) (congrArg (·.2.1) done)))

theorem now {good : Timestamp → Workplace → Prop}
    (goes : ∀ t w', w'.Smooth drawn s → good t w') :
    Gives good (Operation.request .now) w :=
  request (r := .now) rfl (goes _ _ (smooth.reply (r := .now) smooth.store))

theorem freshId {good : Uuid → Workplace → Prop}
    (goes : ∀ id w', drawn id → w'.Smooth drawn s → good id w') :
    Gives good (Operation.request .freshId) w :=
  request (r := .freshId) rfl (goes _ _ (smooth.ids 0) (smooth.reply (r := .freshId) smooth.store))

theorem emit {event : Event} {good : Unit → Workplace → Prop}
    (goes : ∀ w', w'.Smooth drawn s → good () w') :
    Gives good (Operation.emit event) w := by
  have told : (Workplace.reply (.emit event) w).1 = .ok () := by
    simp only [Workplace.reply, Request.perform, (smooth.fair 0).event, Chance.reply]
  exact request told (goes _ (smooth.reply (r := .emit event) smooth.store))

end Gives

end Operation

theorem Transaction.run_gives {component operation : String} {body : Operation α}
    (good : α → Store → Prop) (gives : body.Gives (fun a w => good a w.store) w) :
    ∃ a w', (run component operation body).run Workplace.reply w = (.ok (.ok a), w') ∧
      good a w'.store := by
  obtain ⟨a, w₁, ran, shown⟩ := gives
  exact ⟨a, (Workplace.reply .commit w₁).2, run_of_ok ran rfl, shown⟩

end SplitTest
