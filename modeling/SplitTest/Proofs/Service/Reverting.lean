import SplitTest.Proofs.Lifecycle.Evolution
import SplitTest.Proofs.Program.Meets
import SplitTest.Proofs.Service.Lawful
import SplitTest.Proofs.Store.Built
import SplitTest.Proofs.Store.Experiments
import SplitTest.Proofs.Store.Reversal

namespace SplitTest

namespace Workplace

open Program Transaction Store

variable {base : Store} {h : History} {w : Workplace} {settings : Settings} {service : Service}
  {c : Call} {r : Request}

structure Undoable (base : Store) (h : History) (w : Workplace) : Prop where
  journaled : w.unit.journaled = true
  whole : ∀ n, (w.chances n).undo = none
  keyed : w.store.Keyed
  read : ∀ id e, h.Read id e → e.id = id ∧
    ∃ now, w.store.experimentById id = some now ∧ now.nameKey = e.nameKey
  reverts : Restored False base (w.store.rewind w.unit.pending)

namespace Undoable

variable (undoable : Undoable base h w)
include undoable

theorem renames_nothing {row old : Experiment} {expected : Status}
    (lawful : service.law settings h (.call (.updateExperiment row expected)))
    (stored : w.store.experimentById row.id = some old) :
    old.id = row.id ∧ row.nameKey = old.nameKey := by
  obtain ⟨id, e, -, read, revises⟩ := lawful
  obtain ⟨own, now, stored', named⟩ := undoable.read id e read
  rw [← own, ← revises.id, stored] at stored'
  cases stored'
  exact ⟨undoable.keyed.experiments stored, revises.nameKey.trans named.symm⟩

theorem keeps_name (lawful : service.law settings h (.call c)) {id : Uuid} {e : Experiment}
    (stored : w.store.experimentById id = some e) :
    ∃ now, (c.perform w.store).2.experimentById id = some now ∧ now.nameKey = e.nameKey := by
  have effect := c.perform_effect w.store
  generalize (c.perform w.store).1 = reply, (c.perform w.store).2 = s' at effect ⊢
  cases effect with
  | silent => exact ⟨e, stored, rfl⟩
  | bound fresh same => exact ⟨e, (same id).trans stored, rfl⟩
  | recorded assignments same => exact ⟨e, (same id).trans stored, rfl⟩
  | created fresh same saved =>
    refine ⟨e, ?_, rfl⟩
    rw [saved, if_neg, stored]
    rintro rfl
    rw [stored] at fresh
    cases fresh
  | updated found status same saved =>
    rw [saved]
    split
    case isFalse => exact ⟨e, stored, rfl⟩
    case isTrue own =>
      subst own
      exact ⟨_, rfl, (undoable.renames_nothing lawful stored).2⟩

theorem rewind_call (lawful : service.law settings h (.call c)) :
    Restored False base ((c.perform w.store).2.rewind
      (((c.perform w.store).1.toOption.bind (c.undo? w.store)).toList ++ w.unit.pending)) := by
  have restored : Restored False w.store ((c.perform w.store).2.rewind
      ((c.perform w.store).1.toOption.bind (c.undo? w.store)).toList) := by
    apply Store.rewind_call (n := 0)
    · rintro row expected old rfl found
      have stored : w.store.experimentById row.id = some old.row := by
        rw [experimentById, found]
        rfl
      exact (undoable.renames_nothing lawful stored).imp_right .inl
    · exact False.elim
  rw [rewind_append]
  exact undoable.reverts.trans (restored.rewind w.unit.pending)

theorem reply (lawful : Inside (service.law settings) h r) :
    Undoable base (⟨r, (reply r w).1⟩ :: h) (reply r w).2 := by
  obtain ⟨lawful, uncommitted, untaken⟩ := lawful
  have whole (n : Nat) : ((Workplace.reply r w).2.chances n).undo = none := undoable.whole (n + 1)
  have read (id : Uuid) (e : Experiment)
      (told : History.Read (⟨r, (Workplace.reply r w).1⟩ :: h) id e) :
      e.id = id ∧ ∃ now, w.store.experimentById id = some now ∧ now.nameKey = e.nameKey := by
    obtain new | old := List.mem_cons.mp told
    · have stored : w.store.experimentById id = some e := Request.perform_read new.symm
      exact ⟨undoable.keyed.experiments stored, e, stored, rfl⟩
    · exact undoable.read id e old
  rcases reply_cases w untaken with ⟨store, unit⟩ | ⟨commit, -⟩ | ⟨c, rfl, store, unit⟩
  · constructor
    case whole => exact whole
    case journaled => rw [unit]; exact undoable.journaled
    case keyed => rw [store]; exact undoable.keyed
    case read => rw [store]; exact read
    case reverts => rw [store, unit]; exact undoable.reverts
  · exact absurd commit uncommitted
  · constructor
    case whole => exact whole
    case journaled =>
      rw [unit, UnitOfWork.remember_journaled]
      exact undoable.journaled
    case keyed =>
      rw [store]
      exact undoable.keyed.call (c.perform_effect w.store)
    case read =>
      rw [store]
      intro id e told
      obtain ⟨own, before, stored, named⟩ := read id e told
      obtain ⟨now, stored, kept⟩ := undoable.keeps_name lawful stored
      exact ⟨own, now, stored, kept.trans named⟩
    case reverts =>
      rw [store, unit, UnitOfWork.remember_pending undoable.journaled]
      exact undoable.rewind_call lawful

end Undoable

theorem reply_rollback (whole : ∀ n, (w.chances n).undo = none)
    (reverts : Restored False base (w.store.rewind w.unit.pending)) :
    ∃ w', reply .rollback w = (.ok (), w') ∧ w'.unit.pending = [] ∧
      Restored False base w'.store := by
  simp only [reply, Request.perform, unwind_eq (whole 0), Chance.reply]
  exact ⟨_, rfl, rfl, reverts⟩

inductive Ends (operation : String) (base : Store) {α : Type} :
    Except Fault (Outcome α) → Workplace → Prop
  | answered {a : α} {w : Workplace} (clear : w.unit.pending = []) :
      Ends operation base (.ok (.ok a)) w
  | failed {e : Error} {w : Workplace} (clear : w.unit.pending = [])
      (restored : Restored False base w.store) : Ends operation base (.ok (.error e)) w
  | escaped {fault : Fault} {w : Workplace} (component : String) (cause : Fault)
      (reported : w.exchanges.head? =
        some ⟨.emit (trouble component "storage failure" operation cause), .error fault⟩)
      (left : Restored False base (w.store.rewind w.unit.pending)) :
      Ends operation base (.error fault) w

variable {α β : Type} {operation component : String}

theorem Ends.map {result : Except Fault (Outcome α)} (ends : Ends operation base result w)
    (wrap : α → β) : Ends operation base (result.map (·.map wrap)) w := by
  cases ends with
  | answered clear => exact .answered clear
  | failed clear restored => exact .failed clear restored
  | escaped component cause reported left => exact .escaped component cause reported left

theorem recover_ends (whole : ∀ n, (w.chances n).undo = none)
    (reverts : Restored False base (w.store.rewind w.unit.pending)) (cause : Fault) :
    ∃ (result : Except Fault (Outcome α)) (w' : Workplace),
      (recover component operation cause).run reply w = (result, w') ∧
        Ends operation base result w' := by
  have told : (reply (.emit (trouble component "storage failure" operation cause)) w).1 =
      Chance.reply (w.chances 0).event := rfl
  rw [recover, run_bind]
  simp only [request, run_ask, run_done, told]
  cases broken : (w.chances 0).event with
  | some fault =>
    rw [broken] at told
    refine ⟨_, _, rfl, .escaped component cause ?_ reverts⟩
    rw [← Chance.reply, ← told]
    rfl
  | none =>
    obtain ⟨w', rolled, clear, restored⟩ := reply_rollback
      (w := (reply (.emit (trouble component "storage failure" operation cause)) w).2)
      (fun n => whole (n + 1)) reverts
    simp only [Chance.reply, run_bind, run_handle, run_ask, run_done, rolled]
    exact ⟨_, _, rfl, .failed clear restored⟩

theorem body_run_ends {good : History → α → Prop} {body : Operation α}
    (undoable : Undoable base h w) (lawful : Body settings service good body h) :
    ∃ (result : Except Fault (Outcome α)) (w' : Workplace),
      (Transaction.run component operation body).run reply w = (result, w') ∧
        Ends operation base result w' := by
  obtain ⟨h', undoable, -⟩ := Program.Meets.run (Undoable base)
    (fun _ _ _ lawful undoable => undoable.reply lawful) lawful undoable
  rcases ran : body.run.run reply w with ⟨fault | e | a, w₁⟩
  all_goals
    rw [ran] at undoable
  · rw [run_of_fault ran]
    exact recover_ends undoable.whole undoable.reverts fault
  · obtain ⟨w', rolled, clear, restored⟩ := reply_rollback undoable.whole undoable.reverts
    exact ⟨_, _, run_of_error ran rolled, .failed clear restored⟩
  · exact ⟨_, _, run_of_ok ran rfl, .answered rfl⟩

/-- Whatever breaks down but steps of a rollback, a transaction ends in one of three ways. -/
theorem service_run_ends (settings : Settings) (service : Service) (operation : String)
    (store : Store) (unit : UnitOfWork) (chances : Nat → Chance)
    (named : service.operation? = some operation) (built : store.Built)
    (journaled : unit.journaled = true) (clear : unit.pending = [])
    (whole : ∀ n, (chances n).undo = none) :
    ∃ result w, (service.program settings).run reply { store, unit, chances } = (result, w) ∧
      Ends operation store result w := by
  obtain ⟨α, wrap, p, same, component, body, rfl, lawful⟩ :=
    service.program_transacts settings named
  have undoable : Undoable store [] { store, unit, chances } := by
    constructor
    case journaled => exact journaled
    case whole => exact whole
    case keyed => exact built.keyed
    case read => exact fun id e read => absurd read List.not_mem_nil
    case reverts =>
      rw [clear]
      exact .refl store
  obtain ⟨result, w, ran, ends⟩ := body_run_ends undoable lawful
  rw [same, run_map, ran]
  exact ⟨_, _, rfl, ends.map wrap⟩

theorem service_run_ends_failed :
    let store : Store := (({} : Store).createExperiment
      { id := ⟨1⟩, organization := ⟨2⟩, name := "colour" }).2
    let chances : Nat → Chance := fun n =>
      if n = 4 then { event := some (.reported "observer down") } else {}
    ∃ e w, ((Service.start ⟨1⟩).program {}).run reply { store, unit := {}, chances } =
      (.ok (.error e), w) ∧ w.unit.pending = [] ∧ Restored False store w.store := by
  intro store chances
  have whole (n : Nat) : (chances n).undo = none := by
    dsimp only [chances]
    split <;> rfl
  have built : store.Built := .call (.createExperiment _) .empty
  obtain ⟨result, w, ran, ends⟩ :=
    service_run_ends {} (.start ⟨1⟩) "start" store {} chances rfl built rfl rfl whole
  have failed : (((Service.start ⟨1⟩).program {}).run reply
      { store, unit := {}, chances }).1.toOption.any (·.toOption.isNone) = true := by
    decide +kernel
  rw [ran] at failed
  cases ends with
  | answered => cases failed
  | escaped => cases failed
  | failed clear restored => exact ⟨_, _, ran, clear, restored⟩

/-- The observer breaks down when it is told of a new experiment, and again when it is told of that
breakdown. The call breaks down, and the next one of its unit of work commits the experiment. -/
theorem escaped_create_is_committed :
    let draft : Draft :=
      { name := "colour"
        variants := Std.ExtTreeMap.ofList [("red", Json.null), ("blue", Json.null)] }
    let chances : Nat → Chance := fun n =>
      { id := ⟨1⟩, event := if n = 4 ∨ n = 5 then some (.reported "observer down") else none }
    let failed := ((Service.create draft ⟨2⟩).program {}).run reply
      { store := {}, unit := {}, chances }
    let later := ((Service.get ⟨1⟩).program {}).run reply { failed.2 with chances := fun _ => {} }
    failed.1.isOk = false ∧ failed.2.unit.pending.length = 1 ∧
      failed.2.store.experiments.size = 1 ∧ failed.2.store.names.size = 1 ∧
        (later.1.toOption.bind (·.toOption)).isSome = true ∧ later.2.unit.commits = 1 ∧
          later.2.unit.pending.length = 0 ∧ later.2.store.experiments.size = 1 := by
  decide +kernel

end Workplace

end SplitTest
