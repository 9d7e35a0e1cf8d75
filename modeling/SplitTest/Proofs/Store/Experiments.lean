import SplitTest.Proofs.Store.Requests

namespace SplitTest

inductive Saving (s s' : Store) : Exchange → Prop
  | nothing {x : Exchange} (silent : x.saved? = none)
      (same : ∀ id, s'.experimentById id = s.experimentById id) : Saving s s' x
  | created {row : Experiment} (fresh : s.experimentById row.id = none)
      (saved : ∀ id, s'.experimentById id = if row.id = id then some row else s.experimentById id) :
      Saving s s' ⟨.call (.createExperiment row), .ok .inserted⟩
  | updated {row old : Experiment} {expected : Status} (found : s.experimentById row.id = some old)
      (status : old.status = expected)
      (saved : ∀ id, s'.experimentById id = if row.id = id then some row else s.experimentById id) :
      Saving s s' ⟨.call (.updateExperiment row expected), .ok .updated⟩

variable {s : Store}

theorem Call.Effect.saving {c : Call} {reply : Except Fault c.Reply} {s' : Store}
    (effect : c.Effect s reply s') : Saving s s' ⟨.call c, reply⟩ := by
  cases effect with
  | silent silent told => exact .nothing (Exchange.saved?_eq_none silent) fun _ => rfl
  | created fresh same saved => exact .created fresh saved
  | updated found status same saved => exact .updated found status saved
  | bound fresh same bound => exact .nothing rfl same
  | recorded assignments same => exact .nothing rfl same

namespace Request

variable {chance : Chance} {r : Request} {u : UnitOfWork}

theorem perform_saving (empty : r = .rollback → u.pending = []) :
    Saving s (r.perform chance s u).2.1 ⟨r, (r.perform chance s u).1⟩ := by
  cases r with
  | call c =>
    obtain ⟨reply, s', u', done, effect, -⟩ := perform_call c chance s u
    rw [done]
    exact effect.saving
  | rollback =>
    rw [perform_rollback (empty rfl)]
    exact .nothing rfl fun _ => rfl
  | _ => exact .nothing rfl fun _ => rfl

theorem perform_read {id : Uuid} {e : Experiment}
    (read : (⟨r, (r.perform chance s u).1⟩ : Exchange) =
      ⟨.call (.experimentById id), .ok (some e)⟩) :
    s.experimentById id = some e := by
  obtain ⟨rfl, same⟩ := Exchange.mk.inj read
  obtain ⟨reply, s', u', done, effect, -⟩ := perform_call (.experimentById id) chance s u
  rw [done] at same
  obtain rfl := eq_of_heq same
  cases effect with
  | silent silent told => exact Except.ok.inj (congrArg Prod.fst (told _ rfl))

end Request

end SplitTest
