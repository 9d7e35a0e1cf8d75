import SplitTest.Proofs.Store.Calls

namespace SplitTest

namespace UnitOfWork

variable {undo : Option Undo} {u : UnitOfWork}

@[simp] theorem remember_none : u.remember none = u := by
  simp [remember]

@[simp] theorem remember_commits : (u.remember undo).commits = u.commits := by
  unfold remember
  split <;> rfl

@[simp] theorem remember_rollbacks : (u.remember undo).rollbacks = u.rollbacks := by
  unfold remember
  split <;> rfl

@[simp] theorem remember_journaled : (u.remember undo).journaled = u.journaled := by
  unfold remember
  split <;> rfl

theorem remember_pending (journaled : u.journaled = true) :
    (u.remember undo).pending = undo.toList ++ u.pending := by
  rw [remember, if_pos journaled]

end UnitOfWork

namespace Request

variable {chance : Chance} {r : Request} {s : Store} {u : UnitOfWork} {h : History}

theorem perform_call (c : Call) (chance : Chance) (s : Store) (u : UnitOfWork) :
    ∃ reply s' u', (call c).perform chance s u = (reply, s', u') ∧ c.Effect s reply s' ∧
      (u' = u ∨ ∃ r, reply = .ok r ∧ u' = u.remember (c.undo? s r)) := by
  cases broken : chance.call with
  | some fault =>
    refine ⟨.error fault, s, u, by simp only [perform, broken], ?_, .inl rfl⟩
    exact .silent Exchange.wrote_call_error (by rintro _ ⟨⟩)
  | none =>
    have effect := c.perform_effect s
    rcases done : c.perform s with ⟨fault | reply, s'⟩
    all_goals rw [done] at effect
    · exact ⟨_, s', u, by simp only [perform, broken, done], effect, .inl rfl⟩
    · exact ⟨_, s', _, by simp only [perform, broken, done], effect, .inr ⟨reply, rfl, rfl⟩⟩

theorem perform_cases (other : r ≠ .rollback) (chance : Chance) (s : Store)
    (u : UnitOfWork) : (r.perform chance s u).2 = (s, u) ∨
      r = .commit ∧ (r.perform chance s u).2 = (s, u.commit) ∨
      ∃ c, r = .call c ∧ (r.perform chance s u).2 =
        ((c.perform s).2, u.remember ((c.perform s).1.toOption.bind (c.undo? s))) := by
  cases r with
  | call c =>
    cases broken : chance.call with
    | some fault =>
      left
      simp only [perform, broken]
    | none =>
      refine .inr (.inr ⟨c, rfl, ?_⟩)
      rcases done : c.perform s with ⟨fault | reply, s'⟩
      · simp only [perform, broken, done, Except.toOption, Option.bind_none,
          UnitOfWork.remember_none]
      · simp only [perform, broken, done, Except.toOption, Option.bind_some]
  | commit => exact .inr (.inl ⟨rfl, rfl⟩)
  | rollback => exact absurd rfl other
  | _ => exact .inl rfl

theorem perform_call_silent {c : Call}
    (silent : Exchange.wrote ⟨.call c, ((call c).perform chance s u).1⟩ = false) :
    ((call c).perform chance s u).2 = (s, u) := by
  obtain ⟨reply, s', u', done, effect, unit⟩ := perform_call c chance s u
  rw [done] at silent ⊢
  obtain rfl := effect.eq_of_silent silent
  obtain rfl | ⟨r, rfl, rfl⟩ := unit
  · rfl
  · rw [Call.undo?_eq_none silent, UnitOfWork.remember_none]

theorem perform_rollback (empty : u.pending = []) :
    rollback.perform chance s u = (.ok (), s, { u with rollbacks := u.rollbacks + 1 }) := by
  simp [perform, empty, UnitOfWork.unwind, Chance.reply]

variable (empty : r = .rollback → u.pending = [])
include empty

theorem perform_calm (quiet : chance.event = none) :
    Exchange.disturbed ⟨r, (r.perform chance s u).1⟩ = false := by
  cases r with
  | rollback => rw [perform_rollback (empty rfl)]; rfl
  | emit event => simp [perform, quiet, Chance.reply]
  | _ => rfl

theorem perform_silent (silent : Exchange.wrote ⟨r, (r.perform chance s u).1⟩ = false) :
    (r.perform chance s u).2.1 = s := by
  cases r with
  | call c => rw [perform_call_silent silent]
  | rollback => rw [perform_rollback (empty rfl)]
  | _ => rfl

theorem perform_clear (clear : ¬ h.Unsettled → u.pending = [])
    (settled : ¬ History.Unsettled (⟨r, (r.perform chance s u).1⟩ :: h)) :
    (r.perform chance s u).2.2.pending = [] := by
  cases r with
  | call c =>
    have calm : Exchange.settled ⟨.call c, ((call c).perform chance s u).1⟩ = false := rfl
    have silent : Exchange.wrote ⟨.call c, ((call c).perform chance s u).1⟩ = false := by
      cases silent : Exchange.wrote ⟨.call c, ((call c).perform chance s u).1⟩ with
      | false => rfl
      | true => exact absurd ⟨calm, .inl silent⟩ settled
    rw [perform_call_silent silent]
    exact clear fun unsettled => settled ⟨calm, .inr unsettled⟩
  | rollback => rw [perform_rollback (empty rfl)]; exact empty rfl
  | commit => rfl
  | emit event =>
    refine clear fun unsettled => settled ⟨?_, .inr unsettled⟩
    cases chance.event <;> rfl
  | _ => exact clear fun unsettled => settled ⟨rfl, .inr unsettled⟩

omit empty

theorem perform_commits : (r.perform chance s u).2.2.commits =
    u.commits + if Exchange.committed ⟨r, (r.perform chance s u).1⟩ then 1 else 0 := by
  cases r with
  | call c =>
    obtain ⟨reply, s', u', done, -, unit⟩ := perform_call c chance s u
    rw [done]
    obtain rfl | ⟨r, -, rfl⟩ := unit
    · rfl
    · exact UnitOfWork.remember_commits
  | _ => rfl

theorem perform_rollbacks : (r.perform chance s u).2.2.rollbacks =
    u.rollbacks + if Exchange.rolledBack ⟨r, (r.perform chance s u).1⟩ then 1 else 0 := by
  cases r with
  | call c =>
    obtain ⟨reply, s', u', done, -, unit⟩ := perform_call c chance s u
    rw [done]
    obtain rfl | ⟨r, -, rfl⟩ := unit
    · rfl
    · exact UnitOfWork.remember_rollbacks
  | _ => rfl

end Request

theorem Workplace.reply_cases (w : Workplace) {r : Request} (untaken : r ≠ .rollback) :
    (reply r w).2.store = w.store ∧ (reply r w).2.unit = w.unit ∨
      r = .commit ∧ (reply r w).2.store = w.store ∧ (reply r w).2.unit = w.unit.commit ∨
      ∃ c, r = .call c ∧ (reply r w).2.store = (c.perform w.store).2 ∧
        (reply r w).2.unit =
          w.unit.remember ((c.perform w.store).1.toOption.bind (c.undo? w.store)) := by
  obtain same | ⟨commit, same⟩ | ⟨c, call, same⟩ :=
    Request.perform_cases untaken (w.chances 0) w.store w.unit
  · exact .inl (Prod.mk.inj same)
  · exact .inr (.inl ⟨commit, Prod.mk.inj same⟩)
  · exact .inr (.inr ⟨c, call, Prod.mk.inj same⟩)

end SplitTest
