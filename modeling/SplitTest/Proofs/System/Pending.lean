import Mathlib.Data.List.Infix
import SplitTest.Proofs.System.Orderly

namespace SplitTest

variable {ι : Type}

def Move.Own : Move ι → Prop
  | .undo _ => False
  | _ => True

namespace System

variable {w w' : System ι} {i j : ι} {task : Task}

def pending (w : System ι) (i : ι) : List Undo := (w.clients i).unit.pending

def Journaled (w : System ι) : Prop := ∀ i, (w.clients i).unit.journaled = true

/-- What a move makes of the store, of what is pending, and of the trace. -/
inductive Shift (w w' : System ι) : Prop
  | dropped (store : w'.store = w.store) (left : ∀ j, w'.pending j <:+ w.pending j)
      (trace : w'.trace = w.trace ∨ ∃ entry, w'.trace = entry :: w.trace ∧
        ∀ x, entry.deed = .replied x → x.wrote = false ∧
          (x.settled = true → w'.pending entry.client = []))
  | called (i : ι) (task : Task) (c : Call)
      (next : Except Fault c.Reply → Program (Outcome Value)) (reply : c.Reply)
      (busy : (w.clients i).task = some task) (rest : task.rest = .ask (.call c) next)
      (performed : c.perform w.store = (.ok reply, w'.store))
      (kept : w'.pending i = (c.undo? w.store reply).toList ++ w.pending i)
      (others : ∀ j, j ≠ i → w'.pending j = w.pending j)
      (trace : w'.trace = ⟨i, task.ticket, task.job, .replied ⟨.call c, .ok reply⟩⟩ :: w.trace)
  | undone (i : ι) (task : Task) (next : Except Fault Unit → Program (Outcome Value)) (undo : Undo)
      (busy : (w.clients i).task = some task) (rest : task.rest = .ask .rollback next)
      (store : w'.store = undo.perform w.store) (left : w.pending i = undo :: w'.pending i)
      (others : ∀ j, j ≠ i → w'.pending j = w.pending j)
      (trace : w'.trace = ⟨i, task.ticket, task.job, .undone undo⟩ :: w.trace)

theorem Shift.trace_suffix (shift : Shift w w') : w.trace <:+ w'.trace := by
  cases shift with
  | dropped store left trace =>
    obtain same | ⟨entry, same, -⟩ := trace
    · rw [same]
    · rw [same]
      exact List.suffix_cons _ _
  | called i task c next reply busy rest performed kept others trace =>
    rw [trace]
    exact List.suffix_cons _ _
  | undone i task next undo busy rest store left others trace =>
    rw [trace]
    exact List.suffix_cons _ _

theorem Shift.replied {ticket : Nat} {job : Job} {x : Exchange} (shift : Shift w w')
    (trace : w'.trace = ⟨i, ticket, job, .replied x⟩ :: w.trace) :
    x.wrote = false ∧ (x.settled = true → w'.pending i = []) ∨
      ∃ (c : Call) (reply : c.Reply), x = ⟨.call c, .ok reply⟩ ∧
        c.perform w.store = (.ok reply, w'.store) := by
  cases shift with
  | dropped store left told =>
    obtain same | ⟨entry, same, quiet⟩ := told
    · rw [same] at trace
      exact absurd trace.symm (List.cons_ne_self _ _)
    · cases List.head_eq_of_cons_eq (trace.symm.trans same)
      exact .inl (quiet x rfl)
  | called j task c next reply busy rest performed kept others told =>
    cases List.head_eq_of_cons_eq (trace.symm.trans told)
    exact .inr ⟨c, reply, rfl, performed⟩
  | undone j task next undo busy rest store left others told =>
    cases List.head_eq_of_cons_eq (trace.symm.trans told)

theorem Shift.clear {ticket : Nat} {job : Job} {x : Exchange} (shift : Shift w w')
    (trace : w'.trace = ⟨i, ticket, job, .replied x⟩ :: w.trace) (settled : x.settled = true) :
    w'.pending i = [] := by
  obtain ⟨-, clear⟩ | ⟨c, reply, rfl, -⟩ := shift.replied trace
  · exact clear settled
  · cases settled

variable [DecidableEq ι]

theorem pending_self {client : Client} : (w.setClient i client).pending i = client.unit.pending := by
  rw [pending, setClient_self]

theorem pending_of_ne {client : Client} (other : j ≠ i) :
    (w.setClient i client).pending j = w.pending j := by
  rw [pending, setClient_of_ne other, pending]

theorem pending_same (client : Client) (same : client.unit = (w.clients i).unit) (j : ι) :
    (w.setClient i client).pending j = w.pending j := by
  by_cases own : j = i
  · rw [own, pending_self, same, pending]
  · exact pending_of_ne own

omit [DecidableEq ι] in
theorem journaled_start (store : Store) : (start store fun _ : ι => {}).Journaled := fun _ => rfl

end System

namespace Request

variable {chance : Chance} {r : Request} {s : Store} {u : UnitOfWork}

theorem perform_journaled : (r.perform chance s u).2.2.journaled = u.journaled := by
  by_cases rollback : r = .rollback
  · subst rollback
    rfl
  · obtain same | ⟨-, same⟩ | ⟨c, -, same⟩ := perform_cases rollback chance s u
    · rw [same]
    · rw [same]
      rfl
    · rw [same]
      exact UnitOfWork.remember_journaled

theorem perform_rollback_untaken (untaken : u.takeBack? chance .rollback = none) :
    (rollback.perform chance s u).2.1 = s ∧
      (rollback.perform chance s u).2.2.pending <:+ u.pending ∧
      ((rollback.perform chance s u).1 = .ok () →
        (rollback.perform chance s u).2.2.pending = []) := by
  cases left : u.pending with
  | nil =>
    rw [perform_rollback left]
    simp [left]
  | cons undo pending =>
    cases broken : chance.undo with
    | none => simp [UnitOfWork.takeBack?, broken, left] at untaken
    | some fault =>
      have done : rollback.perform chance s u =
          (.error fault, s, { u with pending, rollbacks := u.rollbacks + 1 }) := by
        simp only [perform, left, UnitOfWork.unwind, Chance.attempt, broken, Chance.reply]
      rw [done]
      simp

theorem perform_untaken {reply : Except Fault r.Reply} {s' : Store} {u' : UnitOfWork}
    (journaled : u.journaled = true) (untaken : u.takeBack? chance r = none)
    (performed : r.perform chance s u = (reply, s', u')) :
    s' = s ∧ u'.pending <:+ u.pending ∧ Exchange.wrote ⟨r, reply⟩ = false ∧
        (Exchange.settled ⟨r, reply⟩ = true → u'.pending = []) ∨
      ∃ (c : Call) (answer : c.Reply), (⟨r, reply⟩ : Exchange) = ⟨.call c, .ok answer⟩ ∧
        c.perform s = (.ok answer, s') ∧
        u'.pending = (c.undo? s answer).toList ++ u.pending := by
  cases r with
  | call c =>
    cases broken : chance.call with
    | some fault =>
      simp only [perform, broken] at performed
      cases performed
      exact .inl ⟨rfl, List.suffix_refl _, Exchange.wrote_call_error, by rintro ⟨⟩⟩
    | none =>
      cases done : c.perform s with
      | mk answer s'' =>
        have effect := Call.effect_of_perform done
        cases answer with
        | error fault =>
          simp only [perform, broken, done] at performed
          cases performed
          have silent : Exchange.wrote ⟨.call c, .error fault⟩ = false :=
            Exchange.wrote_call_error
          exact .inl ⟨effect.eq_of_silent silent, List.suffix_refl _, silent, by rintro ⟨⟩⟩
        | ok answer =>
          simp only [perform, broken, done] at performed
          cases performed
          exact .inr ⟨c, answer, rfl, done, UnitOfWork.remember_pending journaled⟩
  | commit =>
    cases performed
    exact .inl ⟨rfl, List.nil_suffix, rfl, fun _ => rfl⟩
  | rollback =>
    obtain ⟨same, left, clear⟩ := perform_rollback_untaken (s := s) untaken
    rw [performed] at same left clear
    refine .inl ⟨same, left, rfl, ?_⟩
    intro settled
    cases reply with
    | ok _ => exact clear rfl
    | error fault => cases settled
  | _ =>
    cases performed
    exact .inl ⟨rfl, List.suffix_refl _, rfl, by rintro ⟨⟩⟩

end Request

namespace System

variable {w w' : System ι} {i j : ι} {task : Task} [DecidableEq ι]

theorem shift_answer {chance : Chance} {request : Request}
    {next : Except Fault request.Reply → Program (Outcome Value)} (journaled : w.Journaled)
    (busy : (w.clients i).task = some task) (rest : task.rest = .ask request next)
    (untaken : (w.clients i).unit.takeBack? chance request = none) :
    Shift w (w.answer i chance task request next) := by
  cases performed : request.perform chance w.store (w.clients i).unit with
  | mk reply result =>
    obtain ⟨s', u'⟩ := result
    have own : (w.answer i chance task request next).pending i = u'.pending := by
      simp only [answer, performed]
      exact pending_self
    have others (j : ι) (other : j ≠ i) :
        (w.answer i chance task request next).pending j = w.pending j := by
      simp only [answer, performed]
      exact pending_of_ne other
    have store : (w.answer i chance task request next).store = s' := by
      simp only [answer, performed]
      rfl
    have trace : (w.answer i chance task request next).trace =
        ⟨i, task.ticket, task.job, .replied ⟨request, reply⟩⟩ :: w.trace := by
      rw [trace_answer, performed]
    obtain ⟨same, left, silent, settled⟩ | ⟨c, answer, told, done, kept⟩ :=
      Request.perform_untaken (journaled i) untaken performed
    · refine .dropped (store.trans same) ?_ (.inr ⟨_, trace, ?_⟩)
      · intro j
        by_cases mine : j = i
        · rw [mine, own]
          exact left
        · rw [others j mine]
      · intro x told
        cases told
        refine ⟨silent, ?_⟩
        rw [own]
        exact settled
    · cases told
      refine .called i task c next answer busy rest ?_ (own.trans kept) others trace
      rw [store, done]

theorem shift_step {move : Move ι} (journaled : w.Journaled) (own : move.Own) :
    Shift w (w.step move) := by
  have turn := w.turn_step move
  generalize w.step move = w' at turn ⊢
  cases turn with
  | skipped => exact .dropped rfl (fun _ => List.suffix_refl _) (.inl rfl)
  | @accepted i job idle =>
    apply Shift.dropped
    · rfl
    · intro j
      have same : (w.accept i job).pending j = w.pending j :=
        pending_same (w := w) { w.clients i with
          task := some { ticket := w.tickets, job, rest := job.program } } rfl j
      rw [same]
    · exact .inl rfl
  | @finished i chance task result busy rest =>
    apply Shift.dropped
    · rfl
    · intro j
      have same : (w.finish i task result).pending j = w.pending j :=
        pending_same (w := w) { unit := (w.clients i).unit } rfl j
      rw [same]
    · refine .inr ⟨⟨i, task.ticket, task.job, .ended result⟩, rfl, ?_⟩
      intro x told
      cases told
  | @tookBack i chance task next undo pending busy rest left =>
    refine .undone i task next undo busy rest rfl ?_ ?_ rfl
    · have own : (w.takeBack i task undo { (w.clients i).unit with pending }).pending i = pending :=
        pending_self
      rw [own]
      exact left
    · intro j other
      exact pending_of_ne other
  | answered busy rest untaken => exact shift_answer journaled busy rest untaken
  | meddled => exact own.elim

theorem journaled_step {move : Move ι} (journaled : w.Journaled) : (w.step move).Journaled := by
  have turn := w.turn_step move
  generalize w.step move = w' at turn ⊢
  have set {client : Client} {i : ι} {w : System ι} (journaled : w.Journaled)
      (own : client.unit.journaled = true) : (w.setClient i client).Journaled := by
    intro j
    by_cases mine : j = i
    · subst mine
      rw [setClient_self]
      exact own
    · rw [setClient_of_ne mine]
      exact journaled j
  cases turn with
  | skipped => exact journaled
  | accepted => exact set journaled (journaled _)
  | finished => exact set journaled (journaled _)
  | tookBack => exact set (w := { w with store := _ }) journaled (journaled _)
  | answered =>
    refine set (w := { w with store := _ }) journaled ?_
    exact Request.perform_journaled.trans (journaled _)
  | meddled => exact journaled

end System

end SplitTest
