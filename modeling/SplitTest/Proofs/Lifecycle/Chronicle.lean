import SplitTest.Proofs.Lifecycle.Revision

namespace SplitTest

namespace System

variable {ι : Type} {w : System ι}

structure Chronicle (w : System ι) : Prop where
  read : ∀ {ticket id e}, (w.trace.history ticket).Read id e → e.id = id
  written : ∀ {ticket x row}, x ∈ w.trace.history ticket → x.saved? = some row →
    ∃ now, w.store.experimentById row.id = some now ∧ row.Evolves now
  once : ∀ {ticket ticket' x x' row row'}, x ∈ w.trace.history ticket →
    x' ∈ w.trace.history ticket' → x.saved? = some row → x'.saved? = some row' →
    row.id = row'.id → row.status = row'.status → row.status ≠ .draft → ticket = ticket'

theorem chronicle_start {store : Store} {units : ι → UnitOfWork} :
    Chronicle (start store units) where
  read := nofun
  written := nofun
  once := nofun

theorem Chronicle.fresh_status (chronicle : Chronicle w) {ticket : Nat} {x : Exchange}
    {row row' old : Experiment} (m : x ∈ w.trace.history ticket) (saved : x.saved? = some row)
    (found : w.store.experimentById row'.id = some old)
    (next : Status.Next old.status row'.status) (same : row.id = row'.id) :
    row.status ≠ row'.status := by
  intro equal
  obtain ⟨now, stored, evolves⟩ := chronicle.written m saved
  rw [same] at stored
  cases found.symm.trans stored
  have upward := Status.index_le evolves.path
  rw [equal] at upward
  exact Nat.lt_irrefl _ (Nat.lt_of_lt_of_le next.index_lt upward)

variable [DecidableEq ι] {move : Move ι}

namespace Chronicle

theorem written_step (chronicle : Chronicle w) (steady : Steady w) (calm : move.Quiet)
    {ticket : Nat} {x : Exchange} {row : Experiment} (m : x ∈ (w.step move).trace.history ticket)
    (saved : x.saved? = some row) :
    ∃ now, (w.step move).store.experimentById row.id = some now ∧ row.Evolves now := by
  obtain old | ⟨i, chance, task, request, next, -, busy, rest, -, rfl, same⟩ := mem_history_step m
  · obtain ⟨now, stored, evolves⟩ := chronicle.written old saved
    exact steady.evolves_step calm evolves stored
  · rw [same]
    exact ⟨row, ((steady.revision _ busy rest).written saved).1, .refl row⟩

theorem step (chronicle : Chronicle w) (steady : Steady w) (calm : move.Quiet) :
    Chronicle (w.step move) where
  read read := by
    obtain old | ⟨i, chance, task, request, next, -, busy, rest, -, new, -⟩ := mem_history_step read
    · exact chronicle.read old
    · exact steady.built.keyed.experiments (Request.perform_read new.symm)
  written m saved := chronicle.written_step steady calm m saved
  once m m' saved saved' id status past := by
    obtain old | ⟨i, chance, task, request, next, turn, busy, rest, ticket, rfl, -⟩ :=
      mem_history_step m
    · obtain old' | ⟨i, chance, task, request, next, -, busy, rest, -, rfl, -⟩ :=
        mem_history_step m'
      · exact chronicle.once old old' saved saved' id status past
      · obtain ⟨before, found, next⟩ :=
          ((steady.revision _ busy rest).written saved').2 (status ▸ past)
        exact absurd status (chronicle.fresh_status old saved found next id)
    · obtain old' | ⟨i', chance', task', request', next', turn', busy', -, ticket', -, -⟩ :=
        mem_history_step m'
      · obtain ⟨before, found, next⟩ := ((steady.revision _ busy rest).written saved).2 past
        exact absurd status.symm (chronicle.fresh_status old' saved' found next id.symm)
      · cases turn.symm.trans turn'
        cases busy.symm.trans busy'
        exact ticket.symm.trans ticket'

end Chronicle

end System

end SplitTest
