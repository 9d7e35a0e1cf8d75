import SplitTest.Proofs.System.Orderly

namespace SplitTest

namespace System

variable {ι : Type} {law : History → Request → Prop}
  {fit : History → Except Fault (Outcome Value) → Prop} {ticket : Nat} {w : System ι}

structure Follows (law : History → Request → Prop)
    (fit : History → Except Fault (Outcome Value) → Prop) (ticket : Nat) (w : System ι) : Prop where
  issued : ticket < w.tickets
  meets : ∀ {i task}, (w.clients i).task = some task → task.ticket = ticket →
    task.rest.Meets law fit task.exchanges
  fits : ∀ entry ∈ w.trace, entry.ticket = ticket → ∀ result, entry.deed = .ended result →
    fit (w.trace.history ticket) result

theorem follows_of_busy (orderly : Orderly w) {i : ι} {task : Task}
    (busy : (w.clients i).task = some task) (m : task.rest.Meets law fit task.exchanges) :
    Follows law fit task.ticket w where
  issued := orderly.issued busy
  meets busy' same := by
    obtain rfl := orderly.distinct busy busy' same.symm
    cases busy.symm.trans busy'
    exact m
  fits _ entered same _ ended := absurd same (orderly.ne_of_ended busy entered ended)

variable [DecidableEq ι]

theorem job_meets_run {job : Job} (m : job.program.Meets law fit []) (moves : List (Move ι)) :
    ∀ i task, ((({} : System ι).run moves).clients i).task = some task → task.job = job →
      task.rest.Meets law fit task.exchanges := by
  apply run_keeps (fun w => ∀ i task, (w.clients i).task = some task → task.job = job →
    task.rest.Meets law fit task.exchanges)
  · intro w move _ kept i task busy same
    obtain busy | ⟨job', -, rfl⟩ | ⟨chance, before, request, next, earlier, rest, -, rfl⟩ :=
      busy_step busy
    · exact kept i task busy same
    · cases same
      exact m
    · have meets := kept i before earlier same
      rw [rest] at meets
      exact meets.2 _
  · exact fun _ _ => nofun

theorem Follows.step (follows : Follows law fit ticket w) (orderly : Orderly w) (move : Move ι) :
    Follows law fit ticket (w.step move) where
  issued := by
    have turn := w.turn_step move
    generalize w.step move = w' at turn ⊢
    cases turn with
    | accepted => exact Nat.lt_succ_of_lt follows.issued
    | _ => exact follows.issued
  meets busy same := by
    obtain busy | ⟨job, -, rfl⟩ | ⟨chance, before, request, next, earlier, rest, -, rfl⟩ :=
      busy_step busy
    · exact follows.meets busy same
    · exact absurd same (Nat.ne_of_gt follows.issued)
    · have meets := follows.meets earlier same
      rw [rest] at meets
      exact meets.2 _
  fits := by
    have turn := w.turn_step move
    generalize w.step move = w' at turn ⊢
    cases turn with
    | skipped => exact follows.fits
    | accepted => exact follows.fits
    | meddled => exact follows.fits
    | @finished i chance task result busy rest =>
      have told : (w.finish i task result).trace.history ticket = w.trace.history ticket :=
        Trace.history_silent (by rintro _ ⟨⟩)
      rw [told]
      refine List.forall_mem_cons.mpr ⟨?_, follows.fits⟩
      rintro same _ ⟨⟩
      have meets := follows.meets busy same
      rw [rest, Program.meets_done, ← (orderly.faithful busy).kept] at meets
      rwa [← same]
    | @tookBack i chance task next undo pending busy rest left =>
      have told : (w.takeBack i task undo
          { (w.clients i).unit with pending }).trace.history ticket = w.trace.history ticket :=
        Trace.history_silent (by rintro _ ⟨⟩)
      rw [told]
      exact List.forall_mem_cons.mpr ⟨by rintro _ _ ⟨⟩, follows.fits⟩
    | @answered i chance task request next busy rest untaken =>
      refine List.forall_mem_cons.mpr ⟨by rintro _ _ ⟨⟩, fun entry m same result ended => ?_⟩
      have foreign := orderly.ne_of_ended busy m ended
      rw [same] at foreign
      rw [trace_answer, Trace.history_foreign foreign.symm]
      exact follows.fits entry m same result ended

theorem history_step (follows : Follows law fit ticket w) (orderly : Orderly w) (move : Move ι) :
    (w.step move).trace.history ticket = w.trace.history ticket ∨
      ∃ (chance : Chance) (request : Request) (u : UnitOfWork),
        law (w.trace.history ticket) request ∧ (w.step move).trace.history ticket =
          ⟨request, (request.perform chance w.store u).1⟩ :: w.trace.history ticket := by
  have turn := w.turn_step move
  generalize w.step move = w' at turn ⊢
  cases turn with
  | skipped => exact .inl rfl
  | accepted => exact .inl rfl
  | meddled => exact .inl rfl
  | finished => exact .inl (Trace.history_silent (by rintro _ ⟨⟩))
  | tookBack => exact .inl (Trace.history_silent (by rintro _ ⟨⟩))
  | @answered i chance task request next busy rest untaken =>
    by_cases same : task.ticket = ticket
    · subst same
      have meets := follows.meets busy rfl
      rw [rest, ← (orderly.faithful busy).kept] at meets
      exact .inr ⟨chance, request, _, meets.1, Trace.history_own⟩
    · exact .inl (Trace.history_foreign same)

end System

end SplitTest
