import SplitTest.Proofs.Store.Assignments
import SplitTest.Proofs.System.Quiet

namespace SplitTest

namespace System

variable {ι : Type} {w : System ι} {key : AssignmentKey} {a : Assignment}

def Remembers (w : System ι) : Prop :=
  ∀ ticket, ∀ x ∈ w.trace.history ticket, ∀ key a, x.assignment? = some (key, a) →
    w.store.assignments[key]? = some a

theorem remembers_start (store : Store) (units : ι → UnitOfWork) :
    (start store units).Remembers := by
  intro ticket x m
  cases m

theorem Orderly.told_of_answer (orderly : Orderly w) {experiment subject : Uuid} {value : Value}
    (answered : (.assign experiment subject, value) ∈ w.trace.answers) :
    ∃ ticket, ∃ x ∈ w.trace.history ticket, ∃ a : Assignment,
      x.assignment? = some ((experiment, subject), a) ∧ value = .text a.variant := by
  obtain ⟨entry, m, answered⟩ := List.mem_filterMap.mp answered
  obtain ⟨variant, rfl, bound⟩ :=
    (orderly.shows_of_answer m answered).bound experiment subject rfl
  rcases bound with ⟨a, rfl, found⟩ | ⟨a, key, rfl, inserted⟩
  · exact ⟨entry.ticket, _, found, a, rfl, rfl⟩
  · exact ⟨entry.ticket, _, inserted, a, by rw [← key]; rfl, rfl⟩

variable [DecidableEq ι]

def Retains (w : System ι) : List (Move ι) → Prop
  | [] => True
  | move :: moves =>
    (∀ key ∈ w.store.assignments, key ∈ (w.step move).store.assignments) ∧
      (w.step move).Retains moves

theorem retains_append {before after : List (Move ι)} :
    w.Retains (before ++ after) ↔ w.Retains before ∧ (w.run before).Retains after := by
  induction before generalizing w with
  | nil => exact ⟨fun retains => ⟨trivial, retains⟩, And.right⟩
  | cons move before ih => rw [List.cons_append, Retains, ih, Retains, and_assoc]; rfl

theorem step_assignments {move : Move ι}
    (retained : ∀ key ∈ w.store.assignments, key ∈ (w.step move).store.assignments)
    (found : w.store.assignments[key]? = some a) :
    (w.step move).store.assignments[key]? = some a := by
  have stays := retained key
    (Std.ExtTreeMap.mem_iff_isSome_getElem?.mpr (Option.isSome_of_eq_some found))
  obtain same | ⟨undo, same⟩ | ⟨chance, r, u, same⟩ := w.store_step move
  · rwa [same]
  · rw [same] at stays ⊢
    exact Store.getElem?_of_shrinks (fun _ => Store.undo_assignments undo) found stays
  · rw [same] at stays ⊢
    exact r.perform_assignments found stays

theorem Retains.run_keeps (keeps : System ι → Prop) {moves : List (Move ι)}
    (step : ∀ w : System ι, ∀ move,
      (∀ key ∈ w.store.assignments, key ∈ (w.step move).store.assignments) →
        keeps w → keeps (w.step move))
    (retains : w.Retains moves) (kept : keeps w) : keeps (w.run moves) := by
  induction moves generalizing w with
  | nil => exact kept
  | cons move moves ih => exact ih retains.2 (step w move retains.1 kept)

theorem Remembers.step {move : Move ι} (remembers : w.Remembers)
    (retained : ∀ key ∈ w.store.assignments, key ∈ (w.step move).store.assignments) :
    (w.step move).Remembers := by
  intro ticket x m key a told
  obtain old | ⟨i, chance, task, r, next, -, -, -, -, rfl, same⟩ := mem_history_step m
  · exact step_assignments retained (remembers ticket x old key a told)
  · rw [same]
    exact r.perform_assignment? told

theorem Quiet.retains {moves : List (Move ι)} (quiet : Quiet w) (orderly : Orderly w)
    (calm : ∀ move ∈ moves, move.Quiet) : w.Retains moves := by
  induction moves generalizing w with
  | nil => trivial
  | cons move moves ih =>
    obtain ⟨still, calm⟩ := List.forall_mem_cons.mp calm
    refine ⟨fun key present => ?_, ih (quiet.step orderly still) (orderly.step move) calm⟩
    have turn := w.turn_step move
    generalize w.step move = w' at turn ⊢
    cases turn with
    | answered busy rest =>
      exact Request.perform_mem_assignments (quiet.nothing_to_take_back orderly busy rest) present
    | tookBack busy rest left => exact (quiet.not_left orderly busy rest left).elim
    | meddled => exact still.elim
    | _ => exact present

/-- All answers to `assign` for one subject in one experiment are the variant of the one row there
is for it, and that row stays. -/
theorem run_assign_sticky (store : Store) (units : ι → UnitOfWork) (before after : List (Move ι))
    (experiment subject : Uuid) (built : store.Built)
    (retains : (start store units).Retains (before ++ after)) :
    let middle := (start store units).run before
    let final := (start store units).run (before ++ after)
    (final.store.assignmentRows experiment subject).length ≤ 1 ∧
      (∀ value, (.assign experiment subject, value) ∈ final.trace.answers →
        ∃ row, final.store.assignmentRows experiment subject = [row] ∧
          value = .text row.variant) ∧
      ∀ row ∈ middle.store.assignmentRows experiment subject,
        final.store.assignmentRows experiment subject = [row] := by
  intro middle final
  have rows : final.store.assignmentRows experiment subject = _ :=
    (built_run built).keyed.assignmentRows_eq
  refine ⟨?_, fun value answered => ?_, fun row m => ?_⟩
  · rw [rows]
    cases final.store.assignments[(experiment, subject)]? with
    | none => exact Nat.zero_le 1
    | some row => exact Nat.le_refl 1
  · obtain ⟨ticket, x, m, row, told, rfl⟩ :=
      (orderly_run store units (before ++ after)).told_of_answer answered
    have remembers := retains.run_keeps Remembers
      (fun _ _ retained remembers => remembers.step retained) (remembers_start store units)
    have found := remembers ticket x m _ row told
    exact ⟨row, by rw [rows, found]; rfl, rfl⟩
  · have found := (built_run built).keyed.mem_assignmentRows.mp m
    have kept := (retains_append.mp retains).2.run_keeps
      (fun w => w.store.assignments[(experiment, subject)]? = some row)
      (fun _ _ retained found => step_assignments retained found) found
    rw [← run_append] at kept
    rw [rows, kept]
    rfl

theorem run_assign_sticky_bound :
    let running : Experiment :=
      { id := ⟨1⟩, organization := ⟨2⟩, name := "colour", status := .running }
    let store := ((({} : Store).createExperiment running).2.createAssignment
      ⟨⟨1⟩, ⟨7⟩, "red", ⟨0⟩⟩).2
    let ask (i : Bool) : Move Bool := .begin i (.service {} (.assign ⟨1⟩ ⟨7⟩))
    let moves := ask true :: .proceed true {} :: ask false ::
      List.replicate 4 (.proceed false {}) ++ List.replicate 3 (.proceed true {})
    let final := (start store fun _ => {}).run moves
    final.trace.answers.length = 2 ∧
      ∀ value, (.assign ⟨1⟩ ⟨7⟩, value) ∈ final.trace.answers →
        ∃ row, final.store.assignmentRows ⟨1⟩ ⟨7⟩ = [row] ∧ value = .text row.variant := by
  intro running store ask moves final
  have built : store.Built := .call (.createAssignment _) (.call (.createExperiment _) .empty)
  have calm : ∀ move ∈ moves, move.Quiet := by simp [moves, ask, Move.Quiet]
  have retains := (quiet_start fun _ => rfl).retains (orderly_start store fun _ => {}) calm
  have sticky := run_assign_sticky store (fun _ => {}) [] moves ⟨1⟩ ⟨7⟩ built retains
  exact ⟨by decide +kernel, sticky.2.1⟩

end System

end SplitTest
