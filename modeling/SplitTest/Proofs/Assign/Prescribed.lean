import SplitTest.Proofs.Bucket.Selection
import SplitTest.Proofs.Lifecycle.Revision
import SplitTest.Proofs.Store.Assignments

namespace SplitTest

structure Experiment.Prescribes (e : Experiment) (a : Assignment) : Prop where
  started : e.status = .running ∨ e.status = .completed
  inside : Bucket.inTraffic a.experiment a.subject e.traffic = true
  selected : Bucket.select a.experiment a.subject e.variants.names = .ok a.variant

theorem Status.started_of_path {s s' : Status} (path : Relation.ReflTransGen Next s s')
    (started : s = .running ∨ s = .completed) : s' = .running ∨ s' = .completed := by
  induction path with
  | refl => exact started
  | tail path next ih =>
    cases next with
    | start => simp at ih
    | stop => exact .inr rfl

theorem Experiment.Evolves.prescribes {e e' : Experiment} {a : Assignment}
    (evolves : e.Evolves e') (prescribes : e.Prescribes a) : e'.Prescribes a := by
  have past : e.status ≠ .draft := by
    rintro draft
    have started := prescribes.started
    simp [draft] at started
  obtain ⟨-, variants, -, traffic, -⟩ := evolves.frozen past
  constructor
  case started => exact Status.started_of_path evolves.path prescribes.started
  case inside =>
    rw [traffic]
    exact prescribes.inside
  case selected =>
    rw [variants]
    exact prescribes.selected

namespace System

variable {ι : Type} {w : System ι}

def Prescribed (w : System ι) : Prop :=
  ∀ (key : AssignmentKey) (a : Assignment), w.store.assignments[key]? = some a →
    ∃ e, w.store.experimentById a.experiment = some e ∧ e.Prescribes a

variable [DecidableEq ι] {move : Move ι} {key : AssignmentKey} {a : Assignment}

theorem Steady.bound_step (steady : Steady w) (calm : move.Quiet)
    (found : (w.step move).store.assignments[key]? = some a) :
    w.store.assignments[key]? = some a ∨
      ∃ e, w.store.experimentById a.experiment = some e ∧ e.Prescribes a := by
  have turn := w.turn_step move
  generalize w.step move = w' at turn found
  cases turn with
  | skipped => exact .inl found
  | accepted => exact .inl found
  | finished => exact .inl found
  | meddled => exact calm.elim
  | tookBack busy rest left => exact (steady.quiet.not_left steady.orderly busy rest left).elim
  | @answered i chance task request next busy rest =>
    obtain old | ⟨rfl, -⟩ := request.perform_assignments_cases found
    · exact .inl old
    · obtain ⟨settings, service, job⟩ := (steady.quiet i).served busy
      have meets := (steady.orderly.faithful busy).meets
      rw [rest, job, Program.meets_ask] at meets
      obtain ⟨e, read, running, inside, selected⟩ := meets.1
      obtain ⟨now, stored, evolves⟩ := steady.reads busy read
      exact .inr ⟨now, stored, evolves.prescribes ⟨.inl running, inside, selected⟩⟩

theorem Prescribed.step (prescribed : w.Prescribed) (steady : Steady w) (calm : move.Quiet) :
    (w.step move).Prescribed := by
  intro key a found
  have before : ∃ e, w.store.experimentById a.experiment = some e ∧ e.Prescribes a := by
    obtain old | new := steady.bound_step calm found
    · exact prescribed key a old
    · exact new
  obtain ⟨e, stored, prescribes⟩ := before
  obtain ⟨e', stored', evolves⟩ := steady.evolves_step calm (.refl e) stored
  exact ⟨e', stored', evolves.prescribes prescribes⟩

theorem prescribed_run {moves : List (Move ι)} (calm : ∀ move ∈ moves, move.Quiet) :
    (({} : System ι).run moves).Prescribed := by
  have kept : Steady (({} : System ι).run moves) ∧ (({} : System ι).run moves).Prescribed := by
    apply run_keeps (fun w => Steady w ∧ w.Prescribed)
    · intro w move m kept
      exact ⟨kept.1.step (calm move m), kept.2.step kept.1 (calm move m)⟩
    · refine ⟨steady_start .empty fun _ => rfl, ?_⟩
      intro key a found
      simp at found
  exact kept.2

/-- Whatever calls interleave, a subject that is assigned is so to an experiment that has been
started, is inside its traffic, and has the variant that its digest selects among its variants. -/
theorem run_assignments_prescribed (moves : List (Move ι)) (experiment subject : Uuid)
    (a : Assignment) (calm : ∀ move ∈ moves, move.Quiet) :
    let final := ({} : System ι).run moves
    final.store.assignment experiment subject = some a →
      a.key = (experiment, subject) ∧ ∃ e, final.store.experimentById experiment = some e ∧
        (e.status = .running ∨ e.status = .completed) ∧
        Bucket.inTraffic experiment subject e.traffic = true ∧
        Bucket.select experiment subject e.variants.names = .ok a.variant ∧
        a.variant ∈ e.variants := by
  intro final found
  have key : a.key = (experiment, subject) := (built_run .empty).keyed.assignments found
  obtain ⟨e, stored, started, inside, selected⟩ := prescribed_run calm _ a found
  obtain ⟨rfl, rfl⟩ := Prod.mk.inj key
  refine ⟨rfl, e, stored, started, inside, selected, ?_⟩
  exact Std.ExtTreeMap.mem_keys.mp (Bucket.mem_of_select selected)

theorem run_assignments_prescribed_stopped :
    let draft : Draft :=
      { name := "colour", traffic := 68
        variants := Std.ExtTreeMap.ofList [("red", Json.null), ("blue", Json.null)] }
    let serve (i : Bool) (service : Service) (n : Nat) : List (Move Bool) :=
      .begin i (.service {} service) :: List.replicate n (.proceed i { id := ⟨1⟩ })
    let moves := serve true (.create draft ⟨2⟩) 7 ++ serve true (.start ⟨1⟩) 7 ++
      serve false (.assign ⟨1⟩ ⟨7⟩) 2 ++ serve true (.stop ⟨1⟩) 7 ++
        List.replicate 5 (.proceed false {})
    let final := ({} : System Bool).run moves
    (final.store.experimentById ⟨1⟩).map (·.status) = some .completed ∧
      ∃ a e, final.store.assignment ⟨1⟩ ⟨7⟩ = some a ∧ final.store.experimentById ⟨1⟩ = some e ∧
        Bucket.inTraffic ⟨1⟩ ⟨7⟩ e.traffic = true ∧
        Bucket.select ⟨1⟩ ⟨7⟩ e.variants.names = .ok a.variant := by
  intro draft serve moves final
  have calm : ∀ move ∈ moves, move.Quiet := by simp [moves, serve, Move.Quiet]
  have reached : (final.store.experimentById ⟨1⟩).map (·.status) = some .completed ∧
      (final.store.assignment ⟨1⟩ ⟨7⟩).isSome = true := by
    simp only [final, moves, serve, run, List.foldl_append, List.foldl_cons, step.eq_1, begin,
      accept, Job.program, Service.program, assign, Assign.body, Assign.bindNew, Bucket.select,
      Bucket.ordered_eq_insertionSort]
    decide +kernel
  obtain ⟨completed, bound⟩ := reached
  obtain ⟨a, found⟩ := Option.isSome_iff_exists.mp bound
  obtain ⟨-, e, stored, -, inside, selected, -⟩ :=
    run_assignments_prescribed moves ⟨1⟩ ⟨7⟩ a calm found
  exact ⟨completed, a, e, found, stored, inside, selected⟩

end System

end SplitTest
