import SplitTest.Assign
import SplitTest.Proofs.Bucket.Selection
import SplitTest.Proofs.Service.Still

namespace SplitTest

namespace Assign

variable {base : Store} {experiment subject : Uuid} {troubled : Prop} {w : Workplace}

inductive Refused (base : Store) (experiment subject : Uuid) : Prop
  | missing (nowhere : base.experimentById experiment = none)
  | idle (e : Experiment) (stored : base.experimentById experiment = some e)
      (status : e.status ≠ .running)
  | outside (e : Experiment) (stored : base.experimentById experiment = some e)
      (unbound : base.assignment experiment subject = none)
      (out : Bucket.inTraffic experiment subject e.traffic = false)
  | bare (e : Experiment) (stored : base.experimentById experiment = some e)
      (unbound : base.assignment experiment subject = none) (empty : e.variants.isEmpty = true)

inductive Bound (base : Store) (experiment subject : Uuid) : String → Store → Prop
  | found (a : Assignment) (bound : base.assignment experiment subject = some a) :
      Bound base experiment subject a.variant base
  | inserted (e : Experiment) (a : Assignment) (stored : base.experimentById experiment = some e)
      (key : a.key = (experiment, subject)) (unbound : base.assignment experiment subject = none)
      (inside : Bucket.inTraffic experiment subject e.traffic = true)
      (selected : Bucket.select experiment subject e.variants.names = .ok a.variant) :
      Bound base experiment subject a.variant
        { base with assignments := base.assignments.insert a.key a }

theorem bindNew_runs {e : Experiment} (still : w.Still troubled base)
    (stored : base.experimentById experiment = some e)
    (unbound : base.assignment experiment subject = none)
    (selects : e.variants.isEmpty = false → ∀ cause,
      Bucket.select experiment subject e.variants.names = .error cause → troubled) :
    Operation.Runs troubled base (fun _ => Refused base experiment subject)
      (fun variant w => Bound base experiment subject variant w.store)
      (bindNew e experiment subject) w := by
  unfold bindNew
  dsimp only
  split
  case isTrue out =>
    apply Operation.Runs.bind
    apply Operation.Runs.report still
    intro w still
    exact .throw still (.outside e stored unbound (by simpa using out))
  case isFalse inside =>
    split
    case isTrue empty => exact .throw still (.bare e stored unbound empty)
    case isFalse full =>
      apply Operation.Runs.bind
      apply Operation.Runs.ofExcept still
      · intro variant selected
        apply Operation.Runs.bind
        apply Operation.Runs.now still
        intro t w still
        apply Operation.Runs.bind
        let a : Assignment := { experiment, subject, variant, assignedAt := t }
        have told : (Call.createAssignment a).perform base =
            (.ok .inserted, { base with assignments := base.assignments.insert a.key a }) := by
          have fresh : a.key ∉ base.assignments := by
            rw [Std.ExtTreeMap.mem_iff_isSome_getElem?, Option.not_isSome_iff_eq_none]
            exact unbound
          simp only [Call.perform, Store.createAssignment, if_neg fresh]
        apply Operation.Runs.write still told
        intro w store quiet
        apply Operation.Runs.bind
        apply Operation.Runs.emit (quiet 0)
        apply Operation.Runs.pure
        have same : (Workplace.reply (.emit (event .info "assignment created" experiment subject
            [("variant", variant)])) w).2.store = w.store := rfl
        rw [same, store]
        exact .inserted e a stored rfl unbound (by simpa using inside) selected
      · exact selects (by simpa using full)

theorem body_runs (still : w.Still troubled base)
    (selects : ∀ e, base.experimentById experiment = some e → e.variants.isEmpty = false → ∀ cause,
      Bucket.select experiment subject e.variants.names = .error cause → troubled) :
    Operation.Runs troubled base (fun _ => Refused base experiment subject)
      (fun variant w => Bound base experiment subject variant w.store)
      (body experiment subject) w := by
  apply Operation.Runs.bind
  apply Operation.Runs.call still rfl rfl
  intro w still
  cases stored : base.experimentById experiment with
  | none => exact .throw still (.missing stored)
  | some e =>
    dsimp only
    split
    case isTrue status => exact .throw still (.idle e stored status)
    case isFalse =>
      apply Operation.Runs.bind
      apply Operation.Runs.call still rfl rfl
      intro w still
      cases bound : base.assignment experiment subject with
      | none => exact bindNew_runs still stored bound (selects e stored)
      | some a =>
        apply Operation.Runs.pure
        rw [still.store]
        exact .found a bound

end Assign

theorem assign_comes {base : Store} {experiment subject : Uuid} {troubled : Prop} {w : Workplace}
    (still : w.Still troubled base)
    (selects : ∀ e, base.experimentById experiment = some e → e.variants.isEmpty = false → ∀ cause,
      Bucket.select experiment subject e.variants.names = .error cause → troubled) :
    ∃ outcome w', (assign experiment subject).run Workplace.reply w = (.ok outcome, w') ∧
      Operation.Comes troubled base (fun _ => Assign.Refused base experiment subject ∨ troubled)
        (fun variant w => Assign.Bound base experiment subject variant w.store ∧
          w.unit.pending = []) (.ok outcome) w' := by
  obtain ⟨outcome, w', ran, comes⟩ :=
    Transaction.run_comes (Assign.body_runs still selects)
  refine ⟨outcome, w', ran, ?_⟩
  cases outcome with
  | error e => exact comes
  | ok variant =>
    obtain ⟨w₁, bound, rfl⟩ := comes
    exact ⟨bound, rfl⟩

end SplitTest
